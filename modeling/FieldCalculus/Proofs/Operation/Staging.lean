import FieldCalculus.Evaluation
import FieldCalculus.Registry.Lemmas
/-!
# Reading and staging keep the registry

A handler changes the registry through `commit` alone.  Looking fields up keeps the registry,
and so does the staging of a network: each pair of its members is run on fields that are not
stored yet, and whatever the pairs come to, the registry stays as it was before the first.
-/

namespace FieldCalculus

variable {α : Type}

namespace Evaluation

/-! ## Access to the registry -/

@[simp] theorem run_find (r : Registry α) (name : String) :
    (find name).run r = pure (r.get? name, r) := rfl

@[simp] theorem run_commit (r : Registry α) (fields : List (EnergyField α)) :
    (commit fields).run r = pure ((), r.commit fields) := rfl

variable [Scalar α]

@[simp] theorem run_resolve (r : Registry α) (name : String) (energy : α) :
    (resolve name energy).run r = pure (r.resolve name energy, r) := rfl

/-! ## The members of a network -/

/-- The member of a network as it is now, among the staged fields or else in the registry. -/
def member (r staged : Registry α) (name : String) : EnergyField α :=
  (staged.get? name).getD (r.resolve name defaultEnergies.network)

@[simp] theorem run_current (r staged : Registry α) (name : String) :
    (current staged name).run r = pure (member r staged name, r) := by
  unfold current member
  cases staged.get? name <;> rfl

/-- All members of a network as they are before the first pair. -/
def members (r : Registry α) (names : List String) : Registry α :=
  names.foldl (fun staged name => staged.put (member r staged name)) .empty

@[simp] theorem run_stageMembers (r : Registry α) (names : List String) :
    (stageMembers names).run r = pure (members r names, r) := by
  unfold stageMembers members
  generalize Registry.empty = staged
  induction names generalizing staged with
  | nil => rfl
  | cons name rest ih => simpa using ih (staged.put (member r staged name))

/-! ## The pairs of a network -/

/-- What the pairs of a network leave staged, or the fault of the first that does not
balance. -/
def runPairs (r staged : Registry α) : List (String × String) → Except (Fault α) (Registry α)
  | [] => .ok staged
  | (a, b) :: rest =>
    let f := member r staged a
    let g := member r staged b
    let after := f.interact g
    match gate .network (f, g) after with
    | some fault => .error fault
    | none => runPairs r ((staged.put after.1).put after.2) rest

/-- No pair changes the registry, neither one that balances nor the one that ends the run. -/
@[simp] theorem run_stagePairs (r staged : Registry α) (pairs : List (String × String)) :
    (stagePairs staged pairs).run r = pure (runPairs r staged pairs, r) := by
  induction pairs generalizing staged with
  | nil => rfl
  | cons p rest ih =>
      obtain ⟨a, b⟩ := p
      simp only [stagePairs, runPairs, StateT.run_bind, run_current, pure_bind]
      cases gate .network (member r staged a, member r staged b)
          ((member r staged a).interact (member r staged b)) with
      | some fault => rfl
      | none => exact ih _

end Evaluation

end FieldCalculus
