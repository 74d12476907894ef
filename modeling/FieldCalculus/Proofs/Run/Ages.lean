import FieldCalculus.Proofs.Binary64.WholeNumbers
import FieldCalculus.Proofs.Exact.Rational
import FieldCalculus.Proofs.Operation.Aging
import FieldCalculus.Proofs.Run.Attributes
/-!
# Ages over a run

Over a run a field that is not replaced goes through the transitions of all the operations,
one after the other.  As long as ages count exactly, its age grows by their number.
-/

namespace FieldCalculus

/-- Counting up to the bound by ones is exact. -/
def Scalar.CountsTo (α : Type) [Scalar α] (bound : ℕ) : Prop :=
  ∀ n < bound, (n : α) + 1.0 = (n + 1 : ℕ)

theorem ExactScalar.countsTo {α : Type} [ExactScalar α] (bound : ℕ) :
    Scalar.CountsTo α bound := by
  intro n _
  rw [ExactScalar.one_eq, Nat.cast_succ]

theorem Binary64.countsTo : Scalar.CountsTo Float (2 ^ 53) := fun _ => natCast_add_one

variable {α : Type} [Scalar α]

namespace Scalar.CountsTo

theorem mono {bound bound' : ℕ} (h : CountsTo α bound) (hle : bound' ≤ bound) :
    CountsTo α bound' :=
  fun n hn => h n (hn.trans_le hle)

theorem iterate_add_one {m n : ℕ} (h : CountsTo α (m + n)) :
    (· + 1.0)^[n] (m : α) = (m + n : ℕ) := by
  induction n with
  | zero => rfl
  | succ n ih =>
      rw [Function.iterate_succ_apply', ih (h.mono (by omega))]
      exact h (m + n) (by omega)

end Scalar.CountsTo

namespace Operation

variable {maxDepth : α} {x : String}

/-- How many transitions a run takes the field with this name through. -/
def transitionsOver (maxDepth : α) (x : String) : Registry α → List (Operation α) → ℕ
  | _, [] => 0
  | r, op :: rest =>
    op.transitions r x + transitionsOver maxDepth x (op.apply r maxDepth).1 rest

theorem exists_ages_applyAll {r : Registry α} {ops : List (Operation α)} {f : EnergyField α}
    (hx : r.get? x = some f) (happlied : AllApplied maxDepth r ops)
    (hkept : ∀ op ∈ ops, ¬ op.Replaces x) :
    ∃ g, (applyAll maxDepth r ops).get? x = some g ∧
      f.Ages (transitionsOver maxDepth x r ops) g := by
  induction ops generalizing r f with
  | nil => exact ⟨f, hx, .refl f⟩
  | cons op rest ih =>
      obtain ⟨hop, hrest⟩ := happlied
      obtain ⟨f', hx', hstep⟩ := exists_ages_of_applied hop hx (hkept op List.mem_cons_self)
      obtain ⟨g, hg, hlater⟩ :=
        ih hx' hrest fun later hlater => hkept later (List.mem_cons_of_mem op hlater)
      exact ⟨g, hg, hstep.trans hlater⟩

end Operation

open Operation in
/-- In a run of applied operations that do not replace a field, its age goes up by one as many
times as the operations have transitions for it.  A whole age is then higher by their number,
in exact arithmetic always and in binary64 up to `2 ^ 53`. -/
theorem age_over_run {r : Registry α} {maxDepth : α} {ops : List (Operation α)}
    {x : String} {f : EnergyField α} (hx : r.get? x = some f)
    (happlied : AllApplied maxDepth r ops) (hkept : ∀ op ∈ ops, ¬ op.Replaces x) :
    ∃ g, (applyAll maxDepth r ops).get? x = some g ∧
      g.age = (· + 1.0)^[transitionsOver maxDepth x r ops] f.age ∧
      ∀ age : ℕ, f.age = age → Scalar.CountsTo α (age + transitionsOver maxDepth x r ops) →
        g.age = (age + transitionsOver maxDepth x r ops : ℕ) := by
  obtain ⟨g, hg, -, hage⟩ := exists_ages_applyAll hx happlied hkept
  refine ⟨g, hg, hage, ?_⟩
  intro age hstart hcounts
  rw [hage, hstart, hcounts.iterate_add_one]

open Operation in
/-- Two changes of phase, of which the field can pay for the first only, and a network that
names the field twice. -/
theorem age_over_run_two_phases :
    let r : Registry Float :=
      (Registry.empty.put (EnergyField.create "a" 100.0)).put (EnergyField.create "b" 60.0)
    let ops : List (Operation Float) :=
      [.interaction ["a", "b"] "", .network ["a", "b", "a"] "", .symbiosis "a" "a",
       .phaseTransition "a" "plasma", .decay "a" 0.99, .phaseTransition "a" "normal",
       .creation "c" 5.0, .spatialFlow "b" "a", .entangle "a" "c", .resonance "a" "b"]
    AllApplied 12.0 r ops ∧ (∀ op ∈ ops, ¬ op.Replaces "a") ∧
      ∃ g, (applyAll 12.0 r ops).get? "a" = some g ∧ g.age = (9 : ℕ) := by
  intro r ops
  have hx : r.get? "a" = some (EnergyField.create "a" 100.0) := rfl
  have happlied : AllApplied 12.0 r ops := by decide +kernel
  have hkept : ∀ op ∈ ops, ¬ op.Replaces "a" := by decide +kernel
  have hcount : transitionsOver 12.0 "a" r ops = 9 := by decide +kernel
  obtain ⟨g, hg, -, hage⟩ := age_over_run hx happlied hkept
  rw [hcount] at hage
  exact ⟨happlied, hkept, g, hg, hage 0 rfl (Binary64.countsTo.mono (by norm_num))⟩

end FieldCalculus
