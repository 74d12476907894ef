import FieldCalculus.Evaluation
import FieldCalculus.Proofs.Registry.Commit
/-!
# Enrolling missing fields

Operations create the fields that they name first.  Enrolling names creates those that are
missing, in the order in which they are named, and leaves every registered field alone.
-/

namespace FieldCalculus.Registry

variable {α : Type} [Scalar α]

/-- Registers a name that is missing with a new field. -/
def enrollOne (energy : α) (r : Registry α) (name : String) : Registry α :=
  if r.contains name then r else r.put (EnergyField.create name energy)

/-- Registers the names that are missing, each with a new field of the given energy. -/
def enroll (r : Registry α) (energy : α) (names : List String) : Registry α :=
  names.foldl (enrollOne energy) r

theorem resolve_of_get? {r : Registry α} {name : String} {f : EnergyField α} (energy : α)
    (h : r.get? name = some f) : r.resolve name energy = f := by
  rw [resolve, h]
  rfl

theorem name_resolve (r : Registry α) (name : String) (energy : α) :
    (r.resolve name energy).name = name := by
  cases h : r.get? name with
  | none =>
      rw [resolve, h]
      rfl
  | some f =>
      rw [resolve_of_get? energy h]
      exact name_of_get? h

theorem eq_of_resolve_name (r : Registry α) (a b : String) (energy : α)
    (h : (r.resolve a energy).name = (r.resolve b energy).name) :
    r.resolve a energy = r.resolve b energy := by
  rw [r.name_resolve, r.name_resolve] at h
  rw [h]

theorem enrollOne_eq_put (r : Registry α) (energy : α) (name : String) :
    enrollOne energy r name = r.put (r.resolve name energy) := by
  unfold enrollOne contains
  cases h : r.get? name with
  | none =>
      rw [resolve, h]
      rfl
  | some f =>
      have hself : r.get? f.name = some f := by
        rw [name_of_get? h, h]
      rw [resolve_of_get? energy h, put_of_get? hself]
      rfl

theorem get?_enrollOne (r : Registry α) (energy : α) (name other : String) :
    (enrollOne energy r name).get? other =
      if other = name then some (r.resolve name energy) else r.get? other := by
  rw [enrollOne_eq_put, get?_put, name_resolve]

theorem mem_names_enrollOne (r : Registry α) (energy : α) (name other : String) :
    other ∈ (enrollOne energy r name).names ↔ other ∈ r.names ∨ other = name := by
  rw [enrollOne_eq_put, mem_names_put, name_resolve]

theorem enrollOne_of_mem {r : Registry α} {name : String} (energy : α) (h : name ∈ r.names) :
    enrollOne energy r name = r := by
  rw [enrollOne, if_pos ((contains_iff_mem_names r name).mpr h)]

@[simp] theorem enroll_nil (r : Registry α) (energy : α) : r.enroll energy [] = r := rfl

@[simp] theorem enroll_cons (r : Registry α) (energy : α) (name : String)
    (names : List String) :
    r.enroll energy (name :: names) = (enrollOne energy r name).enroll energy names := rfl

theorem mem_names_enroll (r : Registry α) (energy : α) (names : List String)
    (name : String) :
    name ∈ (r.enroll energy names).names ↔ name ∈ r.names ∨ name ∈ names := by
  induction names generalizing r with
  | nil => simp
  | cons first rest ih => rw [enroll_cons, ih, mem_names_enrollOne, List.mem_cons, or_assoc]

/-- An enrolled registry holds every named field as the operation would resolve it. -/
theorem get?_enroll (r : Registry α) (energy : α) (names : List String) (name : String) :
    (r.enroll energy names).get? name =
      if name ∈ names then some (r.resolve name energy) else r.get? name := by
  induction names generalizing r with
  | nil => simp
  | cons first rest ih =>
      rw [enroll_cons, ih]
      have hresolve : (enrollOne energy r first).resolve name energy = r.resolve name energy := by
        rw [resolve, get?_enrollOne]
        split
        · next h => rw [h, Option.getD_some]
        · rfl
      rw [hresolve, get?_enrollOne]
      by_cases hrest : name ∈ rest
      · simp [hrest]
      · by_cases hfirst : name = first <;> simp [hrest, hfirst]

theorem get?_enroll_of_get? {r : Registry α} {name : String} {f : EnergyField α} (energy : α)
    (names : List String) (h : r.get? name = some f) :
    (r.enroll energy names).get? name = some f := by
  rw [get?_enroll, resolve_of_get? energy h, h, ite_self]

theorem enroll_of_subset {r : Registry α} {names : List String} (energy : α)
    (h : ∀ name ∈ names, name ∈ r.names) : r.enroll energy names = r := by
  induction names with
  | nil => rfl
  | cons first rest ih =>
      rw [enroll_cons, enrollOne_of_mem energy (h first List.mem_cons_self)]
      exact ih fun name hname => h name (List.mem_cons_of_mem first hname)

/-- Storing fields under enrolled names makes the enrollment unnecessary. -/
theorem commit_enroll (r : Registry α) (energy : α) {a b : String} {f g : EnergyField α}
    (hf : f.name = a) (hg : g.name = b) :
    (r.enroll energy [a, b]).commit [f, g] = r.commit [f, g] := by
  subst hf hg
  apply ext_get?
  · simp only [commit_cons, commit_nil, enroll_cons, enroll_nil, enrollOne_eq_put, names_put,
      name_resolve]
    by_cases hf : f.name ∈ r.names <;> by_cases hg : g.name ∈ r.names <;>
      by_cases hfg : g.name = f.name <;> simp_all
  · intro name
    simp only [commit_cons, commit_nil, get?_put, get?_enroll]
    split
    · rfl
    · next hg =>
      split
      · rfl
      · next hf => simp [hf, hg]

end FieldCalculus.Registry
