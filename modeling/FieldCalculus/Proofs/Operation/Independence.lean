import FieldCalculus.Proofs.Exact.Rational
import FieldCalculus.Proofs.Operation.Footprint
/-!
# Operations that do not touch each other

Two operations are independent if neither writes a name that the other names or writes.
Then neither can tell whether the other has already been applied, and it does not matter
which of them comes first.
-/

namespace FieldCalculus

variable {α : Type}

/-! ## Fields outside a commit -/

namespace Registry

theorem get?_commit_of_not_mem {r : Registry α} {fields : List (EnergyField α)} {name : String}
    (h : ∀ f ∈ fields, f.name ≠ name) : (r.commit fields).get? name = r.get? name := by
  induction fields generalizing r with
  | nil => rfl
  | cons f rest ih =>
      have hf : name ≠ f.name := (h f List.mem_cons_self).symm
      rw [commit_cons, ih fun g hg => h g (List.mem_cons_of_mem f hg), get?_put_of_ne r f hf]

/-- What a commit leaves under a name depends on what was there before and on the commit. -/
theorem get?_commit_congr {r s : Registry α} {name : String} (h : r.get? name = s.get? name)
    (fields : List (EnergyField α)) :
    (r.commit fields).get? name = (s.commit fields).get? name := by
  induction fields generalizing r s with
  | nil => exact h
  | cons f rest ih =>
      rw [commit_cons, commit_cons]
      apply ih
      rw [get?_put, get?_put, h]

/-- Commits of fields with different names can be made in either order. -/
theorem get?_commit_comm (r : Registry α) {fields others : List (EnergyField α)}
    (h : ∀ f ∈ fields, ∀ g ∈ others, f.name ≠ g.name) (name : String) :
    ((r.commit fields).commit others).get? name =
      ((r.commit others).commit fields).get? name := by
  by_cases hname : ∃ f ∈ fields, f.name = name
  · obtain ⟨f, hf, rfl⟩ := hname
    have hothers : ∀ g ∈ others, g.name ≠ f.name := fun g hg => (h f hf g hg).symm
    rw [get?_commit_of_not_mem hothers]
    exact get?_commit_congr (get?_commit_of_not_mem hothers).symm fields
  · have hfields : ∀ f ∈ fields, f.name ≠ name := fun f hf e => hname ⟨f, hf, e⟩
    rw [get?_commit_of_not_mem hfields]
    exact get?_commit_congr (get?_commit_of_not_mem hfields) others

end Registry

variable [Scalar α]

namespace Operation

/-- Everything outside the names that an operation writes stays as it is. -/
theorem get?_apply_of_not_mem (r : Registry α) (maxDepth : α) {op : Operation α}
    {name : String} (h : name ∉ op.writes) :
    (op.apply r maxDepth).1.get? name = r.get? name := by
  obtain ⟨stored, hwritten, happly⟩ := op.exists_stored r maxDepth
  rw [happly r fun _ _ => rfl]
  apply Registry.get?_commit_of_not_mem
  rintro f hf rfl
  exact h (hwritten f hf)

/-- No name that the first operation writes is named or written by the second. -/
def Spares (p q : Operation α) : Prop :=
  ∀ name ∈ p.writes, name ∉ q.fields ∧ name ∉ q.writes

/-- An operation finds the fields that it names as they were before one that spares it. -/
theorem Spares.agreeOn {p q : Operation α} (h : p.Spares q) (r : Registry α) (maxDepth : α) :
    r.AgreeOn (p.apply r maxDepth).1 q.fields := by
  intro name hname
  exact (get?_apply_of_not_mem r maxDepth fun hwritten => (h name hwritten).1 hname).symm

end Operation

/-- Two operations that spare each other leave the same fields in either order, and each of
them gets the same verdict first and second. -/
theorem independent_operations_commute (r : Registry α) (maxDepth : α) (p q : Operation α)
    (hpq : p.Spares q) (hqp : q.Spares p) :
    let afterP := p.apply r maxDepth
    let afterQ := q.apply r maxDepth
    (∀ name, (q.apply afterP.1 maxDepth).1.get? name =
      (p.apply afterQ.1 maxDepth).1.get? name) ∧
    (p.apply afterQ.1 maxDepth).2 = afterP.2 ∧
    (q.apply afterP.1 maxDepth).2 = afterQ.2 := by
  intro afterP afterQ
  obtain ⟨storedP, hwrittenP, hp⟩ := p.exists_stored r maxDepth
  obtain ⟨storedQ, hwrittenQ, hq⟩ := q.exists_stored r maxDepth
  have hafterP : afterP.1 = r.commit storedP := congrArg Prod.fst (hp r fun _ _ => rfl)
  have hafterQ : afterQ.1 = r.commit storedQ := congrArg Prod.fst (hq r fun _ _ => rfl)
  have hpSecond := hp afterQ.1 (hqp.agreeOn r maxDepth)
  have hqSecond := hq afterP.1 (hpq.agreeOn r maxDepth)
  refine ⟨fun name => ?_, by rw [hpSecond], by rw [hqSecond]⟩
  calc
    (q.apply afterP.1 maxDepth).1.get? name =
        ((r.commit storedP).commit storedQ).get? name := by
      rw [hqSecond, hafterP]
    _ = ((r.commit storedQ).commit storedP).get? name := by
      apply Registry.get?_commit_comm
      intro f hf g hg hfg
      exact (hpq f.name (hwrittenP f hf)).2 (hfg ▸ hwrittenQ g hg)
    _ = (p.apply afterQ.1 maxDepth).1.get? name := by
      rw [hpSecond, hafterQ]

/-- The split of `a` stores `a_fractal_1_0` and `a_fractal_1_1`, and the network creates `b`
and `c`, so these two operations can trade places. -/
theorem independent_operations_commute_split_and_network :
    let r : Registry ℚ := Registry.empty.put (EnergyField.create "a" 100)
    let p : Operation ℚ := .fractalSpawn "a" 2 1
    let q : Operation ℚ := .network ["b", "c", "b"] ""
    p.Spares q ∧ q.Spares p ∧
      (∀ name, (q.apply (p.apply r 12).1 12).1.get? name =
        (p.apply (q.apply r 12).1 12).1.get? name) ∧
      (q.apply (p.apply r 12).1 12).1.names =
        ["a", "a_fractal_1_0", "a_fractal_1_1", "b", "c"] := by
  intro r p q
  have hpq : p.Spares q := by
    unfold Operation.Spares
    decide +kernel
  have hqp : q.Spares p := by
    unfold Operation.Spares
    decide +kernel
  exact ⟨hpq, hqp, (independent_operations_commute r 12 p q hpq hqp).1, by decide +kernel⟩

end FieldCalculus
