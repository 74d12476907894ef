import Mathlib.Algebra.BigOperators.Group.Finset.Basic
import Mathlib.Tactic.Abel
import FieldCalculus.Proofs.Exchange.Enrollment
/-!
# Sums over a registry

The sum of an attribute over all registered fields, and how storing and enrolling fields
change it.  Storing a field adds its share and takes away that of the field it replaces.
-/

namespace FieldCalculus

variable {α β : Type} [AddCommGroup β]

private theorem sum_upsert (attr : EnergyField α → β) (f : EnergyField α)
    (fields : List (EnergyField α)) :
    ((f.upsert fields).map attr).sum +
        ((fields.find? (·.name = f.name)).map attr).getD 0 =
      (fields.map attr).sum + attr f := by
  induction fields with
  | nil => simp [EnergyField.upsert]
  | cons g rest ih =>
      by_cases h : g.name = f.name
      · simp only [EnergyField.upsert, h, if_true, List.map_cons, List.sum_cons,
          List.find?_cons, decide_true, Option.map_some, Option.getD_some]
        abel
      · simp only [EnergyField.upsert, h, if_false, List.map_cons, List.sum_cons,
          List.find?_cons, decide_false]
        rw [add_assoc, ih, add_assoc]

namespace Registry

/-- The sum of an attribute over all registered fields. -/
def sumOf (attr : EnergyField α → β) (r : Registry α) : β :=
  (r.fields.map attr).sum

theorem sumOf_put (attr : EnergyField α → β) (r : Registry α) (f : EnergyField α) :
    (r.put f).sumOf attr + ((r.get? f.name).map attr).getD 0 =
      r.sumOf attr + attr f :=
  sum_upsert attr f r.fields

theorem sumOf_put_of_get? (attr : EnergyField α → β) {r : Registry α}
    {f g : EnergyField α} (h : r.get? f.name = some g) :
    (r.put f).sumOf attr = r.sumOf attr + (attr f - attr g) := by
  have hsum := sumOf_put attr r f
  rw [h, Option.map_some, Option.getD_some] at hsum
  rw [eq_sub_of_add_eq hsum, add_sub_assoc]

theorem sumOf_put_of_not_mem (attr : EnergyField α → β) {r : Registry α}
    {f : EnergyField α} (h : f.name ∉ r.names) :
    (r.put f).sumOf attr = r.sumOf attr + attr f := by
  have hsum := sumOf_put attr r f
  rw [(get?_eq_none_iff r f.name).mpr h, Option.map_none, Option.getD_none, add_zero] at hsum
  exact hsum

/-- A pair of fields that replaces two registered ones changes a sum by the difference of
the two pairs.  If one field stands for both, the second write is the one that counts. -/
theorem sumOf_commit_pair (attr : EnergyField α → β) {r : Registry α}
    {f g f' g' : EnergyField α} (hf : r.get? f.name = some f) (hg : r.get? g.name = some g)
    (hf' : f'.name = f.name) (hg' : g'.name = g.name)
    (hpair : attr f' + attr g' = attr f + attr g)
    (hself : f = g → attr g' = attr g) :
    (r.commit [f', g']).sumOf attr = r.sumOf attr := by
  have hfirst : (r.put f').sumOf attr =
      r.sumOf attr + (attr f' - attr f) := by
    apply sumOf_put_of_get?
    rw [hf', hf]
  rw [commit_cons, commit_cons, commit_nil]
  -- with one field on both sides the second write replaces the first, not the original
  by_cases hfg : g.name = f.name
  · have hsame : f = g := eq_of_get?_name hf hg hfg.symm
    have hsecond : ((r.put f').put g').sumOf attr =
        (r.put f').sumOf attr + (attr g' - attr f') := by
      apply sumOf_put_of_get?
      rw [hg', hfg, ← hf', get?_put_self]
    rw [hsecond, hfirst, hself hsame, hsame]
    abel
  · have hsecond : ((r.put f').put g').sumOf attr =
        (r.put f').sumOf attr + (attr g' - attr g) := by
      apply sumOf_put_of_get?
      rw [hg', get?_put_of_ne _ _ (hf' ▸ hfg), hg]
    have hzero : attr f' - attr f + (attr g' - attr g) = 0 := by
      rw [← sub_eq_zero.mpr hpair]
      abel
    rw [hsecond, hfirst, add_assoc, hzero, add_zero]

/-- Enrolling names adds the share of one new field for each distinct missing name. -/
theorem sumOf_enroll [Scalar α] (attr : EnergyField α → β) (r : Registry α)
    (energy : α) (names : List String) {share : β}
    (hshare : ∀ name, attr (EnergyField.create name energy) = share) :
    (r.enroll energy names).sumOf attr =
      r.sumOf attr + (names.toFinset \ r.names.toFinset).card • share := by
  induction names generalizing r with
  | nil => simp
  | cons first rest ih =>
      rw [enroll_cons, ih]
      by_cases hfirst : first ∈ r.names
      · have hmissing : (first :: rest).toFinset \ r.names.toFinset =
            rest.toFinset \ r.names.toFinset := by
          rw [List.toFinset_cons, Finset.insert_sdiff_of_mem _ (List.mem_toFinset.mpr hfirst)]
        rw [enrollOne_of_mem energy hfirst, hmissing]
      · have hput : enrollOne energy r first = r.put (EnergyField.create first energy) := by
          rw [enrollOne, if_neg (mt (contains_iff_mem_names r first).mp hfirst)]
        have hnames : (r.put (EnergyField.create first energy)).names = r.names ++ [first] := by
          rw [names_put]
          exact if_neg hfirst
        have hsum : (r.put (EnergyField.create first energy)).sumOf attr =
            r.sumOf attr + share := by
          rw [sumOf_put_of_not_mem attr hfirst, hshare]
        have hcard : ((first :: rest).toFinset \ r.names.toFinset).card =
            (rest.toFinset \ (r.names ++ [first]).toFinset).card + 1 := by
          have hset : (first :: rest).toFinset \ r.names.toFinset =
              insert first (rest.toFinset \ (r.names ++ [first]).toFinset) := by
            ext name
            simp only [List.toFinset_cons, Finset.mem_sdiff, Finset.mem_insert,
              List.mem_toFinset, List.mem_append, List.mem_singleton]
            by_cases hname : name = first
            · subst hname
              simp [hfirst]
            · simp [hname]
          rw [hset, Finset.card_insert_of_notMem]
          simp
        rw [hput, hnames, hsum, hcard, succ_nsmul, add_assoc, add_comm share]

theorem sumOf_enroll_of_zero [Scalar α] (attr : EnergyField α → β) (r : Registry α)
    (energy : α) (names : List String)
    (hzero : ∀ name, attr (EnergyField.create name energy) = 0) :
    (r.enroll energy names).sumOf attr = r.sumOf attr := by
  rw [sumOf_enroll attr r energy names hzero, nsmul_zero, add_zero]

end Registry

end FieldCalculus
