import Mathlib.Algebra.BigOperators.Group.List.Basic
import FieldCalculus.Proofs.Exact
import FieldCalculus.Proofs.State.KeyOrder
import FieldCalculus.SystemState
/-!
# What a system state shows of a registry

Every registered field has one entry, and entries stand in key order.  The totals are taken in
the order of the registry; in exact arithmetic they are the totals of the entries all the same.
-/

namespace FieldCalculus

variable {α : Type}

theorem Registry.filter_name_eq (r : Registry α) (x : String) :
    r.fields.filter (·.name = x) = (r.get? x).toList := by
  obtain ⟨fields, hnodup⟩ := r
  change fields.filter (·.name = x) = (fields.find? (·.name = x)).toList
  induction fields with
  | nil => rfl
  | cons f rest ih =>
      rw [List.map_cons, List.nodup_cons] at hnodup
      by_cases hname : f.name = x
      · have hrest : rest.filter (·.name = x) = [] := by
          rw [List.filter_eq_nil_iff]
          intro g hg
          have hne : g.name ≠ f.name := fun h => hnodup.1 (h ▸ List.mem_map_of_mem hg)
          simpa [← hname] using hne
        simp [hname, hrest]
      · simpa [hname] using ih hnodup.2

namespace SystemState

section

variable [Scalar α] (r : Registry α) (budget : Budget α)

theorem lists_fields_ofRegistry :
    KeyOrder.Lists Prod.fst (r.fields.map EnergyField.entry) (ofRegistry r budget).fields := by
  apply KeyOrder.ordered_lists
  rw [List.map_map]
  exact r.nodup

theorem length_fields_ofRegistry : (ofRegistry r budget).fields.length = r.size := by
  rw [(lists_fields_ofRegistry r budget).perm.length_eq, List.length_map, Registry.size]

/-- A registered name has one entry, which is that of its field, and another name has none. -/
theorem filter_fields_ofRegistry (x : String) :
    (ofRegistry r budget).fields.filter (·.1 = x) =
      ((r.get? x).map EnergyField.entry).toList := by
  have hperm := (lists_fields_ofRegistry r budget).perm.filter (·.1 = x)
  have hentries : (r.fields.map EnergyField.entry).filter (·.1 = x) =
      ((r.get? x).map EnergyField.entry).toList := by
    rw [List.filter_map, Option.toList_map, ← r.filter_name_eq x]
    rfl
  rw [hentries] at hperm
  cases hfound : r.get? x with
  | none =>
      rw [hfound] at hperm
      exact hperm.eq_nil
  | some f =>
      rw [hfound] at hperm
      exact hperm.eq_singleton

end

/-! ## Totals and means -/

variable [ExactScalar α]

theorem sum_eq (values : List α) : Scalar.sum values = values.sum := by
  rw [Scalar.sum, ExactScalar.zero_eq, List.sum_eq_foldl]

theorem mean_eq (values : List α) : Scalar.mean values = values.sum / values.length := by
  cases values with
  | nil => simp [Scalar.mean, ExactScalar.zero_eq]
  | cons first rest => rw [Scalar.mean, if_neg (by simp), sum_eq]

/-- The totals and means of a state are those of the entries it lists. -/
structure Summarises (s : SystemState α) : Prop where
  totalEnergy : s.totalEnergy = (s.fields.map (·.2.energy)).sum
  totalEntropy : s.totalEntropy = (s.fields.map (·.2.entropy)).sum
  averageCapacity : s.averageCapacity = (s.fields.map (·.2.capacity)).sum / s.fields.length
  averageCoherence : s.averageCoherence = (s.fields.map (·.2.coherence)).sum / s.fields.length
  empty : s.fields = [] → s.totalEnergy = 0 ∧ s.totalEntropy = 0 ∧
    s.averageCapacity = 0 ∧ s.averageCoherence = 0

theorem summarises_ofRegistry (r : Registry α) (budget : Budget α) :
    (ofRegistry r budget).Summarises := by
  have hperm := (lists_fields_ofRegistry r budget).perm
  have hsum (attr : Snapshot α → α) : Scalar.sum (r.fields.map fun f => attr f.snapshot) =
      ((ofRegistry r budget).fields.map fun entry => attr entry.2).sum := by
    rw [sum_eq, (hperm.map _).sum_eq, List.map_map]
    rfl
  have hmean (attr : Snapshot α → α) : Scalar.mean (r.fields.map fun f => attr f.snapshot) =
      ((ofRegistry r budget).fields.map fun entry => attr entry.2).sum /
        (ofRegistry r budget).fields.length := by
    rw [mean_eq, ← sum_eq, hsum, List.length_map, length_fields_ofRegistry, Registry.size]
  constructor
  case totalEnergy => exact hsum Snapshot.energy
  case totalEntropy => exact hsum Snapshot.entropy
  case averageCapacity => exact hmean Snapshot.capacity
  case averageCoherence => exact hmean Snapshot.coherence
  case empty =>
    intro hempty
    refine ⟨(hsum Snapshot.energy).trans ?_, (hsum Snapshot.entropy).trans ?_,
      (hmean Snapshot.capacity).trans ?_, (hmean Snapshot.coherence).trans ?_⟩ <;>
      simp [hempty]

end SystemState

end FieldCalculus
