import Mathlib.Algebra.BigOperators.Group.List.Basic
import FieldCalculus.Proofs.Exact.Angle
import FieldCalculus.Proofs.Exact.Rational
import FieldCalculus.Proofs.Operation.Names
/-!
# The parts of a split

A split to a whole depth makes a power of two of parts.  They divide the amounts of the field
evenly, and every part has a name, a place and an angle of its own.  A split to a depth above 31
would have more parts than a list can hold, and fails.
-/

namespace FieldCalculus

variable {α : Type} [ExactScalar α]

namespace EnergyField

/-- The fields are the parts of a split: together they have the amounts of the field, and no two
of them share a name, a place or an angle.  The angles go once around in even steps. -/
structure SplitInto (f : EnergyField α) (count : ℕ) (parts : List (EnergyField α)) : Prop where
  length_eq : parts.length = count
  total_sum : (parts.map (·.energy.total)).sum = f.energy.total
  kinetic_sum : (parts.map (·.energy.kinetic)).sum = f.energy.kinetic
  potential_sum : (parts.map (·.energy.potential)).sum = f.energy.potential
  entropy_sum : (parts.map (·.energy.entropy)).sum = f.energy.entropy
  names_nodup : (parts.map (·.name)).Nodup
  parent_not_mem : f.name ∉ parts.map (·.name)
  positions_nodup : (parts.map (·.position)).Nodup
  angles_nodup : (parts.map (·.energy.angle)).Nodup
  angle_mem : ∀ part ∈ parts, 0 ≤ part.energy.angle ∧ part.energy.angle < Scalar.tau
  angle_modEq : ∀ (i : ℕ) (part : EnergyField α), parts[i]? = some part →
    part.energy.angle ≡ f.energy.angle + i * (Scalar.tau / count) [PMOD Scalar.tau]

/-! ## How many parts there are -/

theorem spawnCount?_natCast (depth : ℕ) :
    spawnCount? (depth : α) = if depth ≤ 31 then some (2 ^ depth) else none := by
  have hlimit : 2 ^ depth ≤ maxSpawns ↔ depth ≤ 31 := by
    have hpower : 2 ^ depth < 2 ^ 32 ↔ depth < 32 := Nat.pow_lt_pow_iff_right (by decide)
    rw [maxSpawns]
    omega
  rw [spawnCount?, ExactScalar.units?_exp2, Option.filter_some]
  simp only [decide_eq_true_eq, hlimit]

theorem spawns?_natCast (f : EnergyField α) (depth : ℕ) :
    f.spawns? (depth : α) =
      if depth ≤ 31 then
        some ((List.range (2 ^ depth)).map (f.spawn depth ((2 ^ depth : ℕ) : α)))
      else none := by
  rw [spawns?, spawnCount?_natCast, ExactScalar.exp2_natCast]
  split <;> rfl

/-! ## What each part is -/

section

variable (f : EnergyField α) (depth : α) {count i j : ℕ}

/-- An amount that is divided evenly comes together again. -/
theorem sum_map_spawn (hcount : 0 < count) (amount : EnergyField α → α)
    (hpart : ∀ i, amount (f.spawn depth count i) = amount f / count) :
    (((List.range count).map (f.spawn depth count)).map amount).sum = amount f := by
  have heven : ((List.range count).map (f.spawn depth count)).map amount =
      List.replicate count (amount f / count) := by
    rw [List.map_map, List.eq_replicate_iff]
    simp [hpart]
  have hcast : (count : α) ≠ 0 := Nat.cast_ne_zero.mpr hcount.ne'
  rw [heven, List.sum_replicate, nsmul_eq_mul, mul_div_cancel₀ _ hcast]

/-- What tells any two of the parts apart does not repeat. -/
theorem nodup_map_spawn {β : Type} {key : EnergyField α → β}
    (hkey : ∀ i < count, ∀ j < count,
      key (f.spawn depth count i) = key (f.spawn depth count j) → i = j) :
    (((List.range count).map (f.spawn depth count)).map key).Nodup := by
  rw [List.map_map]
  refine List.Nodup.map_on (fun i hi j hj => ?_) List.nodup_range
  exact hkey i (List.mem_range.mp hi) j (List.mem_range.mp hj)

theorem latticeStep_ne_zero : (latticeStep : α) ≠ 0 := by
  norm_num [latticeStep, ExactScalar.decimal_eq]

/-- The three coordinates are digits of the number of the part. -/
theorem position_spawn_injective
    (h : (f.spawn depth count i).position = (f.spawn depth count j).position) : i = j := by
  have hdigit : ∀ (x : α) (m n : ℕ), x + m * latticeStep = x + n * latticeStep → m = n := by
    intro x m n hmn
    exact Nat.cast_injective (mul_right_cancel₀ latticeStep_ne_zero (add_left_cancel hmn))
  obtain ⟨hx, hy, hz⟩ := Vector3.mk.inj h
  have hfirst := hdigit _ _ _ hx
  have hsecond := hdigit _ _ _ hy
  have hthird := hdigit _ _ _ hz
  omega

theorem angle_spawn_modEq (i : ℕ) : (f.spawn depth count i).energy.angle ≡
    f.energy.angle + i * (Scalar.tau / count) [PMOD Scalar.tau] :=
  wrapAngle_modEq _

/-- As many steps as there are parts go once around. -/
theorem step_mem (hi : i < count) :
    0 ≤ (i : α) * (Scalar.tau / count) ∧ (i : α) * (Scalar.tau / count) < Scalar.tau := by
  have hcount : (0 : α) < count := Nat.cast_pos.mpr (Nat.zero_lt_of_lt hi)
  have hstep : (0 : α) < Scalar.tau / count := div_pos ExactScalar.tau_pos hcount
  constructor
  · exact mul_nonneg (Nat.cast_nonneg i) hstep.le
  · calc
      (i : α) * (Scalar.tau / count) < count * (Scalar.tau / count) :=
        mul_lt_mul_of_pos_right (Nat.cast_lt.mpr hi) hstep
      _ = Scalar.tau := mul_div_cancel₀ _ hcount.ne'

theorem angle_spawn_injective (hi : i < count) (hj : j < count)
    (h : (f.spawn depth count i).energy.angle = (f.spawn depth count j).energy.angle) :
    i = j := by
  have hsteps : (i : α) * (Scalar.tau / count) ≡ j * (Scalar.tau / count) [PMOD Scalar.tau] := by
    apply AddCommGroup.ModEq.add_left_cancel' f.energy.angle
    have hfirst : (f.spawn depth count i).energy.angle ≡
        f.energy.angle + i * (Scalar.tau / count) [PMOD Scalar.tau] :=
      f.angle_spawn_modEq depth i
    rw [h] at hfirst
    exact hfirst.symm.trans (f.angle_spawn_modEq depth j)
  have hcount : (count : α) ≠ 0 := Nat.cast_ne_zero.mpr (Nat.ne_zero_of_lt hi)
  have hstep : Scalar.tau / (count : α) ≠ 0 := div_ne_zero ExactScalar.tau_pos.ne' hcount
  have hequal := eq_of_modEq_tau hsteps (step_mem hi) (step_mem hj)
  exact Nat.cast_injective (mul_right_cancel₀ hstep hequal)

end

theorem splitInto_of_spawns? {f : EnergyField α} {depth : ℕ} {parts : List (EnergyField α)}
    (h : f.spawns? (depth : α) = some parts) : f.SplitInto (2 ^ depth) parts := by
  have hnames : parts.map (·.name) = spawnNames f.name (depth : α) := map_name_spawns h
  rw [spawns?_natCast] at h
  split at h
  · cases h
    have hpos : 0 < 2 ^ depth := Nat.two_pow_pos depth
    constructor
    case length_eq => rw [List.length_map, List.length_range]
    case names_nodup =>
      rw [hnames]
      exact nodup_spawnNames f.name (depth : α)
    case parent_not_mem =>
      rw [hnames]
      exact parent_not_mem_spawnNames f.name (depth : α)
    case positions_nodup =>
      exact f.nodup_map_spawn depth fun i _ j _ => f.position_spawn_injective depth
    case angles_nodup =>
      exact f.nodup_map_spawn depth fun i hi j hj => f.angle_spawn_injective depth hi hj
    case angle_mem =>
      rw [List.forall_mem_map]
      exact fun i _ => wrapAngle_mem _
    case angle_modEq =>
      intro i part hpart
      rw [List.getElem?_map, Option.map_eq_some_iff] at hpart
      obtain ⟨j, hj, rfl⟩ := hpart
      obtain rfl : i = j := by simpa using (List.getElem?_eq_some_iff.mp hj).2
      exact f.angle_spawn_modEq depth i
    all_goals exact f.sum_map_spawn depth hpos _ fun _ => rfl
  · cases h

end EnergyField

/-- A split to a depth of at most 31 divides the field into as many parts as that power of two,
and a split to any greater depth fails. -/
theorem split_into_power_of_two (f : EnergyField α) (depth : ℕ) :
    (depth ≤ 31 → ∃ parts, f.spawns? (depth : α) = some parts ∧ f.SplitInto (2 ^ depth) parts) ∧
      (31 < depth → f.spawns? (depth : α) = none) := by
  constructor
  · intro hdepth
    have hparts := f.spawns?_natCast depth
    rw [if_pos hdepth] at hparts
    exact ⟨_, hparts, EnergyField.splitInto_of_spawns? hparts⟩
  · intro hdepth
    rw [f.spawns?_natCast, if_neg (not_le.mpr hdepth)]

/-- The greatest depth at which there are parts, for a field whose angle is below zero. -/
theorem split_into_power_of_two_deepest :
    let f : EnergyField ℚ := { EnergyField.create "a" 128 with energy.angle := -1 }
    31 ≤ 31 ∧ ∃ parts, f.spawns? ((31 : ℕ) : ℚ) = some parts ∧ parts.length = 2147483648 ∧
      (parts.map (·.energy.total)).sum = 128 := by
  intro f
  obtain ⟨parts, hparts, hsplit⟩ := (split_into_power_of_two f 31).1 le_rfl
  exact ⟨le_rfl, parts, hparts, hsplit.length_eq, hsplit.total_sum⟩

/-- A split to depth 32 yields nothing. -/
theorem not_split_at_depth_32 :
    let f : EnergyField ℚ := EnergyField.create "a" 1
    ¬ ∃ parts, f.spawns? ((32 : ℕ) : ℚ) = some parts ∧ parts.length = 2 ^ 32 := by
  intro f
  rintro ⟨parts, hparts, _⟩
  rw [f.spawns?_natCast, if_neg (by decide)] at hparts
  cases hparts

end FieldCalculus
