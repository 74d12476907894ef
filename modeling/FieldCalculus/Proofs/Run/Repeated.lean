import FieldCalculus.Proofs.Exact.Rational
import FieldCalculus.Proofs.Operation.Harvest
import FieldCalculus.Proofs.Run.Attributes
import FieldCalculus.Proofs.Run.SecondLaw
import Mathlib.Logic.Function.Iterate
/-!
# Repeated decay and repeated harvest

An operation that rebuilds one registered field and nothing else, applied again and again,
iterates what it does to that field.  Decay multiplies, so its powers are known at once, and the
entropy adds up to a tenth of the energy lost.  The bonus of a harvest does not depend on how
much capacity the field has, only on whether it has any, so it is the same in every round.
-/

namespace FieldCalculus

/-! ## One operation on one field -/

section

variable {α : Type}

/-- The second registry is the first one with another field under one of its names. -/
structure Registry.ReplacedAt (r : Registry α) (x : String) (f : EnergyField α)
    (s : Registry α) : Prop where
  names : s.names = r.names
  found : s.get? x = some f
  others : ∀ y, y ≠ x → s.get? y = r.get? y

variable {r : Registry α} {x : String} {f : EnergyField α}

theorem Registry.ReplacedAt.put {s : Registry α} {g : EnergyField α} (h : r.ReplacedAt x f s)
    (hg : g.name = x) : r.ReplacedAt x g (s.put g) where
  names := by
    rw [Registry.names_put, hg, if_pos (Registry.mem_names_of_get? h.found), h.names]
  found := by rw [← hg, Registry.get?_put_self]
  others y hy := by rw [Registry.get?_put_of_ne s g (hg ▸ hy), h.others y hy]

/-- An operation that only rebuilds one field iterates on that field. -/
theorem Operation.replacedAt_iterate [Scalar α] (op : Operation α) (maxDepth : α)
    (next : EnergyField α → EnergyField α) (hname : ∀ g, (next g).name = g.name)
    (hop : ∀ s g, s.get? x = some g →
      ∃ outcome, op.Applies s maxDepth outcome [next g])
    (hx : r.get? x = some f) (n : ℕ) :
    AllApplied maxDepth r (List.replicate n op) ∧
      r.ReplacedAt x (next^[n] f) (applyAll maxDepth r (List.replicate n op)) := by
  refine allApplied_replicate (fun n s => r.ReplacedAt x (next^[n] f) s)
    ⟨rfl, hx, fun _ _ => rfl⟩ ?_ n
  intro n s hs
  obtain ⟨outcome, happlies⟩ := hop s _ hs.found
  have hnext : (next (next^[n] f)).name = x := by
    rw [hname, Registry.name_of_get? hs.found]
  rw [happlies.apply_eq, Function.iterate_succ_apply']
  exact ⟨rfl, hs.put hnext⟩

end

variable {α : Type} [ExactScalar α]

namespace EnergyField

variable {f f' : EnergyField α} {rate input : α} {n : ℕ}

/-! ## Decays -/

theorem total_decay (f : EnergyField α) (rate : α) :
    (f.decay rate).energy.total = (1 - rate) * f.energy.total := by
  calc
    (f.decay rate).energy.total = f.energy.total - f.energy.total * rate := rfl
    _ = (1 - rate) * f.energy.total := by ring

theorem kinetic_decay (f : EnergyField α) (rate : α) :
    (f.decay rate).energy.kinetic = (1 - rate) * f.energy.kinetic := by
  rw [mul_comm, ← ExactScalar.one_eq]
  rfl

theorem potential_decay (f : EnergyField α) (rate : α) :
    (f.decay rate).energy.potential = (1 - rate) * f.energy.potential := by
  rw [mul_comm, ← ExactScalar.one_eq]
  rfl

theorem coherence_decay (f : EnergyField α) (rate : α) :
    (f.decay rate).energy.coherence = 19 / 20 * f.energy.coherence := by
  have hshare : (0.95 : α) = 19 / 20 := by norm_num [ExactScalar.decimal_eq]
  rw [mul_comm, ← hshare]
  rfl

theorem capacity_decay (f : EnergyField α) (rate : α) :
    (f.decay rate).capacity = 99 / 100 * f.capacity := by
  have hshare : (0.99 : α) = 99 / 100 := by norm_num [ExactScalar.decimal_eq]
  rw [mul_comm, ← hshare]
  rfl

theorem age_decay (f : EnergyField α) (rate : α) : (f.decay rate).age = f.age + 1 := by
  rw [← ExactScalar.one_eq]
  rfl

/-- How a field comes out of a number of decays. -/
structure DecayedTimes (f : EnergyField α) (rate : α) (n : ℕ) (f' : EnergyField α) : Prop where
  total : f'.energy.total = (1 - rate) ^ n * f.energy.total
  kinetic : f'.energy.kinetic = (1 - rate) ^ n * f.energy.kinetic
  potential : f'.energy.potential = (1 - rate) ^ n * f.energy.potential
  entropy : f'.energy.entropy =
    f.energy.entropy + (f.energy.total - (1 - rate) ^ n * f.energy.total) / 10
  coherence : f'.energy.coherence = (19 / 20) ^ n * f.energy.coherence
  capacity : f'.capacity = (99 / 100) ^ n * f.capacity
  age : f'.age = f.age + n
  evolves : f.Evolves .decay f'

theorem DecayedTimes.refl (f : EnergyField α) (rate : α) : f.DecayedTimes rate 0 f := by
  constructor
  case evolves => exact .refl _ f
  all_goals simp

theorem DecayedTimes.decay (h : f.DecayedTimes rate n f') :
    f.DecayedTimes rate (n + 1) (f'.decay rate) := by
  constructor
  case total => rw [total_decay, h.total, pow_succ', mul_assoc]
  case kinetic => rw [kinetic_decay, h.kinetic, pow_succ', mul_assoc]
  case potential => rw [potential_decay, h.potential, pow_succ', mul_assoc]
  case entropy =>
    -- what this decay loses joins what the earlier ones have lost
    rw [entropy_decay, h.entropy, h.total]
    ring
  case coherence => rw [coherence_decay, h.coherence, pow_succ', mul_assoc]
  case capacity => rw [capacity_decay, h.capacity, pow_succ', mul_assoc]
  case age => rw [age_decay, h.age, Nat.cast_succ, add_assoc]
  case evolves => exact h.evolves.trans (f'.evolves_decay rate)

theorem decayedTimes_iterate (f : EnergyField α) (rate : α) (n : ℕ) :
    f.DecayedTimes rate n ((·.decay rate)^[n] f) := by
  induction n with
  | zero => exact .refl f rate
  | succ n ih =>
      rw [Function.iterate_succ_apply']
      exact ih.decay

/-! ## Harvests -/

/-- The total energy that a harvest leaves of a total, for a field with capacity. -/
def harvested (input total : α) : α :=
  (total + input * 0.7) * (1 + min (input * 0.003) 0.2)

theorem harvested_eq (input total : α) :
    harvested input total = (total + 7 / 10 * input) * (1 + min (3 / 1000 * input) (1 / 5)) := by
  have hwork : (0.7 : α) = 7 / 10 := by norm_num [ExactScalar.decimal_eq]
  have hgrowth : (0.003 : α) = 3 / 1000 := by norm_num [ExactScalar.decimal_eq]
  have hfifth : (0.2 : α) = 1 / 5 := by norm_num [ExactScalar.decimal_eq]
  rw [harvested, hwork, hgrowth, hfifth, mul_comm input, mul_comm input]

theorem total_regenerate_of_pos (hcapacity : 0 < f.capacity) (input : α) :
    (f.regenerate input).energy.total = harvested input f.energy.total := by
  rw [total_regenerate, bonus_eq, if_pos hcapacity, harvested_eq]
  congr 2 <;> ring_nf

/-- How a field with capacity comes out of a number of harvests. -/
structure HarvestedTimes (f : EnergyField α) (input : α) (n : ℕ) (f' : EnergyField α) : Prop where
  total : f'.energy.total = (harvested input)^[n] f.energy.total
  kinetic : f'.energy.kinetic = f.energy.kinetic + n * (21 / 50 * input)
  potential : f'.energy.potential = f.energy.potential + n * (7 / 25 * input)
  entropy : f'.energy.entropy = f.energy.entropy + n * (input / 200)
  coherence : f'.energy.coherence =
    if n = 0 then f.energy.coherence else min (f.energy.coherence + n / 100) 1
  capacity : f'.capacity = (1 + 3 / 1000 * input) ^ n * f.capacity
  age : f'.age = f.age + n
  evolves : f.Evolves .regenerate f'

theorem HarvestedTimes.refl (f : EnergyField α) (input : α) : f.HarvestedTimes input 0 f := by
  constructor
  case evolves => exact .refl _ f
  all_goals simp

theorem HarvestedTimes.capacity_pos (h : f.HarvestedTimes input n f') (hcapacity : 0 < f.capacity)
    (hinput : 0 ≤ input) : 0 < f'.capacity := by
  rw [h.capacity]
  positivity

/-- The cap on the coherence may as well be put on once, after all the steps. -/
theorem min_add_min_one (q step : α) (hstep : 0 ≤ step) (n : ℕ) :
    min ((if n = 0 then q else min (q + n * step) 1) + step) 1 = min (q + (n + 1) * step) 1 := by
  have hsum : q + n * step + step = q + (n + 1) * step := by ring
  split
  · next hzero => rw [hzero, Nat.cast_zero, zero_add, one_mul]
  · rw [← min_add_add_right, min_assoc, hsum, min_eq_right (le_add_of_nonneg_right hstep)]

theorem HarvestedTimes.regenerate (h : f.HarvestedTimes input n f') (hcapacity : 0 < f.capacity)
    (hinput : 0 ≤ input) : f.HarvestedTimes input (n + 1) (f'.regenerate input) := by
  constructor
  case total =>
    rw [total_regenerate_of_pos (h.capacity_pos hcapacity hinput), h.total,
      Function.iterate_succ_apply']
  case kinetic =>
    rw [kinetic_regenerate, h.kinetic, Nat.cast_succ]
    ring
  case potential =>
    rw [potential_regenerate, h.potential, Nat.cast_succ]
    ring
  case entropy =>
    rw [entropy_regenerate, h.entropy, Nat.cast_succ]
    ring
  case coherence =>
    have hcap := min_add_min_one f.energy.coherence (1 / 100 : α) (by norm_num) n
    simp only [mul_one_div] at hcap
    rw [coherence_regenerate, h.coherence, hcap, if_neg n.succ_ne_zero, Nat.cast_succ]
  case capacity =>
    rw [capacity_regenerate, h.capacity]
    ring
  case age => rw [age_regenerate, h.age, Nat.cast_succ, add_assoc]
  case evolves => exact h.evolves.trans (f'.evolves_regenerate input)

theorem harvestedTimes_iterate (hcapacity : 0 < f.capacity) (hinput : 0 ≤ input) (n : ℕ) :
    f.HarvestedTimes input n ((·.regenerate input)^[n] f) := by
  induction n with
  | zero => exact .refl f input
  | succ n ih =>
      rw [Function.iterate_succ_apply']
      exact ih.regenerate hcapacity hinput

end EnergyField

/-! ## Operations on a registered field -/

namespace Operation

variable {r : Registry α} {x : String} {f : EnergyField α}

theorem exists_decays (hx : r.get? x = some f) (maxDepth rate : α) (n : ℕ) :
    let decays : List (Operation α) := List.replicate n (.decay x rate)
    AllApplied maxDepth r decays ∧
      ∃ f', f.DecayedTimes rate n f' ∧ r.ReplacedAt x f' (applyAll maxDepth r decays) := by
  obtain ⟨happlied, hreplaced⟩ := replacedAt_iterate (.decay x rate) maxDepth (·.decay rate)
    (fun _ => rfl) (fun s g hg => ⟨_, .decay hg⟩) hx n
  exact ⟨happlied, _, f.decayedTimes_iterate rate n, hreplaced⟩

theorem exists_harvests (hx : r.get? x = some f) (hname : x ≠ "") (hcapacity : 0 < f.capacity)
    (maxDepth : α) {input : α} (hinput : 0 ≤ input) (n : ℕ) :
    let harvests : List (Operation α) := List.replicate n (.regenerate x input)
    AllApplied maxDepth r harvests ∧
      ∃ f', f.HarvestedTimes input n f' ∧ r.ReplacedAt x f' (applyAll maxDepth r harvests) := by
  obtain ⟨happlied, hreplaced⟩ := replacedAt_iterate (.regenerate x input) maxDepth
    (·.regenerate input) (fun _ => rfl)
    (fun s g hg => ⟨_, .regenerate hname (Registry.resolve_of_get? _ hg)⟩) hx n
  exact ⟨happlied, _, EnergyField.harvestedTimes_iterate hcapacity hinput n, hreplaced⟩

/-- Harvests of the empty name all fail, so they change nothing. -/
theorem applyAll_harvests_of_empty_name (r : Registry α) (maxDepth input : α) (n : ℕ) :
    applyAll maxDepth r (List.replicate n (.regenerate "" input)) = r := by
  induction n with
  | zero => rfl
  | succ n ih =>
      rw [List.replicate_succ]
      exact ih

end Operation

open Operation in
/-- Any number of decays of a registered field are all applied, and so are any number of harvests
of one with a name and capacity.  Both leave every other field as it is.  Decays multiply the
energies, the coherence and the capacity by their factors and turn a tenth of the lost energy
into entropy.  Harvests add to the energies, the entropy and the coherence, which stops at one,
multiply the capacity, and pay the same bonus in every round.  A field without a name can not
be harvested. -/
theorem repeated_decay_and_harvest_closed_form {r : Registry α} {x : String} {f : EnergyField α}
    (hx : r.get? x = some f) (maxDepth : α) :
    (∀ (rate : α) (n : ℕ),
      AllApplied maxDepth r (List.replicate n (.decay x rate)) ∧
      ∃ f', f.DecayedTimes rate n f' ∧
        r.ReplacedAt x f' (applyAll maxDepth r (List.replicate n (.decay x rate)))) ∧
    (x ≠ "" → 0 < f.capacity → ∀ input : α, 0 ≤ input → ∀ n : ℕ,
      AllApplied maxDepth r (List.replicate n (.regenerate x input)) ∧
      ∃ f', f.HarvestedTimes input n f' ∧
        r.ReplacedAt x f' (applyAll maxDepth r (List.replicate n (.regenerate x input)))) ∧
    (x = "" → ∀ (input : α) (n : ℕ),
      ((regenerate x input).apply r maxDepth).2 = .failed (.emptyName [x]) ∧
      applyAll maxDepth r (List.replicate n (.regenerate x input)) = r) := by
  refine ⟨exists_decays hx maxDepth, ?_, ?_⟩
  · intro hname hcapacity input hinput
    exact exists_harvests hx hname hcapacity maxDepth hinput
  · rintro rfl input n
    exact ⟨rfl, applyAll_harvests_of_empty_name r maxDepth input n⟩

open Operation in
/-- Three decays and three harvests of a plant, next to a field without a name. -/
theorem repeated_decay_and_harvest_closed_form_three_rounds :
    let plant : EnergyField ℚ := EnergyField.create "plant" 100
    let r := (Registry.empty.put plant).put (EnergyField.create "" 60)
    (r.get? "plant" = some plant ∧ "plant" ≠ "" ∧ 0 < plant.capacity ∧ (0 : ℚ) ≤ 20 ∧
      r.get? "" = some (EnergyField.create "" 60)) ∧
    (∃ f', (applyAll 12 r (List.replicate 3 (.decay "plant" (1 / 10)))).get? "plant" = some f' ∧
      f'.energy.total = 729 / 10 ∧ f'.energy.entropy = 371 / 100) ∧
    (∃ f', (applyAll 12 r (List.replicate 3 (.regenerate "plant" 20))).get? "plant" = some f' ∧
      f'.capacity = (53 / 50) ^ 3 ∧ f'.energy.coherence = 3 / 100) ∧
    applyAll 12 r (List.replicate 3 (.regenerate "" 20)) = r := by
  intro plant r
  have hplant : r.get? "plant" = some plant := rfl
  have hempty : r.get? "" = some (EnergyField.create "" 60) := rfl
  have hname : "plant" ≠ "" := by decide
  have hcapacity : 0 < plant.capacity := by decide +kernel
  obtain ⟨hdecays, hharvests, -⟩ := repeated_decay_and_harvest_closed_form hplant 12
  obtain ⟨-, -, hfails⟩ := repeated_decay_and_harvest_closed_form hempty 12
  obtain ⟨-, f', hf', hreplaced⟩ := hdecays (1 / 10) 3
  obtain ⟨-, g', hg', hreplaced'⟩ := hharvests hname hcapacity 20 (by norm_num) 3
  refine ⟨⟨hplant, hname, hcapacity, by norm_num, hempty⟩, ⟨f', hreplaced.found, ?_, ?_⟩,
    ⟨g', hreplaced'.found, ?_, ?_⟩, (hfails rfl 20 3).2⟩
  · rw [hf'.total]
    decide +kernel
  · rw [hf'.entropy]
    decide +kernel
  · rw [hg'.capacity]
    decide +kernel
  · rw [hg'.coherence]
    decide +kernel

open Operation in
/-- A field without a name has capacity, and a harvest leaves it as it was. -/
theorem capacity_kept_by_harvest_of_empty_name :
    let f : EnergyField ℚ := EnergyField.create "" 100
    let r := Registry.empty.put f
    (r.get? "" = some f ∧ 0 < f.capacity ∧ (0 : ℚ) ≤ 20) ∧
      ¬ ∃ f' ∈ (applyAll 12 r (List.replicate 1 (.regenerate "" 20))).get? "",
        f'.capacity = (1 + 3 / 1000 * 20) ^ 1 * f.capacity := by
  intro f r
  have hfound : r.get? "" = some f := rfl
  have hkept : applyAll 12 r (List.replicate 1 (.regenerate "" 20)) = r :=
    applyAll_harvests_of_empty_name r 12 20 1
  refine ⟨⟨hfound, by decide +kernel, by norm_num⟩, ?_⟩
  rw [hkept, hfound]
  rintro ⟨f', hf', hgrown⟩
  obtain rfl : f = f' := Option.some.inj hf'
  exact absurd hgrown (by decide +kernel)

end FieldCalculus
