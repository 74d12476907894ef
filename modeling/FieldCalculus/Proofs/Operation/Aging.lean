import FieldCalculus.Proofs.Operation.Evolution
import Mathlib.Logic.Function.Iterate
/-!
# The transitions of a field

An age counts transitions, one at a time.  How many an operation takes a field through
depends on its kind: a coupling that names the field twice is one transition, a network has
one for each of its pairs, and a change of phase only counts if the field can pay for it.
-/

namespace FieldCalculus

variable {α : Type} [Scalar α]

/-- The second field is the first one, `n` transitions later. -/
structure EnergyField.Ages (n : ℕ) (f f' : EnergyField α) : Prop where
  name : f'.name = f.name
  age : f'.age = (· + 1.0)^[n] f.age

/-- Both fields of the coupling go through `n` transitions. -/
def EnergyField.CouplingAges (n : ℕ)
    (couple : EnergyField α → EnergyField α → EnergyField α × EnergyField α) : Prop :=
  ∀ f g : EnergyField α, f.Ages n (couple f g).1 ∧ g.Ages n (couple f g).2

namespace EnergyField

variable {m n : ℕ} {f g h : EnergyField α}

theorem Ages.refl (f : EnergyField α) : f.Ages 0 f := ⟨rfl, rfl⟩

theorem Ages.trans (hfg : f.Ages m g) (hgh : g.Ages n h) : f.Ages (m + n) h where
  name := hgh.name.trans hfg.name
  age := by rw [hgh.age, hfg.age, Nat.add_comm, Function.iterate_add_apply]

theorem entangle_ages : CouplingAges 0 (entangle (α := α)) := fun _ _ => ⟨⟨rfl, rfl⟩, rfl, rfl⟩

theorem resonate_ages : CouplingAges 1 (resonate (α := α)) := fun _ _ => ⟨⟨rfl, rfl⟩, rfl, rfl⟩

theorem flow_ages : CouplingAges 1 (flow (α := α)) := fun _ _ => ⟨⟨rfl, rfl⟩, rfl, rfl⟩

theorem interact_ages : CouplingAges 1 (interact (α := α)) := fun _ _ => ⟨⟨rfl, rfl⟩, rfl, rfl⟩

/-- Each side regenerates, and settling the cost is no transition of its own. -/
theorem symbiosis_ages : CouplingAges 1 (symbiosis (α := α)) := fun _ _ => ⟨⟨rfl, rfl⟩, rfl, rfl⟩

theorem regenerate_ages (f : EnergyField α) (input : α) : f.Ages 1 (f.regenerate input) :=
  ⟨rfl, rfl⟩

theorem decay_ages (f : EnergyField α) (rate : α) : f.Ages 1 (f.decay rate) := ⟨rfl, rfl⟩

theorem transition_ages (f : EnergyField α) (target : Phase) :
    f.Ages (if f.energy.total < f.transitionCost target then 0 else 1) (f.transition target) := by
  unfold transition
  dsimp only
  split
  · exact .refl f
  · exact ⟨rfl, rfl⟩

end EnergyField

open EnergyField

namespace Registry

variable {r : Registry α} {x : String} {f : EnergyField α} {n : ℕ}

theorem exists_ages_commit_single {name : String} {g g' : EnergyField α} {energy : α}
    (hx : r.get? x = some f) (hg : r.resolve name energy = g) (hages : g.Ages n g') :
    ∃ f', (r.commit [g']).get? x = some f' ∧ f.Ages (if x = name then n else 0) f' := by
  have hname : g'.name = name := by rw [hages.name, ← hg, name_resolve]
  split
  · next hxname =>
    subst hxname
    obtain rfl : f = g := (resolve_of_get? energy hx).symm.trans hg
    exact ⟨g', r.get?_commit_single hname, hages⟩
  · next hother =>
    refine ⟨f, ?_, .refl f⟩
    rw [get?_commit_of_not_mem (List.forall_mem_singleton.mpr fun e => hother (e.symm.trans hname)),
      hx]

/-- A coupling is one event for a field, even for one that is coupled with itself. -/
theorem exists_ages_commit_pair {a b : String} {g h : EnergyField α} {energy : α}
    {couple : EnergyField α → EnergyField α → EnergyField α × EnergyField α}
    (hcouple : CouplingAges n couple) (hx : r.get? x = some f) (hg : r.resolve a energy = g)
    (hh : r.resolve b energy = h) :
    ∃ f', (r.commit [(couple g h).1, (couple g h).2]).get? x = some f' ∧
      f.Ages (if x = a ∨ x = b then n else 0) f' := by
  obtain ⟨hleft, hright⟩ := hcouple g h
  have ha : (couple g h).1.name = a := by rw [hleft.name, ← hg, name_resolve]
  have hb : (couple g h).2.name = b := by rw [hright.name, ← hh, name_resolve]
  by_cases hxb : x = b
  · -- the second field is stored last
    rw [if_pos (Or.inr hxb)]
    subst hxb
    obtain rfl : f = h := (resolve_of_get? energy hx).symm.trans hh
    exact ⟨_, r.get?_commit_second _ hb, hright⟩
  by_cases hxa : x = a
  · rw [if_pos (Or.inl hxa)]
    subst hxa
    obtain rfl : f = g := (resolve_of_get? energy hx).symm.trans hg
    exact ⟨_, r.get?_commit_first ha (hb ▸ hxb), hleft⟩
  · rw [if_neg (not_or.mpr ⟨hxa, hxb⟩)]
    refine ⟨f, ?_, .refl f⟩
    rw [get?_commit_of_not_mem, hx]
    simp only [List.forall_mem_cons, ha, hb]
    exact ⟨fun e => hxa e.symm, fun e => hxb e.symm, nofun⟩

/-- The field is registered, there is such a phase, and the total energy is not below the
cost of the transition. -/
def affords (r : Registry α) (name target : String) : Bool :=
  match r.get? name, Phase.ofName? target with
  | some f, some phase => decide (¬ f.energy.total < f.transitionCost phase)
  | _, _ => false

end Registry

/-- The name stands in the pair. -/
def standsIn (x : String) (p : String × String) : Bool :=
  decide (x = p.1 ∨ x = p.2)

/-- Each interaction of a chain that names a field is one transition of it. -/
theorem exists_ages_interactAll {maxDepth : α} {constraints x : String}
    {pairs : List (String × String)} {r final : Registry α} {f : EnergyField α}
    (hheld : ∀ p ∈ pairs, r.Holds p) (hx : r.get? x = some f)
    (hrun : interactAll maxDepth constraints r pairs = .ok final) :
    ∃ f', final.get? x = some f' ∧ f.Ages (pairs.countP (standsIn x)) f' := by
  induction pairs generalizing r f with
  | nil =>
      cases hrun
      exact ⟨f, hx, .refl f⟩
  | cons p rest ih =>
      obtain ⟨a, b⟩ := p
      obtain ⟨g, h, ha, hb, hg, hh⟩ := (hheld (a, b) List.mem_cons_self).exists_get?
      rw [interactAll_cons rest ha hb hg hh] at hrun
      cases hgate : gate .interaction (g, h) (g.interact h) with
      | some fault =>
          rw [hgate] at hrun
          cases hrun
      | none =>
          rw [hgate] at hrun
          have hrest : ∀ q ∈ rest, (r.commit [(g.interact h).1, (g.interact h).2]).Holds q :=
            fun q hq => (hheld q (List.mem_cons_of_mem _ hq)).commit_pair _ _
          obtain ⟨f', hf', hstep⟩ := Registry.exists_ages_commit_pair interact_ages hx
            (Registry.resolve_of_get? 0.0 hg) (Registry.resolve_of_get? 0.0 hh)
          obtain ⟨f'', hf'', hlater⟩ := ih hrest hf' hrun
          refine ⟨f'', hf'', ?_⟩
          have hcount : ((a, b) :: rest).countP (standsIn x) =
              (if x = a ∨ x = b then 1 else 0) + rest.countP (standsIn x) := by
            simp [List.countP_cons, standsIn, Nat.add_comm]
          rw [hcount]
          exact hstep.trans hlater

namespace Operation

/-- How many transitions the operation takes the field with this name through, when it is
applied to the registry. -/
def transitions (r : Registry α) (x : String) : Operation α → ℕ
  | interaction fields _ => if x ∈ fields then 1 else 0
  | resonance a b | spatialFlow a b | symbiosis a b => if x = a ∨ x = b then 1 else 0
  | regenerate field _ | decay field _ => if x = field then 1 else 0
  | phaseTransition field target => if x = field ∧ r.affords field target then 1 else 0
  | network fields _ => (pairsByPlace fields).countP (standsIn x)
  | entangle .. | fractalSpawn .. | unidirectionalFlow .. | creation .. | unknown _ => 0

variable {r : Registry α} {maxDepth : α} {op : Operation α} {x : String} {f : EnergyField α}

theorem exists_ages_commit_network {names : List String} {staged : Registry α}
    (hx : r.get? x = some f) (hnames : "" ∉ names)
    (hrun : Evaluation.runPairs r (Evaluation.members r names) (Evaluation.indexPairs names) =
      .ok staged) :
    ∃ f', (r.commit staged.fields).get? x = some f' ∧
      f.Ages ((pairsByPlace names).countP (standsIn x)) f' := by
  have hchain := runPairs_members 0.0 "" r hnames
  rw [hrun] at hchain
  rw [← indexPairs_eq_pairsByPlace]
  exact exists_ages_interactAll (fun p hp => r.holds_enroll _ hnames hp)
    (Registry.get?_enroll_of_get? _ names hx) hchain.symm

/-- What one applied operation does to the age of a field that it does not replace. -/
theorem exists_ages_of_applied (happlied : (op.apply r maxDepth).2.status = .applied)
    (hx : r.get? x = some f) (hkept : ¬ op.Replaces x) :
    ∃ f', (op.apply r maxDepth).1.get? x = some f' ∧ f.Ages (op.transitions r x) f' := by
  obtain ⟨outcome, stored, happlies, hafter⟩ := exists_applies happlied
  have hunwritten (h : x ∉ op.writes) : ∃ f', (op.apply r maxDepth).1.get? x = some f' ∧
      f.Ages 0 f' := ⟨f, (get?_apply_of_not_mem r maxDepth h).trans hx, .refl f⟩
  cases happlies with
  | creation => exact hunwritten fun h => hkept ⟨Or.inl rfl, h⟩
  | fractalSpawn => exact hunwritten fun h => hkept ⟨Or.inr rfl, h⟩
  | unknown => exact hunwritten nofun
  | entangle _ _ hg hh =>
      rw [hafter]
      have hpair := Registry.exists_ages_commit_pair entangle_ages hx hg hh
      rw [ite_self] at hpair
      exact hpair
  | resonance hg hh =>
      rw [hafter]
      exact Registry.exists_ages_commit_pair resonate_ages hx
        (Registry.resolve_of_get? 0.0 hg) (Registry.resolve_of_get? 0.0 hh)
  | spatialFlow hg hh =>
      rw [hafter]
      exact Registry.exists_ages_commit_pair flow_ages hx
        (Registry.resolve_of_get? 0.0 hg) (Registry.resolve_of_get? 0.0 hh)
  | symbiosis _ _ hg hh =>
      rw [hafter]
      exact Registry.exists_ages_commit_pair symbiosis_ages hx hg hh
  | interaction _ _ hg hh =>
      rw [hafter]
      have hpair := Registry.exists_ages_commit_pair interact_ages hx hg hh
      simpa only [transitions, List.mem_cons, List.not_mem_nil, or_false] using hpair
  | network _ hnames hrun =>
      rw [hafter]
      exact exists_ages_commit_network hx hnames hrun
  | regenerate _ hg =>
      rw [hafter]
      exact Registry.exists_ages_commit_single hx hg (regenerate_ages _ _)
  | decay hg =>
      rw [hafter]
      exact Registry.exists_ages_commit_single hx (Registry.resolve_of_get? 0.0 hg)
        (decay_ages _ _)
  | @phaseTransition name target g phase hg hphase =>
      rw [hafter]
      have hstep := Registry.exists_ages_commit_single hx (Registry.resolve_of_get? 0.0 hg)
        (g.transition_ages phase)
      have hcount : (phaseTransition name target : Operation α).transitions r x =
          if x = name then (if g.energy.total < g.transitionCost phase then 0 else 1) else 0 := by
        rw [transitions, Registry.affords, hg, hphase]
        by_cases hname : x = name <;> simp [hname]
      rw [hcount]
      exact hstep

end Operation

end FieldCalculus
