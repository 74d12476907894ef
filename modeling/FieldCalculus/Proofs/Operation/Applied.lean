import Mathlib.Data.List.Basic
import FieldCalculus.Journal
import FieldCalculus.Proofs.Operation.Staging
/-!
# What applying an operation does

One rule for each way in which an operation is applied: which fields it reads, what must hold
of them, what it reports and what it stores.  And one rule for each way in which an operation
is skipped or fails.  The rules are exact and leave no operation out, so what holds of every
operation is proved by going through them.
-/

namespace FieldCalculus

variable {α : Type}

/-- What becomes of a line with this verdict. -/
def Verdict.status : Verdict α → Status
  | applied _ => .applied
  | skipped _ => .skipped
  | failed _ => .failed

variable [Scalar α]

/-- The operation is applied to the registry with this outcome, and stores these fields. -/
inductive Operation.Applies (r : Registry α) (maxDepth : α) :
    Operation α → Outcome α → List (EnergyField α) → Prop
  | entangle {a b : String} {f g : EnergyField α} (ha : a ≠ "") (hb : b ≠ "")
      (hf : r.resolve a defaultEnergies.entanglement = f)
      (hg : r.resolve b defaultEnergies.entanglement = g) :
      Applies r maxDepth (.entangle a b) (.entangled a b (f.entangle g).1.energy.coherence)
        [(f.entangle g).1, (f.entangle g).2]
  | resonance {a b : String} {f g : EnergyField α} (hf : r.get? a = some f)
      (hg : r.get? b = some g) :
      Applies r maxDepth (.resonance a b)
        (.resonated a b
          (if 0.0 < f.pairTotal g then
            (f.resonate g).1.pairTotal (f.resonate g).2 / f.pairTotal g else 1.0)
          ((f.resonate g).1.energy.inPhaseWith (f.resonate g).2.energy))
        [(f.resonate g).1, (f.resonate g).2]
  | phaseTransition {name target : String} {f : EnergyField α} {phase : Phase}
      (hf : r.get? name = some f) (hphase : Phase.ofName? target = some phase) :
      Applies r maxDepth (.phaseTransition name target)
        (.phaseChanged name f.phase (f.transition phase).phase
          (f.energy.total - (f.transition phase).energy.total))
        [f.transition phase]
  | fractalSpawn {name : String} {iterations depth : α} {f : EnergyField α}
      {spawns : List (EnergyField α)} (hf : r.get? name = some f) (hdepth : ¬ maxDepth < depth)
      (hspawns : f.spawns? depth = some spawns) :
      Applies r maxDepth (.fractalSpawn name iterations depth)
        (.fractal name depth spawns.length (spawns.map EnergyField.name)) spawns
  | spatialFlow {a b : String} {f g : EnergyField α} (hf : r.get? a = some f)
      (hg : r.get? b = some g) (hgate : gate .spatialFlow (f, g) (f.flow g) = none) :
      Applies r maxDepth (.spatialFlow a b) (.flowed a b (f.flow g).1.gradient)
        [(f.flow g).1, (f.flow g).2]
  | network {names : List String} {constraints : String} {staged : Registry α}
      (hlength : ¬ names.length < 2) (hnames : "" ∉ names)
      (hrun : Evaluation.runPairs r (Evaluation.members r names) (Evaluation.indexPairs names) =
        .ok staged) :
      Applies r maxDepth (.network names constraints)
        (.networked names (Evaluation.indexPairs names) names.length) staged.fields
  | regenerate {name : String} {input : α} {f : EnergyField α} (hname : name ≠ "")
      (hf : r.resolve name defaultEnergies.regenerate = f) :
      Applies r maxDepth (.regenerate name input)
        (.regenerated name ((f.regenerate input).capacity - f.capacity)
          (f.regenerate input).capacity)
        [f.regenerate input]
  | decay {name : String} {rate : α} {f : EnergyField α} (hf : r.get? name = some f) :
      Applies r maxDepth (.decay name rate)
        (.decayed name (f.energy.total - (f.decay rate).energy.total)
          ((f.decay rate).energy.entropy - f.energy.entropy))
        [f.decay rate]
  | symbiosis {a b : String} {f g : EnergyField α} (ha : a ≠ "") (hb : b ≠ "")
      (hf : r.resolve a defaultEnergies.symbiosis = f)
      (hg : r.resolve b defaultEnergies.symbiosis = g) :
      Applies r maxDepth (.symbiosis a b)
        (.symbiotic a b (KeyOrder.ordered Prod.fst
          [(a, (f.symbiosis g).1.capacity - f.capacity),
           (b, (f.symbiosis g).2.capacity - g.capacity)]))
        [(f.symbiosis g).1, (f.symbiosis g).2]
  | interaction {a b constraints : String} {f g : EnergyField α} (ha : a ≠ "") (hb : b ≠ "")
      (hf : r.resolve a defaultEnergies.interaction = f)
      (hg : r.resolve b defaultEnergies.interaction = g)
      (hgate : gate .interaction (f, g) (f.interact g) = none) :
      Applies r maxDepth (.interaction [a, b] constraints)
        (.interacted (KeyOrder.ordered Prod.fst
          [(a, (f.interact g).1.snapshot), (b, (f.interact g).2.snapshot)]))
        [(f.interact g).1, (f.interact g).2]
  | creation {name : String} {energy : α} :
      Applies r maxDepth (.creation name energy) (.created name energy)
        [EnergyField.create name energy]
  | unknown {expression : String} :
      Applies r maxDepth (.unknown expression) (.unknown expression) []

/-- The operation is not applied to the registry, and this is its verdict. -/
inductive Operation.Declines (r : Registry α) (maxDepth : α) : Operation α → Verdict α → Prop
  | entangleUnnamed {a b : String} (hname : a = "" ∨ b = "") :
      Declines r maxDepth (.entangle a b) (.failed (.emptyName [a, b]))
  | resonanceIdle {a b : String} (hmissing : r.get? a = none ∨ r.get? b = none) :
      Declines r maxDepth (.resonance a b) (.skipped (.resonance a b))
  | phaseTransitionIdle {name target : String} (hmissing : r.get? name = none) :
      Declines r maxDepth (.phaseTransition name target) (.skipped (.phaseTransition name))
  | unknownPhase {name target : String} {f : EnergyField α} (hf : r.get? name = some f)
      (hphase : Phase.ofName? target = none) :
      Declines r maxDepth (.phaseTransition name target) (.failed (.unknownPhase target))
  | fractalSpawnIdle {name : String} {iterations depth : α} (hmissing : r.get? name = none) :
      Declines r maxDepth (.fractalSpawn name iterations depth) (.skipped (.fractalSpawn name))
  | depthLimit {name : String} {iterations depth : α} {f : EnergyField α}
      (hf : r.get? name = some f) (hdepth : maxDepth < depth) :
      Declines r maxDepth (.fractalSpawn name iterations depth)
        (.failed (.depthLimit depth maxDepth))
  | tooManySpawns {name : String} {iterations depth : α} {f : EnergyField α}
      (hf : r.get? name = some f) (hdepth : ¬ maxDepth < depth)
      (hspawns : f.spawns? depth = none) :
      Declines r maxDepth (.fractalSpawn name iterations depth) (.failed .tooManySpawns)
  | spatialFlowIdle {a b : String} (hmissing : r.get? a = none ∨ r.get? b = none) :
      Declines r maxDepth (.spatialFlow a b) (.skipped (.spatialFlow a b))
  | spatialFlowUnbalanced {a b : String} {f g : EnergyField α} {fault : Fault α}
      (hf : r.get? a = some f) (hg : r.get? b = some g)
      (hgate : gate .spatialFlow (f, g) (f.flow g) = some fault) :
      Declines r maxDepth (.spatialFlow a b) (.failed fault)
  | networkCount {names : List String} {constraints : String} (hlength : names.length < 2) :
      Declines r maxDepth (.network names constraints) (.failed (.networkCount names.length))
  | networkUnnamed {names : List String} {constraints : String} (hlength : ¬ names.length < 2)
      (hname : "" ∈ names) :
      Declines r maxDepth (.network names constraints) (.failed (.emptyName names))
  | networkUnbalanced {names : List String} {constraints : String} {fault : Fault α}
      (hlength : ¬ names.length < 2) (hnames : "" ∉ names)
      (hrun : Evaluation.runPairs r (Evaluation.members r names) (Evaluation.indexPairs names) =
        .error fault) :
      Declines r maxDepth (.network names constraints) (.failed fault)
  | regenerateUnnamed {input : α} :
      Declines r maxDepth (.regenerate "" input) (.failed (.emptyName [""]))
  | decayIdle {name : String} {rate : α} (hmissing : r.get? name = none) :
      Declines r maxDepth (.decay name rate) (.skipped (.decay name))
  | symbiosisUnnamed {a b : String} (hname : a = "" ∨ b = "") :
      Declines r maxDepth (.symbiosis a b) (.failed (.emptyName [a, b]))
  | interactionCount {names : List String} {constraints : String} (hlength : names.length ≠ 2) :
      Declines r maxDepth (.interaction names constraints)
        (.failed (.interactionCount names.length))
  | interactionUnnamed {a b constraints : String} (hname : a = "" ∨ b = "") :
      Declines r maxDepth (.interaction [a, b] constraints) (.failed (.emptyName [a, b]))
  | interactionUnbalanced {a b constraints : String} {f g : EnergyField α} {fault : Fault α}
      (ha : a ≠ "") (hb : b ≠ "") (hf : r.resolve a defaultEnergies.interaction = f)
      (hg : r.resolve b defaultEnergies.interaction = g)
      (hgate : gate .interaction (f, g) (f.interact g) = some fault) :
      Declines r maxDepth (.interaction [a, b] constraints) (.failed fault)
  | unidirectionalFlow {names : List String} {constraints : String} :
      Declines r maxDepth (.unidirectionalFlow names constraints) (.skipped .unidirectionalFlow)

namespace Operation

variable {r : Registry α} {maxDepth : α} {op : Operation α} {outcome : Outcome α}
  {stored : List (EnergyField α)} {verdict : Verdict α}

/-! ## The rules describe the handlers -/

theorem apply_eq_of_run {after : Registry α}
    (h : (op.handler maxDepth).run r = pure (verdict, after)) :
    op.apply r maxDepth = (after, verdict) := by
  rw [apply, h]
  rfl

theorem Applies.apply_eq (h : op.Applies r maxDepth outcome stored) :
    op.apply r maxDepth = (r.commit stored, .applied outcome) := by
  apply apply_eq_of_run
  cases h with
  | entangle ha hb hf hg => simp [handler, Evaluation.entanglement, ha, hb, hf, hg]
  | resonance hf hg => simp [handler, Evaluation.resonance, hf, hg]
  | phaseTransition hf hphase => simp [handler, Evaluation.phaseTransition, hf, hphase]
  | fractalSpawn hf hdepth hspawns =>
      simp [handler, Evaluation.fractalSpawn, hf, hdepth, hspawns]
  | spatialFlow hf hg hgate => simp [handler, Evaluation.spatialFlow, hf, hg, hgate]
  | network hlength hnames hrun => simp [handler, Evaluation.network, hlength, hnames, hrun]
  | regenerate hname hf => simp [handler, Evaluation.regenerate, hname, hf]
  | decay hf => simp [handler, Evaluation.decay, hf]
  | symbiosis ha hb hf hg => simp [handler, Evaluation.symbiosis, ha, hb, hf, hg]
  | interaction ha hb hf hg hgate =>
      simp [handler, Evaluation.interaction, ha, hb, hf, hg, hgate]
  | creation | unknown => rfl

/-- Every way to be skipped or to fail keeps the registry. -/
theorem Declines.apply_eq (h : op.Declines r maxDepth verdict) :
    op.apply r maxDepth = (r, verdict) := by
  apply apply_eq_of_run
  cases h with
  | entangleUnnamed hname => simp [handler, Evaluation.entanglement, hname]
  | @resonanceIdle a _ hmissing =>
      cases hf : r.get? a with
      | none => simp [handler, Evaluation.resonance, hf]
      | some f =>
          have hg := hmissing.resolve_left (by simp [hf])
          simp [handler, Evaluation.resonance, hf, hg]
  | phaseTransitionIdle hmissing => simp [handler, Evaluation.phaseTransition, hmissing]
  | unknownPhase hf hphase => simp [handler, Evaluation.phaseTransition, hf, hphase]
  | fractalSpawnIdle hmissing => simp [handler, Evaluation.fractalSpawn, hmissing]
  | depthLimit hf hdepth => simp [handler, Evaluation.fractalSpawn, hf, hdepth]
  | tooManySpawns hf hdepth hspawns =>
      simp [handler, Evaluation.fractalSpawn, hf, hdepth, hspawns]
  | @spatialFlowIdle a _ hmissing =>
      cases hf : r.get? a with
      | none => simp [handler, Evaluation.spatialFlow, hf]
      | some f =>
          have hg := hmissing.resolve_left (by simp [hf])
          simp [handler, Evaluation.spatialFlow, hf, hg]
  | spatialFlowUnbalanced hf hg hgate => simp [handler, Evaluation.spatialFlow, hf, hg, hgate]
  | networkCount hlength => simp [handler, Evaluation.network, hlength]
  | networkUnnamed hlength hname => simp [handler, Evaluation.network, hlength, hname]
  | networkUnbalanced hlength hnames hrun =>
      simp [handler, Evaluation.network, hlength, hnames, hrun]
  | regenerateUnnamed => rfl
  | decayIdle hmissing => simp [handler, Evaluation.decay, hmissing]
  | symbiosisUnnamed hname => simp [handler, Evaluation.symbiosis, hname]
  | @interactionCount names _ hlength =>
      rcases names with _ | ⟨a, _ | ⟨b, _ | ⟨c, rest⟩⟩⟩
      · rfl
      · rfl
      · exact absurd rfl hlength
      · rfl
  | interactionUnnamed hname => simp [handler, Evaluation.interaction, hname]
  | interactionUnbalanced ha hb hf hg hgate =>
      simp [handler, Evaluation.interaction, ha, hb, hf, hg, hgate]
  | unidirectionalFlow => rfl

/-! ## No operation is left out -/

open Classical in
theorem applies_or_declines (r : Registry α) (maxDepth : α) (op : Operation α) :
    (∃ outcome stored, op.Applies r maxDepth outcome stored) ∨
      ∃ verdict, op.Declines r maxDepth verdict := by
  cases op with
  | entangle a b =>
      by_cases hname : a = "" ∨ b = ""
      · exact Or.inr ⟨_, .entangleUnnamed hname⟩
      · obtain ⟨ha, hb⟩ := not_or.mp hname
        exact Or.inl ⟨_, _, .entangle ha hb rfl rfl⟩
  | resonance a b =>
      cases hf : r.get? a with
      | none => exact Or.inr ⟨_, .resonanceIdle (Or.inl hf)⟩
      | some f =>
          cases hg : r.get? b with
          | none => exact Or.inr ⟨_, .resonanceIdle (Or.inr hg)⟩
          | some g => exact Or.inl ⟨_, _, .resonance hf hg⟩
  | phaseTransition name target =>
      cases hf : r.get? name with
      | none => exact Or.inr ⟨_, .phaseTransitionIdle hf⟩
      | some f =>
          cases hphase : Phase.ofName? target with
          | none => exact Or.inr ⟨_, .unknownPhase hf hphase⟩
          | some phase => exact Or.inl ⟨_, _, .phaseTransition hf hphase⟩
  | fractalSpawn name iterations depth =>
      cases hf : r.get? name with
      | none => exact Or.inr ⟨_, .fractalSpawnIdle hf⟩
      | some f =>
          by_cases hdepth : maxDepth < depth
          · exact Or.inr ⟨_, .depthLimit hf hdepth⟩
          · cases hspawns : f.spawns? depth with
            | none => exact Or.inr ⟨_, .tooManySpawns hf hdepth hspawns⟩
            | some spawns => exact Or.inl ⟨_, _, .fractalSpawn hf hdepth hspawns⟩
  | spatialFlow a b =>
      cases hf : r.get? a with
      | none => exact Or.inr ⟨_, .spatialFlowIdle (Or.inl hf)⟩
      | some f =>
          cases hg : r.get? b with
          | none => exact Or.inr ⟨_, .spatialFlowIdle (Or.inr hg)⟩
          | some g =>
              cases hgate : gate .spatialFlow (f, g) (f.flow g) with
              | some fault => exact Or.inr ⟨_, .spatialFlowUnbalanced hf hg hgate⟩
              | none => exact Or.inl ⟨_, _, .spatialFlow hf hg hgate⟩
  | network names constraints =>
      by_cases hlength : names.length < 2
      · exact Or.inr ⟨_, .networkCount hlength⟩
      by_cases hname : "" ∈ names
      · exact Or.inr ⟨_, .networkUnnamed hlength hname⟩
      cases hrun : Evaluation.runPairs r (Evaluation.members r names)
          (Evaluation.indexPairs names) with
      | error fault => exact Or.inr ⟨_, .networkUnbalanced hlength hname hrun⟩
      | ok staged => exact Or.inl ⟨_, _, .network hlength hname hrun⟩
  | regenerate name input =>
      by_cases hname : name = ""
      · subst hname
        exact Or.inr ⟨_, .regenerateUnnamed⟩
      · exact Or.inl ⟨_, _, .regenerate hname rfl⟩
  | decay name rate =>
      cases hf : r.get? name with
      | none => exact Or.inr ⟨_, .decayIdle hf⟩
      | some f => exact Or.inl ⟨_, _, .decay hf⟩
  | symbiosis a b =>
      by_cases hname : a = "" ∨ b = ""
      · exact Or.inr ⟨_, .symbiosisUnnamed hname⟩
      · obtain ⟨ha, hb⟩ := not_or.mp hname
        exact Or.inl ⟨_, _, .symbiosis ha hb rfl rfl⟩
  | interaction names constraints =>
      by_cases hlength : names.length = 2
      · obtain ⟨a, b, rfl⟩ := List.length_eq_two.mp hlength
        by_cases hname : a = "" ∨ b = ""
        · exact Or.inr ⟨_, .interactionUnnamed hname⟩
        obtain ⟨ha, hb⟩ := not_or.mp hname
        cases hgate : gate .interaction (r.resolve a defaultEnergies.interaction,
            r.resolve b defaultEnergies.interaction)
            ((r.resolve a defaultEnergies.interaction).interact
              (r.resolve b defaultEnergies.interaction)) with
        | some fault => exact Or.inr ⟨_, .interactionUnbalanced ha hb rfl rfl hgate⟩
        | none => exact Or.inl ⟨_, _, .interaction ha hb rfl rfl hgate⟩
      · exact Or.inr ⟨_, .interactionCount hlength⟩
  | unidirectionalFlow names constraints => exact Or.inr ⟨_, .unidirectionalFlow⟩
  | creation name energy => exact Or.inl ⟨_, _, .creation⟩
  | unknown expression => exact Or.inl ⟨_, _, .unknown⟩

theorem Declines.status_ne (h : op.Declines r maxDepth verdict) : verdict.status ≠ .applied := by
  cases h <;> exact nofun

/-- The rules say exactly which operations are applied and what they report. -/
theorem apply_eq_applied_iff :
    (op.apply r maxDepth).2 = .applied outcome ↔
      ∃ stored, op.Applies r maxDepth outcome stored := by
  constructor
  · intro hverdict
    rcases op.applies_or_declines r maxDepth with ⟨outcome', stored, happlies⟩ | ⟨verdict, h⟩
    · rw [happlies.apply_eq] at hverdict
      cases hverdict
      exact ⟨stored, happlies⟩
    · rw [h.apply_eq] at hverdict
      exact absurd (congrArg Verdict.status hverdict) h.status_ne
  · rintro ⟨stored, happlies⟩
    rw [happlies.apply_eq]

theorem exists_applies (h : (op.apply r maxDepth).2.status = .applied) :
    ∃ outcome stored, op.Applies r maxDepth outcome stored ∧
      (op.apply r maxDepth).1 = r.commit stored := by
  rcases op.applies_or_declines r maxDepth with ⟨outcome, stored, happlies⟩ | ⟨verdict, hdeclines⟩
  · exact ⟨outcome, stored, happlies, by rw [happlies.apply_eq]⟩
  · rw [hdeclines.apply_eq] at h
    exact absurd h hdeclines.status_ne

theorem exists_declines (h : (op.apply r maxDepth).2.status ≠ .applied) :
    op.Declines r maxDepth (op.apply r maxDepth).2 := by
  rcases op.applies_or_declines r maxDepth with ⟨outcome, stored, happlies⟩ | ⟨verdict, hdeclines⟩
  · rw [happlies.apply_eq] at h
    exact absurd rfl h
  · rw [hdeclines.apply_eq]
    exact hdeclines

/-- An operation that is not applied keeps the registry. -/
theorem apply_of_not_applied (h : (op.apply r maxDepth).2.status ≠ .applied) :
    (op.apply r maxDepth).1 = r := by
  rw [(exists_declines h).apply_eq]

end Operation

end FieldCalculus
