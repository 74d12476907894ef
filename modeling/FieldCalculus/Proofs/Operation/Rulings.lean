import FieldCalculus.Proofs.Exchange.Quarantine
import FieldCalculus.Proofs.Run.WellFormed
/-!
# The ruling on an operation

Whether an operation is skipped, fails or is applied, and with which code it fails, is decided
by a list of conditions.  The first that holds counts, and there are no codes besides the six
of the list.
-/

namespace FieldCalculus

/-- What is decided about an operation. -/
inductive Ruling
  | skipped
  | failed (code : String)
  | applied
  deriving Repr, DecidableEq

variable {α : Type}

/-- What a verdict decides, without outcome, reason or message. -/
def Verdict.ruling : Verdict α → Ruling
  | applied .. => .applied
  | skipped _ => .skipped
  | failed fault => .failed fault.code

theorem Verdict.ruling_of_applied {v : Verdict α} (h : v.status = .applied) :
    v.ruling = .applied := by
  cases v with
  | applied => rfl
  | skipped | failed => cases h

namespace Operation

/-! ## The conditions -/

/-- The operation has nothing to act on: it needs a field that is not registered, or it has no
transition at all. -/
def Idle (r : Registry α) : Operation α → Prop
  | resonance a b | spatialFlow a b => a ∉ r.names ∨ b ∉ r.names
  | phaseTransition field _ | fractalSpawn field _ _ | decay field _ => field ∉ r.names
  | unidirectionalFlow .. => True
  | _ => False

/-- The operation names too many or too few fields. -/
def Miscounted : Operation α → Prop
  | interaction names _ => names.length ≠ 2
  | network names _ => names.length < 2
  | _ => False

/-- The operation would create a field without a name. -/
def Unnamed : Operation α → Prop
  | interaction names _ | network names _ => "" ∈ names
  | entangle a b | symbiosis a b => a = "" ∨ b = ""
  | regenerate field _ => field = ""
  | _ => False

/-- The target of a phase transition is none of the phases. -/
def UnknownTarget : Operation α → Prop
  | phaseTransition _ target => target ∉ Phase.all.map Phase.name
  | _ => False

variable [Scalar α]

/-- A split goes deeper than the limit. -/
def TooDeep (maxDepth : α) : Operation α → Prop
  | fractalSpawn _ _ depth => maxDepth < depth
  | _ => False

/-- A split has more spawns than a list can hold. -/
def TooMany : Operation α → Prop
  | fractalSpawn _ _ depth =>
    ∀ count, Scalar.units? (Scalar.exp2 depth) = some count → 2 ^ 32 - 1 < count
  | _ => False

/-- A step of an exact operation on two fields: what they are before it and after it.  A network
gets to a pair when the pairs before it have interacted. -/
inductive PairStep (r : Registry α) (maxDepth : α) :
    Operation α → EnergyField α × EnergyField α → EnergyField α × EnergyField α → Prop
  | interaction {a b constraints : String} {f g : EnergyField α} (hf : r.resolve a 50.0 = f)
      (hg : r.resolve b 50.0 = g) :
      PairStep r maxDepth (.interaction [a, b] constraints) (f, g) (f.interact g)
  | spatialFlow {a b : String} {f g : EnergyField α} (hf : r.get? a = some f)
      (hg : r.get? b = some g) :
      PairStep r maxDepth (.spatialFlow a b) (f, g) (f.flow g)
  | network {names : List String} {constraints a b : String}
      {earlier later : List (String × String)} {reached : Registry α} {f g : EnergyField α}
      (hplaces : pairsByPlace names = earlier ++ (a, b) :: later)
      (hreached : interactAll maxDepth constraints (r.enroll 70.0 names) earlier = .ok reached)
      (hf : reached.get? a = some f) (hg : reached.get? b = some g) :
      PairStep r maxDepth (.network names constraints) (f, g) (f.interact g)

/-- The totals of some step differ. -/
def Unbalanced (r : Registry α) (maxDepth : α) (op : Operation α) : Prop :=
  ∃ before after, op.PairStep r maxDepth before after ∧
    balanced (before.1.pairTotal before.2) (after.1.pairTotal after.2) = false

open Classical in
/-- The ruling of the first condition that holds. -/
noncomputable def dueRuling (r : Registry α) (maxDepth : α) (op : Operation α) : Ruling :=
  if op.Idle r then .skipped
  else if op.Miscounted then .failed "FIELD_COUNT"
  else if op.Unnamed then .failed "EMPTY_FIELD_NAME"
  else if op.UnknownTarget then .failed "UNKNOWN_PHASE"
  else if op.TooDeep maxDepth then .failed "DEPTH_LIMIT"
  else if op.Unbalanced r maxDepth then .failed "CONSERVATION_VIOLATION"
  else if op.TooMany then .failed "INTERNAL"
  else .applied

end Operation

/-! ## Steps that do not balance -/

variable [Scalar α]

theorem gate_eq_none_iff {kind : Operation.Kind} (hexact : kind.conservation = .exact)
    {before after : EnergyField α × EnergyField α} :
    gate kind before after = none ↔
      ¬ balanced (before.1.pairTotal before.2) (after.1.pairTotal after.2) = false := by
  simp [gate, hexact]

/-- A chain of interactions fails exactly at a pair that the interactions before it lead to and
whose totals differ. -/
theorem exists_interactAll_eq_error_iff {maxDepth : α} {constraints : String}
    {pairs : List (String × String)} :
    ∀ {r : Registry α}, (∀ p ∈ pairs, r.Holds p) →
      ((∃ fault, interactAll maxDepth constraints r pairs = .error fault) ↔
        ∃ earlier a b later reached f g, pairs = earlier ++ (a, b) :: later ∧
          interactAll maxDepth constraints r earlier = .ok reached ∧
          reached.get? a = some f ∧ reached.get? b = some g ∧
          balanced (f.pairTotal g) ((f.interact g).1.pairTotal (f.interact g).2) = false) := by
  induction pairs with
  | nil =>
      intro r _
      constructor
      · rintro ⟨fault, hfault⟩
        cases hfault
      · rintro ⟨earlier, a, b, later, _, _, _, hsplit, _⟩
        simp at hsplit
  | cons p rest ih =>
      intro r hheld
      obtain ⟨a, b⟩ := p
      obtain ⟨f, g, ha, hb, hf, hg⟩ := (hheld (a, b) List.mem_cons_self).exists_get?
      rw [interactAll_cons rest ha hb hf hg]
      cases hgate : gate .interaction (f, g) (f.interact g) with
      | some fault =>
          -- the first pair is the offender
          have hbalance : balanced (f.pairTotal g)
              ((f.interact g).1.pairTotal (f.interact g).2) = false := by
            by_contra hbalance
            rw [(gate_eq_none_iff rfl).mpr hbalance] at hgate
            cases hgate
          exact iff_of_true ⟨fault, rfl⟩ ⟨[], a, b, rest, r, f, g, rfl, rfl, hf, hg, hbalance⟩
      | none =>
          dsimp only
          rw [ih fun q hq => (hheld q (List.mem_cons_of_mem _ hq)).commit_pair _ _]
          constructor
          · rintro ⟨earlier, a', b', later, reached, f', g', rfl, hreached, hrest⟩
            refine ⟨(a, b) :: earlier, a', b', later, reached, f', g', rfl, ?_, hrest⟩
            rw [interactAll_cons earlier ha hb hf hg, hgate]
            exact hreached
          · rintro ⟨earlier, a', b', later, reached, f', g', hsplit, hreached, hf', hg', hbalance⟩
            cases earlier with
            | nil =>
                cases hsplit
                cases hreached
                cases hf.symm.trans hf'
                cases hg.symm.trans hg'
                exact absurd hbalance ((gate_eq_none_iff rfl).mp hgate)
            | cons q earlier =>
                cases hsplit
                rw [interactAll_cons earlier ha hb hf hg, hgate] at hreached
                exact ⟨earlier, a', b', later, reached, f', g', rfl, hreached, hf', hg', hbalance⟩

namespace Operation

variable {r : Registry α} {maxDepth : α} {op : Operation α}

theorem Unbalanced.exact (h : op.Unbalanced r maxDepth) : op.kind.conservation = .exact := by
  obtain ⟨before, after, hstep, _⟩ := h
  cases hstep <;> rfl

theorem unbalanced_interaction_iff {a b constraints : String} {f g : EnergyField α}
    (hf : r.resolve a defaultEnergies.interaction = f)
    (hg : r.resolve b defaultEnergies.interaction = g) :
    (interaction [a, b] constraints).Unbalanced r maxDepth ↔
      ¬ gate .interaction (f, g) (f.interact g) = none := by
  rw [gate_eq_none_iff rfl, not_not]
  constructor
  · rintro ⟨_, _, hstep, hbalance⟩
    cases hstep with
    | interaction hf' hg' =>
        cases hf.symm.trans hf'
        cases hg.symm.trans hg'
        exact hbalance
  · intro hbalance
    exact ⟨_, _, .interaction hf hg, hbalance⟩

theorem unbalanced_spatialFlow_iff {a b : String} {f g : EnergyField α} (hf : r.get? a = some f)
    (hg : r.get? b = some g) :
    (spatialFlow a b).Unbalanced r maxDepth ↔
      ¬ gate .spatialFlow (f, g) (f.flow g) = none := by
  rw [gate_eq_none_iff rfl, not_not]
  constructor
  · rintro ⟨_, _, hstep, hbalance⟩
    cases hstep with
    | spatialFlow hf' hg' =>
        cases hf.symm.trans hf'
        cases hg.symm.trans hg'
        exact hbalance
  · intro hbalance
    exact ⟨_, _, .spatialFlow hf hg, hbalance⟩

theorem unbalanced_network_iff {names : List String} {constraints : String} (hnames : "" ∉ names) :
    (network names constraints).Unbalanced r maxDepth ↔
      ∃ fault, Evaluation.runPairs r (Evaluation.members r names)
        (Evaluation.indexPairs names) = .error fault := by
  have hchain := runPairs_members maxDepth constraints r hnames
  have hheld : ∀ p ∈ Evaluation.indexPairs names,
      (r.enroll defaultEnergies.network names).Holds p := fun p hp => r.holds_enroll _ hnames hp
  have hrun : (∃ fault, Evaluation.runPairs r (Evaluation.members r names)
        (Evaluation.indexPairs names) = .error fault) ↔
      ∃ fault, interactAll maxDepth constraints (r.enroll defaultEnergies.network names)
        (Evaluation.indexPairs names) = .error fault := by
    rw [← hchain]
    cases Evaluation.runPairs r (Evaluation.members r names) (Evaluation.indexPairs names) <;>
      simp [Except.map]
  rw [hrun, exists_interactAll_eq_error_iff hheld, indexPairs_eq_pairsByPlace]
  constructor
  · rintro ⟨_, _, hstep, hbalance⟩
    cases hstep with
    | network hplaces hreached hf hg =>
        exact ⟨_, _, _, _, _, _, _, hplaces, hreached, hf, hg, hbalance⟩
  · rintro ⟨earlier, a, b, later, reached, f, g, hplaces, hreached, hf, hg, hbalance⟩
    exact ⟨(f, g), f.interact g, .network hplaces hreached hf hg, hbalance⟩

theorem Applies.not_unbalanced {outcome : Outcome α} {stored : List (EnergyField α)}
    (h : op.Applies r maxDepth outcome stored) : ¬ op.Unbalanced r maxDepth := by
  cases h with
  | interaction _ _ hf hg hgate => exact fun h => (unbalanced_interaction_iff hf hg).mp h hgate
  | spatialFlow hf hg hgate => exact fun h => (unbalanced_spatialFlow_iff hf hg).mp h hgate
  | network _ hnames hrun =>
      intro h
      obtain ⟨fault, hfault⟩ := (unbalanced_network_iff hnames).mp h
      cases hrun.symm.trans hfault
  | _ => exact fun h => nomatch h.exact

theorem Declines.unbalanced {fault : Fault α} (h : op.Declines r maxDepth (.failed fault))
    (hcode : fault.code = "CONSERVATION_VIOLATION") : op.Unbalanced r maxDepth := by
  cases h with
  | interactionUnbalanced _ _ hf hg hgate =>
      exact (unbalanced_interaction_iff hf hg).mpr (hgate ▸ nofun)
  | spatialFlowUnbalanced hf hg hgate =>
      exact (unbalanced_spatialFlow_iff hf hg).mpr (hgate ▸ nofun)
  | networkUnbalanced _ hnames hrun => exact (unbalanced_network_iff hnames).mpr ⟨fault, hrun⟩
  | _ => exact absurd hcode (by simp [Fault.code])

/-- Only a step that does not balance keeps an exact operation on fields that it can couple from
being applied. -/
theorem Couplable.applied_iff (hop : op.Couplable r) :
    (op.apply r maxDepth).2.status = .applied ↔ ¬ op.Unbalanced r maxDepth := by
  constructor
  · intro happlied
    obtain ⟨outcome, stored, happlies, _⟩ := exists_applies happlied
    exact happlies.not_unbalanced
  · intro hbalance
    by_contra hnot
    obtain ⟨fault, hfault, hcode⟩ := (hop.applied_or_unbalanced maxDepth).resolve_left hnot
    have hdeclines := exists_declines hnot
    rw [hfault] at hdeclines
    exact hbalance (hdeclines.unbalanced hcode)

/-! ## The rulings in their order -/

theorem Applies.ruling {outcome : Outcome α} {stored : List (EnergyField α)}
    (h : op.Applies r maxDepth outcome stored) : (op.apply r maxDepth).2.ruling = .applied := by
  rw [h.apply_eq]
  rfl

theorem Declines.ruling {verdict : Verdict α} (h : op.Declines r maxDepth verdict) :
    (op.apply r maxDepth).2.ruling = verdict.ruling := by
  rw [h.apply_eq]

theorem ruling_of_idle (h : op.Idle r) : (op.apply r maxDepth).2.ruling = .skipped := by
  have hmissing {name : String} : name ∉ r.names → r.get? name = none :=
    (r.get?_eq_none_iff name).mpr
  cases op with
  | resonance a b => exact (Declines.resonanceIdle (h.imp hmissing hmissing)).ruling
  | spatialFlow a b => exact (Declines.spatialFlowIdle (h.imp hmissing hmissing)).ruling
  | phaseTransition field target => exact (Declines.phaseTransitionIdle (hmissing h)).ruling
  | fractalSpawn field iterations depth => exact (Declines.fractalSpawnIdle (hmissing h)).ruling
  | decay field rate => exact (Declines.decayIdle (hmissing h)).ruling
  | unidirectionalFlow => exact Declines.unidirectionalFlow.ruling
  | _ => exact h.elim

theorem ruling_of_miscounted (h : op.Miscounted) :
    (op.apply r maxDepth).2.ruling = .failed "FIELD_COUNT" := by
  cases op with
  | interaction names constraints => exact (Declines.interactionCount h).ruling
  | network names constraints => exact (Declines.networkCount h).ruling
  | _ => exact h.elim

theorem ruling_of_unnamed (hcount : ¬ op.Miscounted) (h : op.Unnamed) :
    (op.apply r maxDepth).2.ruling = .failed "EMPTY_FIELD_NAME" := by
  cases op with
  | interaction names constraints =>
      obtain ⟨a, b, rfl⟩ := List.length_eq_two.mp (not_not.mp hcount)
      have hempty : a = "" ∨ b = "" := (List.mem_pair.mp h).imp Eq.symm Eq.symm
      exact (Declines.interactionUnnamed hempty).ruling
  | network names constraints => exact (Declines.networkUnnamed hcount h).ruling
  | entangle a b => exact (Declines.entangleUnnamed h).ruling
  | symbiosis a b => exact (Declines.symbiosisUnnamed h).ruling
  | regenerate field energy =>
      obtain rfl : field = "" := h
      exact Declines.regenerateUnnamed.ruling
  | _ => exact h.elim

theorem ruling_of_unknownTarget (hidle : ¬ op.Idle r) (h : op.UnknownTarget) :
    (op.apply r maxDepth).2.ruling = .failed "UNKNOWN_PHASE" := by
  cases op with
  | phaseTransition field target =>
      obtain ⟨f, hf⟩ := Registry.exists_get?_of_mem_names (not_not.mp hidle)
      have hphase : Phase.ofName? target = none := by
        rw [Phase.ofName?, List.find?_eq_none]
        intro phase hmem hname
        exact h (List.mem_map.mpr ⟨phase, hmem, of_decide_eq_true hname⟩)
      exact (Declines.unknownPhase hf hphase).ruling
  | _ => exact h.elim

theorem ruling_of_tooDeep (hidle : ¬ op.Idle r) (h : op.TooDeep maxDepth) :
    (op.apply r maxDepth).2.ruling = .failed "DEPTH_LIMIT" := by
  cases op with
  | fractalSpawn field iterations depth =>
      obtain ⟨f, hf⟩ := Registry.exists_get?_of_mem_names (not_not.mp hidle)
      exact (Declines.depthLimit hf h).ruling
  | _ => exact h.elim

theorem spawns?_eq_none_iff (f : EnergyField α) (field : String) (iterations depth : α) :
    f.spawns? depth = none ↔ (fractalSpawn field iterations depth).TooMany := by
  have hlimit : ∀ count : ℕ,
      ¬ decide (count ≤ EnergyField.maxSpawns) = true ↔ 2 ^ 32 - 1 < count := by
    intro count
    rw [decide_eq_true_iff, not_le]
    rfl
  rw [EnergyField.spawns?, Option.map_eq_none_iff, EnergyField.spawnCount?,
    Option.filter_eq_none_iff]
  exact forall₂_congr fun count _ => hlimit count

theorem ruling_of_tooMany (hidle : ¬ op.Idle r) (hdeep : ¬ op.TooDeep maxDepth)
    (h : op.TooMany) : (op.apply r maxDepth).2.ruling = .failed "INTERNAL" := by
  cases op with
  | fractalSpawn field iterations depth =>
      obtain ⟨f, hf⟩ := Registry.exists_get?_of_mem_names (not_not.mp hidle)
      have hspawns := (spawns?_eq_none_iff f field iterations depth).mpr h
      exact (Declines.tooManySpawns hf hdeep hspawns).ruling
  | _ => exact h.elim

omit [Scalar α] in
theorem couplable_of_exact (hexact : op.kind.conservation = .exact) (hidle : ¬ op.Idle r)
    (hcount : ¬ op.Miscounted) (hname : ¬ op.Unnamed) : op.Couplable r := by
  cases op with
  | interaction => exact ⟨not_not.mp hcount, hname⟩
  | network => exact ⟨not_lt.mp hcount, hname⟩
  | spatialFlow => exact (not_or.mp hidle).imp not_not.mp not_not.mp
  | _ => cases hexact

theorem ruling_of_unbalanced (hop : op.Couplable r) (h : op.Unbalanced r maxDepth) :
    (op.apply r maxDepth).2.ruling = .failed "CONSERVATION_VIOLATION" := by
  rcases hop.applied_or_unbalanced maxDepth with happlied | ⟨fault, hfault, hcode⟩
  · exact absurd h (hop.applied_iff.mp happlied)
  · rw [hfault, Verdict.ruling, hcode]

theorem ruling_of_none (hidle : ¬ op.Idle r) (hcount : ¬ op.Miscounted) (hname : ¬ op.Unnamed)
    (htarget : ¬ op.UnknownTarget) (hdeep : ¬ op.TooDeep maxDepth)
    (hbalance : ¬ op.Unbalanced r maxDepth) (hmany : ¬ op.TooMany) :
    (op.apply r maxDepth).2.ruling = .applied := by
  by_cases hexact : op.kind.conservation = .exact
  · have hop := couplable_of_exact hexact hidle hcount hname
    exact Verdict.ruling_of_applied (hop.applied_iff.mpr hbalance)
  · cases op with
    | interaction | network | spatialFlow => exact absurd rfl hexact
    | entangle a b =>
        obtain ⟨ha, hb⟩ := not_or.mp hname
        exact (Applies.entangle ha hb rfl rfl).ruling
    | symbiosis a b =>
        obtain ⟨ha, hb⟩ := not_or.mp hname
        exact (Applies.symbiosis ha hb rfl rfl).ruling
    | regenerate field energy => exact (Applies.regenerate hname rfl).ruling
    | resonance a b =>
        obtain ⟨ha, hb⟩ := not_or.mp hidle
        obtain ⟨f, hf⟩ := Registry.exists_get?_of_mem_names (not_not.mp ha)
        obtain ⟨g, hg⟩ := Registry.exists_get?_of_mem_names (not_not.mp hb)
        exact (Applies.resonance hf hg).ruling
    | decay field rate =>
        obtain ⟨f, hf⟩ := Registry.exists_get?_of_mem_names (not_not.mp hidle)
        exact (Applies.decay hf).ruling
    | phaseTransition field target =>
        obtain ⟨f, hf⟩ := Registry.exists_get?_of_mem_names (not_not.mp hidle)
        obtain ⟨phase, _, rfl⟩ := List.mem_map.mp (not_not.mp htarget)
        exact (Applies.phaseTransition hf phase.ofName?_name).ruling
    | fractalSpawn field iterations depth =>
        obtain ⟨f, hf⟩ := Registry.exists_get?_of_mem_names (not_not.mp hidle)
        have hsome : f.spawns? depth ≠ none := by
          rwa [Ne, spawns?_eq_none_iff f field iterations]
        obtain ⟨spawns, hspawns⟩ := Option.ne_none_iff_exists'.mp hsome
        exact (Applies.fractalSpawn hf hdeep hspawns).ruling
    | unidirectionalFlow => exact absurd trivial hidle
    | creation => exact Applies.creation.ruling
    | unknown => exact Applies.unknown.ruling

end Operation

/-! ## Splits in exact arithmetic -/

namespace ExactScalar

variable {α : Type} [ExactScalar α]

theorem tooMany_iff (field : String) (iterations : α) (n : ℕ) :
    (Operation.fractalSpawn field iterations (n : α)).TooMany ↔ 2 ^ 32 - 1 < 2 ^ n := by
  rw [Operation.TooMany, units?_exp2]
  simp

end ExactScalar

/-- Every operation gets the ruling of the first condition that holds. -/
theorem apply_ruling {α : Type} [Scalar α] (r : Registry α) (maxDepth : α) (op : Operation α) :
    (op.apply r maxDepth).2.ruling = op.dueRuling r maxDepth := by
  unfold Operation.dueRuling
  split
  · next hidle => exact Operation.ruling_of_idle hidle
  next hidle =>
  split
  · next hcount => exact Operation.ruling_of_miscounted hcount
  next hcount =>
  split
  · next hname => exact Operation.ruling_of_unnamed hcount hname
  next hname =>
  split
  · next htarget => exact Operation.ruling_of_unknownTarget hidle htarget
  next htarget =>
  split
  · next hdeep => exact Operation.ruling_of_tooDeep hidle hdeep
  next hdeep =>
  split
  · next hbalance =>
    have hop := Operation.couplable_of_exact hbalance.exact hidle hcount hname
    exact Operation.ruling_of_unbalanced hop hbalance
  next hbalance =>
  split
  · next hmany => exact Operation.ruling_of_tooMany hidle hdeep hmany
  · next hmany => exact Operation.ruling_of_none hidle hcount hname htarget hdeep hbalance hmany

/-- Some line asks for the operation. -/
def Operation.Recognised {α : Type} [Scalar α] (op : Operation α) : Prop :=
  ∃ line, recognize line = op

theorem Operation.Recognised.exists_form {α : Type} [Scalar α] {op : Operation α}
    (h : op.Recognised) (hop : op.kind ≠ .unknown) : ∃ text, Form text op := by
  obtain ⟨line, hline⟩ := h
  exact ⟨_, (recognize_eq_iff_of_known hop).mp hline⟩

/-- The ruling on an operation is that of the first condition that holds.  A line gives a split a
whole depth, and in exact arithmetic its spawns are a power of two. -/
theorem ruling_of_first_condition :
    (∀ (α : Type) [Scalar α] (r : Registry α) (maxDepth : α) (op : Operation α),
      (op.apply r maxDepth).2.ruling = op.dueRuling r maxDepth) ∧
    ∀ (α : Type) [ExactScalar α] (r : Registry α) (limit : ℕ) (field : String)
      (iterations depth : α), (Operation.fractalSpawn field iterations depth).Recognised →
      field ∈ r.names → ∃ n : ℕ, depth = n ∧
        ((Operation.fractalSpawn field iterations depth).apply r (limit : α)).2.ruling =
          if limit < n then .failed "DEPTH_LIMIT"
          else if 2 ^ 32 - 1 < 2 ^ n then .failed "INTERNAL"
          else .applied := by
  refine ⟨fun α _ r maxDepth op => apply_ruling r maxDepth op, ?_⟩
  intro α _ r limit field iterations depth hline hfield
  obtain ⟨text, hform⟩ := hline.exists_form nofun
  obtain ⟨n, rfl⟩ := hform.exists_natCast_depth
  refine ⟨n, rfl, ?_⟩
  have hidle : ¬ (Operation.fractalSpawn field iterations (n : α)).Idle r := not_not.mpr hfield
  have hdeep : (Operation.fractalSpawn field iterations (n : α)).TooDeep (limit : α) ↔ limit < n :=
    Nat.cast_lt
  have hmany := ExactScalar.tooMany_iff field iterations n
  split
  · next hlimit => exact Operation.ruling_of_tooDeep hidle (hdeep.mpr hlimit)
  · next hlimit =>
    have hshallow := mt hdeep.mp hlimit
    split
    · next hpower => exact Operation.ruling_of_tooMany hidle hshallow (hmany.mpr hpower)
    · next hpower =>
      exact Operation.ruling_of_none hidle id id id hshallow (fun h => nomatch h.exact)
        (mt hmany.mp hpower)

/-- A split into `2 ^ 40` spawns within the limit, and the same split above it. -/
theorem ruling_of_first_condition_deep_split :
    let r : Registry ℚ := Registry.empty.put (EnergyField.create "a" 5)
    let op : Operation ℚ := .fractalSpawn "a" 2 40
    op.Recognised ∧ "a" ∈ r.names ∧
      (op.apply r (50 : ℕ)).2.ruling = .failed "INTERNAL" ∧
      (op.apply r (12 : ℕ)).2.ruling = .failed "DEPTH_LIMIT" := by
  intro r op
  have hop : op.Recognised := ⟨"∮^2(a, 40)", by decide +kernel⟩
  have hmem : "a" ∈ r.names := by decide
  have hruling : ∀ limit : ℕ, (op.apply r (limit : ℚ)).2.ruling =
      if limit < 40 then .failed "DEPTH_LIMIT"
      else if 2 ^ 32 - 1 < 2 ^ 40 then .failed "INTERNAL" else .applied := by
    intro limit
    obtain ⟨n, hn, hruling⟩ := ruling_of_first_condition.2 ℚ r limit "a" 2 40 hop hmem
    obtain rfl : 40 = n := by exact_mod_cast hn
    exact hruling
  exact ⟨hop, hmem, by rw [hruling]; decide, by rw [hruling]; decide⟩

end FieldCalculus
