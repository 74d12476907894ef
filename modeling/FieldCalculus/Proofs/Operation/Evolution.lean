import FieldCalculus.Proofs.Operation.Names
/-!
# Which attributes an operation changes

An operation that stores a registered field again builds it from the field as it was, and
each attribute is open to a few kinds of operations only.  A creation puts a new field in
the place of an old one, and so does a split whose spawn has the name of a registered field.
-/

namespace FieldCalculus

variable {α : Type}

/-- An operation of this kind may turn the first field into the second.  Every attribute but
the energies, the coherence and the age stays as it is unless the kind is one that sets it. -/
structure EnergyField.Evolves (kind : Operation.Kind) (f f' : EnergyField α) : Prop where
  name : f'.name = f.name := by rfl
  position : f'.position = f.position := by rfl
  fractalDepth : f'.fractalDepth = f.fractalDepth := by rfl
  gradient : kind ≠ .spatialFlow → f'.gradient = f.gradient := by intros; rfl
  phase : kind ≠ .phaseTransition → f'.phase = f.phase := by intros; rfl
  frequency : kind ≠ .symbiosis → f'.frequency = f.frequency := by intros; rfl
  capacity : kind ∉ [.symbiosis, .regenerate, .decay] → f'.capacity = f.capacity := by
    intros; rfl
  angle : kind ∉ [.interaction, .network, .resonance] → f'.energy.angle = f.energy.angle := by
    intros; rfl
  partner : kind ≠ .entangle → f'.partner = f.partner := by intros; rfl

namespace EnergyField

variable {kind : Operation.Kind} {f g h : EnergyField α}

theorem Evolves.refl (kind : Operation.Kind) (f : EnergyField α) : f.Evolves kind f where

theorem Evolves.trans (hfg : f.Evolves kind g) (hgh : g.Evolves kind h) : f.Evolves kind h where
  name := hgh.name.trans hfg.name
  position := hgh.position.trans hfg.position
  fractalDepth := hgh.fractalDepth.trans hfg.fractalDepth
  gradient hkind := (hgh.gradient hkind).trans (hfg.gradient hkind)
  phase hkind := (hgh.phase hkind).trans (hfg.phase hkind)
  frequency hkind := (hgh.frequency hkind).trans (hfg.frequency hkind)
  capacity hkind := (hgh.capacity hkind).trans (hfg.capacity hkind)
  angle hkind := (hgh.angle hkind).trans (hfg.angle hkind)
  partner hkind := (hgh.partner hkind).trans (hfg.partner hkind)

/-- A coupling that lets both of its fields evolve does so from any earlier form of them. -/
theorem couples_evolves {couple : EnergyField α → EnergyField α → EnergyField α × EnergyField α}
    (hcouple : ∀ g h, Evolves kind g (couple g h).1 ∧ Evolves kind h (couple g h).2)
    (x : String) (f : EnergyField α) :
    Couples (fun g => g.name = x → f.Evolves kind g) couple := by
  intro g h hg hh
  obtain ⟨hleft, hright⟩ := hcouple g h
  exact ⟨fun hx => (hg (hleft.name ▸ hx)).trans hleft,
    fun hx => (hh (hright.name ▸ hx)).trans hright⟩

/-! ## One transition -/

variable [Scalar α]

theorem phase_transition (f : EnergyField α) (target : Phase) :
    (f.transition target).phase = f.phase ∨ (f.transition target).phase = target := by
  unfold transition
  dsimp only
  split
  · exact Or.inl rfl
  · exact Or.inr rfl

theorem evolves_transition (f : EnergyField α) (target : Phase) :
    f.Evolves .phaseTransition (f.transition target) := by
  unfold transition
  dsimp only
  split
  · exact .refl _ f
  · exact { phase := (absurd rfl ·) }

theorem evolves_decay (f : EnergyField α) (rate : α) : f.Evolves .decay (f.decay rate) where
  capacity hkind := absurd (by decide) hkind

theorem evolves_regenerate (f : EnergyField α) (input : α) :
    f.Evolves .regenerate (f.regenerate input) where
  capacity hkind := absurd (by decide) hkind

theorem evolves_interact (f g : EnergyField α) (hkind : kind = .interaction ∨ kind = .network) :
    f.Evolves kind (f.interact g).1 ∧ g.Evolves kind (f.interact g).2 := by
  have hangle : kind ∈ [.interaction, .network, .resonance] := by
    rcases hkind with rfl | rfl <;> decide
  exact ⟨{ angle := absurd hangle }, { angle := absurd hangle }⟩

theorem evolves_entangle (f g : EnergyField α) :
    f.Evolves .entangle (f.entangle g).1 ∧ g.Evolves .entangle (f.entangle g).2 :=
  ⟨{ partner := (absurd rfl ·) }, { partner := (absurd rfl ·) }⟩

theorem evolves_resonate (f g : EnergyField α) :
    f.Evolves .resonance (f.resonate g).1 ∧ g.Evolves .resonance (f.resonate g).2 := by
  have hangle : Operation.Kind.resonance ∈ [.interaction, .network, .resonance] := by decide
  exact ⟨{ angle := absurd hangle }, { angle := absurd hangle }⟩

theorem evolves_flow (f g : EnergyField α) :
    f.Evolves .spatialFlow (f.flow g).1 ∧ g.Evolves .spatialFlow (f.flow g).2 :=
  ⟨{ gradient := (absurd rfl ·) }, { gradient := (absurd rfl ·) }⟩

theorem evolves_symbiosis (f g : EnergyField α) :
    f.Evolves .symbiosis (f.symbiosis g).1 ∧ g.Evolves .symbiosis (f.symbiosis g).2 := by
  have hcapacity : Operation.Kind.symbiosis ∈ [.symbiosis, .regenerate, .decay] := by decide
  exact ⟨{ frequency := (absurd rfl ·), capacity := absurd hcapacity },
    { frequency := (absurd rfl ·), capacity := absurd hcapacity }⟩

end EnergyField

/-! ## One operation -/

namespace Operation

variable [Scalar α] {r : Registry α} {maxDepth : α} {op : Operation α} {x : String}
  {f : EnergyField α}

/-- The operation puts a new field in the place of the one with this name. -/
def Replaces (x : String) (op : Operation α) : Prop :=
  (op.kind = .creation ∨ op.kind = .fractalSpawn) ∧ x ∈ op.writes

instance (x : String) (op : Operation α) : Decidable (op.Replaces x) :=
  inferInstanceAs (Decidable (_ ∧ _))

theorem mem_fields_of_mem_writes (hkept : ¬ op.Replaces x) (hx : x ∈ op.writes) :
    x ∈ op.fields := by
  cases op with
  | fractalSpawn => exact absurd ⟨Or.inr rfl, hx⟩ hkept
  | unidirectionalFlow | unknown => cases hx
  | _ => exact hx

theorem preserves_evolves (maxDepth : α) (x : String) (f : EnergyField α)
    (hcreation : op.kind ≠ .creation) (hspawn : op.kind ≠ .fractalSpawn) :
    op.Preserves (fun g => g.name = x → f.Evolves op.kind g) maxDepth := by
  cases op with
  | creation => exact absurd rfl hcreation
  | fractalSpawn => exact absurd rfl hspawn
  | unidirectionalFlow | unknown => trivial
  | entangle => exact EnergyField.couples_evolves EnergyField.evolves_entangle x f
  | resonance => exact EnergyField.couples_evolves EnergyField.evolves_resonate x f
  | spatialFlow => exact EnergyField.couples_evolves EnergyField.evolves_flow x f
  | symbiosis => exact EnergyField.couples_evolves EnergyField.evolves_symbiosis x f
  | network =>
      exact EnergyField.couples_evolves (fun g h => g.evolves_interact h (Or.inr rfl)) x f
  | interaction =>
      exact EnergyField.couples_evolves (fun g h => g.evolves_interact h (Or.inl rfl)) x f
  | phaseTransition =>
      intro g target hg hx
      have hstep := g.evolves_transition target
      exact (hg (hstep.name ▸ hx)).trans hstep
  | regenerate _ input =>
      intro g hg hx
      exact (hg hx).trans (g.evolves_regenerate input)
  | decay _ rate =>
      intro g hg hx
      exact (hg hx).trans (g.evolves_decay rate)

/-- A registered field that is not replaced stays registered and evolves, and it stays as it
is unless the operation names it. -/
theorem exists_evolves_apply (maxDepth : α) (hx : r.get? x = some f) (hkept : ¬ op.Replaces x) :
    ∃ f', (op.apply r maxDepth).1.get? x = some f' ∧ f.Evolves op.kind f' ∧
      (x ∉ op.fields → f' = f) := by
  by_cases hwritten : x ∈ op.writes
  · -- asked of one name only, the property holds of every other field of the registry
    have hr : r.Forall fun g => g.name = x → f.Evolves op.kind g := by
      rw [Registry.forall_iff_get?]
      rintro name g hg rfl
      rw [Registry.name_of_get? hg, hg] at hx
      cases hx
      exact .refl _ f
    have hread : r.Reads (fun g => g.name = x → f.Evolves op.kind g) op.fields := by
      intro name _ energy hname
      rw [Registry.name_resolve] at hname
      rw [hname, Registry.resolve_of_get? energy hx]
      exact .refl _ f
    have hpreserves := preserves_evolves maxDepth x f
      (fun hkind => hkept ⟨Or.inl hkind, hwritten⟩) (fun hkind => hkept ⟨Or.inr hkind, hwritten⟩)
    have hafter := apply_forall_of_reads hpreserves hread hr
    have hmem : x ∈ (op.apply r maxDepth).1.names := by
      rcases op.applies_or_declines r maxDepth with ⟨_, _, happlies⟩ | ⟨_, hdeclines⟩
      · rw [happlies.apply_eq, Registry.names_commit]
        exact List.mem_append_left _ (Registry.mem_names_of_get? hx)
      · rw [hdeclines.apply_eq]
        exact Registry.mem_names_of_get? hx
    obtain ⟨f', hf'⟩ := Registry.exists_get?_of_mem_names hmem
    exact ⟨f', hf', Registry.forall_iff_get?.mp hafter x f' hf' (Registry.name_of_get? hf'),
      fun hfields => absurd (mem_fields_of_mem_writes hkept hwritten) hfields⟩
  · exact ⟨f, (get?_apply_of_not_mem r maxDepth hwritten).trans hx, .refl _ f, fun _ => rfl⟩

end Operation

end FieldCalculus
