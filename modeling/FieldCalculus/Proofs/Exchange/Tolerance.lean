import FieldCalculus.Proofs.Run.Verdicts
import FieldCalculus.Proofs.Exchange.Imbalance
import FieldCalculus.Proofs.Operation.Stored
/-!
# Totals for which every exchange balances

The gate lets totals differ by one part in `10 ^ 10`, however large they are.  Six half steps of
the grid below `2 ^ 18` are less than that, and so are the roundings of a flow whose totals stay
below `2 ^ 19`.  Up to these sizes no exchange is refused; right above the first one is.
-/

namespace FieldCalculus

open Binary64

/-- An exchange of this kind balances whatever it exchanges, as long as no total is larger. -/
def Operation.Kind.balancedUpTo : Operation.Kind → Float
  | spatialFlow => 58254.0
  | _ => 262144.0

/-- The code of the fault, if there is one. -/
def Verdict.faultCode? {α : Type} [Scalar α] : Verdict α → Option String
  | failed fault => some fault.code
  | _ => none

/-! ## The bounds -/

theorem hasValue_interaction_bound : HasValue 262144.0 (2 ^ (18 : ℤ)) := by
  have h : (262144.0 : Float).toModel.unpack =
      .finite .positive 4503599627370496 (-34) (by omega) := rfl
  have hvalue := hasValue_of_unpack h
  norm_num [signed] at hvalue ⊢
  exact hvalue

theorem hasValue_flow_bound : HasValue 58254.0 58254 := by
  have h : (58254.0 : Float).toModel.unpack =
      .finite .positive 8006368795557888 (-37) (by omega) := rfl
  have hvalue := hasValue_of_unpack h
  norm_num [signed] at hvalue
  exact hvalue

/-! ## The gate -/

theorem exists_hasValue_tolerance :
    ∃ τ, HasValue (Energy.conservationTolerance : Float) τ ∧ 1 / 10 ^ 10 ≤ τ := by
  have h : (Energy.conservationTolerance : Float).toModel.unpack =
      .finite .positive 7737125245533627 (-86) (by omega) := rfl
  refine ⟨_, hasValue_of_unpack h, ?_⟩
  norm_num [signed]

/-- The difference is rounded as well before it is compared. -/
theorem balanced_of_near {before after : Float} (h : Near before after (9 / 10 ^ 11)) :
    balanced before after = true := by
  obtain ⟨p, q, hp, hq, hnear⟩ := h
  obtain ⟨τ, hτ, hτ'⟩ := exists_hasValue_tolerance
  have hsmall : |p - q| ≤ 2 ^ (-33 : ℤ) := hnear.trans (by norm_num)
  obtain ⟨d, hd, hround⟩ := hp.sub hq (hsmall.trans (two_zpow_le (by norm_num)))
  have hd' : |d - (p - q)| ≤ 1 / 10 ^ 11 :=
    (hround.abs_sub_le_pow (by norm_num) hsmall).trans (by norm_num)
  have hwithin : |d| ≤ τ := by
    linarith only [abs_sub_abs_le_abs_sub d (p - q), hnear, hd', hτ']
  have hle : Scalar.abs (before - after) ≤ Energy.conservationTolerance :=
    (hd.abs.le_iff hτ).mpr hwithin
  have hbefore : Scalar.isFinite before = true := hp.isFinite
  have hafter : Scalar.isFinite after = true := hq.isFinite
  simp only [balanced, hbefore, hafter, hle, decide_true, Bool.and_self]

theorem gate_of_near {before after : EnergyField Float × EnergyField Float}
    (h : Near (before.1.pairTotal before.2) (after.1.pairTotal after.2) (9 / 10 ^ 11))
    (kind : Operation.Kind) : gate kind before after = none := by
  apply if_neg
  rintro ⟨_, hfalse⟩
  rw [balanced_of_near h] at hfalse
  cases hfalse

section Couplings

variable {f g : EnergyField Float}

theorem couples_interact :
    EnergyField.Couples (EnergyField.TotalWithin (2 ^ (18 : ℤ))) EnergyField.interact := by
  intro f g hf hg
  exact (EnergyField.interact_near (by omega) (by omega) hf hg).1

theorem gate_interact (hf : f.TotalWithin (2 ^ (18 : ℤ))) (hg : g.TotalWithin (2 ^ (18 : ℤ)))
    (kind : Operation.Kind) : gate kind (f, g) (f.interact g) = none := by
  have hnear := (EnergyField.interact_near (by omega) (by omega) hf hg).2
  have hsteps : (6 : ℚ) * 2 ^ ((18 : ℤ) - 54) ≤ 9 / 10 ^ 11 := by norm_num
  apply gate_of_near
  exact hnear.mono hsteps

theorem gate_flow (hf : f.TotalWithin 58254) (hg : g.TotalWithin 58254)
    (hf' : f.position.Finite) (hg' : g.position.Finite) (kind : Operation.Kind) :
    gate kind (f, g) (f.flow g) = none := by
  have hbound : (9 + 1 / 10 ^ 6) * (58254 : ℚ) ≤ 2 ^ (19 : ℤ) := by norm_num
  have hsteps : (2 : ℚ) * 2 ^ ((19 : ℤ) - 54) + 2 * 2 ^ ((19 : ℤ) - 2 - 54) ≤ 9 / 10 ^ 11 := by
    norm_num
  have hnear := EnergyField.flow_near (by omega) (by omega) hbound hf hg hf' hg'
  apply gate_of_near
  exact hnear.mono hsteps

end Couplings

/-! ## The operations -/

namespace Evaluation

variable {r : Registry Float}

theorem resolve_totalWithin {name : String} {energy c : Float} {b : ℚ} (hc : HasValue c b)
    (henergy : Scalar.abs energy ≤ c)
    (hnamed : ∀ f, r.get? name = some f → Scalar.abs f.energy.total ≤ c) :
    (r.resolve name energy).TotalWithin b := by
  cases hf : r.get? name with
  | none =>
      rw [Registry.resolve, hf]
      exact exists_hasValue_of_abs_le hc henergy
  | some f =>
      rw [Registry.resolve_of_get? energy hf]
      exact exists_hasValue_of_abs_le hc (hnamed f hf)

end Evaluation

/-- An interaction, a flow or a network whose fields hold at most 262144, for a flow 58254, is not
refused for its balance. -/
theorem exact_operations_balance (r : Registry Float) (maxDepth : Float) (op : Operation Float)
    (hexact : op.kind.conservation = .exact)
    (hnamed : ∀ name ∈ op.fields, ∀ f, r.get? name = some f →
      Scalar.abs f.energy.total ≤ op.kind.balancedUpTo ∧
        (op.kind = .spatialFlow → f.position.Finite)) :
    (op.apply r maxDepth).2.faultCode? ≠ some "CONSERVATION_VIOLATION" := by
  rcases op.applies_or_declines r maxDepth with ⟨outcome, stored, happlies⟩ | ⟨verdict, hdeclines⟩
  · rw [happlies.apply_eq]
    intro h
    cases h
  rw [hdeclines.apply_eq]
  cases hdeclines with
  | @interactionUnbalanced a b _ f g fault _ _ hf hg hgate =>
      have hread {name : String} (hname : name ∈ [a, b]) :
          (r.resolve name defaultEnergies.interaction).TotalWithin (2 ^ (18 : ℤ)) :=
        Evaluation.resolve_totalWithin hasValue_interaction_bound (by decide +kernel)
          fun f hf => (hnamed name hname f hf).1
      rw [gate_interact (hf ▸ hread (by simp)) (hg ▸ hread (by simp))] at hgate
      cases hgate
  | @spatialFlowUnbalanced a b f g fault hf hg hgate =>
      obtain ⟨hftotal, hfposition⟩ := hnamed a (by simp [Operation.fields]) f hf
      obtain ⟨hgtotal, hgposition⟩ := hnamed b (by simp [Operation.fields]) g hg
      rw [gate_flow (exists_hasValue_of_abs_le hasValue_flow_bound hftotal)
        (exists_hasValue_of_abs_le hasValue_flow_bound hgtotal) (hfposition rfl)
        (hgposition rfl)] at hgate
      cases hgate
  | @networkUnbalanced names _ fault _ _ hrun =>
      -- no pair carries a total over the bound for the pairs that come after it
      have hread : ∀ name ∈ names,
          (r.resolve name defaultEnergies.network).TotalWithin (2 ^ (18 : ℤ)) := fun name hname =>
        Evaluation.resolve_totalWithin hasValue_interaction_bound (by decide +kernel)
          fun f hf => (hnamed name hname f hf).1
      obtain ⟨f, g, hf, hg, hgate⟩ := (Evaluation.runPairs_spec hread couples_interact
        (Evaluation.indexPairs names) (fun p hp => mem_of_mem_indexPairs hp)
        (Evaluation.members_forall hread)).2 fault hrun
      rw [gate_interact hf hg] at hgate
      cases hgate
  | interactionCount | interactionUnnamed | networkCount | networkUnnamed =>
      simp [Verdict.faultCode?, Fault.code]
  | spatialFlowIdle =>
      intro h
      cases h
  | _ => cases hexact

/-- A network on totals at the bound, with a third field that it creates. -/
theorem exact_operations_balance_at_bound :
    let r := (Registry.empty : Registry Float).commit
      [EnergyField.create "a" 262144.0, EnergyField.create "b" (-262144.0)]
    let op : Operation Float := .network ["a", "b", "c"] ""
    op.kind.conservation = .exact ∧
      (∀ name ∈ op.fields, ∀ f, r.get? name = some f →
        Scalar.abs f.energy.total ≤ op.kind.balancedUpTo ∧
          (op.kind = .spatialFlow → f.position.Finite)) ∧
      (op.apply r 12.0).2.faultCode? ≠ some "CONSERVATION_VIOLATION" := by
  intro r op
  have hbound : ∀ f ∈ r.fields, Scalar.abs f.energy.total ≤ op.kind.balancedUpTo := by
    decide +kernel
  have hnamed : ∀ name ∈ op.fields, ∀ f, r.get? name = some f →
      Scalar.abs f.energy.total ≤ op.kind.balancedUpTo ∧
        (op.kind = .spatialFlow → f.position.Finite) := by
    intro name _ f hf
    exact ⟨hbound f (Registry.mem_fields_of_get? hf), nofun⟩
  exact ⟨rfl, hnamed, exact_operations_balance r 12.0 op rfl hnamed⟩

/-- Not one unit above the bound an interaction of two new fields at the origin is refused. -/
theorem interaction_unbalanced_above_bound :
    let e := ((Interpreter.new : Interpreter Float).execute
      "a = 262144.9\nb = 262143.8").interpreter.start
    let origin : Vector3 Float := Vector3.origin
    (∀ f ∈ e.interpreter.registry.fields,
        f.name ∈ ["a", "b"] ∧ Scalar.abs f.energy.total ≤ 1e9 ∧ (f.position == origin) = true) ∧
      (recognize "∇F(a↔b)|∂E/∂t=0" : Operation Float).kind = .interaction ∧
      (recognize "∇F(a↔b)|∂E/∂t=0" : Operation Float).fields = ["a", "b"] ∧
      (e.verdict "∇F(a↔b)|∂E/∂t=0").faultCode? = some "CONSERVATION_VIOLATION" := by
  intro e origin
  refine ⟨?_, ?_, ?_, ?_⟩
  · decide +kernel
  · decide +kernel
  · decide +kernel
  · decide +kernel

end FieldCalculus
