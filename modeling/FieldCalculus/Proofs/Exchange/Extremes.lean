import Mathlib.Data.List.MinMax
import Mathlib.Tactic.Linarith
import FieldCalculus.Proofs.Exchange.Drift
import FieldCalculus.Proofs.Operation.Names
import FieldCalculus.Proofs.Run.SecondLaw
/-!
# The extremes of a network

Each side of an interaction moves a tenth of the way toward the other, in its total energy and
in its angle.  So no pair of a network takes a member beyond the least and the greatest of all
members, and since no angle leaves the turn, none of them is wrapped.
-/

namespace FieldCalculus

/-- The value lies between the least and the greatest of some values. -/
def Between {α : Type} [LinearOrder α] (values : List α) (x : α) : Prop :=
  values.minimum ≤ (x : WithTop α) ∧ (x : WithBot α) ≤ values.maximum

theorem Between.of_mem {α : Type} [LinearOrder α] {values : List α} {x : α} (h : x ∈ values) :
    Between values x :=
  ⟨List.minimum_le_of_mem' h, List.le_maximum_of_mem' h⟩

theorem Between.of_le {α : Type} [LinearOrder α] {values : List α} {x y z : α}
    (hx : Between values x) (hy : Between values y) (hxz : x ≤ z) (hzy : z ≤ y) :
    Between values z :=
  ⟨hx.1.trans (WithTop.coe_le_coe.mpr hxz), (WithBot.coe_le_coe.mpr hzy).trans hy.2⟩

variable {α : Type} [ExactScalar α]

/-- A tenth of the way from one value to another is between the two. -/
theorem Between.tenth {values : List α} {x y : α} (hx : Between values x)
    (hy : Between values y) : Between values (x + (y - x) / 10) := by
  rcases le_total x y with h | h
  · exact hx.of_le hy (by linarith) (by linarith)
  · exact hy.of_le hx (by linarith) (by linarith)

namespace EnergyField

theorem total_interact (f g : EnergyField α) :
    (f.interact g).1.energy.total = f.energy.total + (g.energy.total - f.energy.total) / 10 ∧
      (f.interact g).2.energy.total =
        g.energy.total + (f.energy.total - g.energy.total) / 10 := by
  have hleft : (f.interact g).1.energy.total =
      f.energy.total - 0.1 * (f.energy.total - g.energy.total) := rfl
  have hright : (f.interact g).2.energy.total =
      g.energy.total - -(0.1 * (f.energy.total - g.energy.total)) := rfl
  rw [hleft, hright, ExactScalar.tenth_eq]
  constructor <;> ring

theorem couples_between_totals (totals : List α) :
    Couples (fun f => Between totals f.energy.total) interact := by
  intro f g hf hg
  obtain ⟨hleft, hright⟩ := f.total_interact g
  simpa only [hleft, hright] using And.intro (hf.tenth hg) (hg.tenth hf)

/-- Two angles within the turn drift without being wrapped. -/
theorem couples_between_angles (angles : List α) :
    Couples (fun f => (0 ≤ f.energy.angle ∧ f.energy.angle < Scalar.tau) ∧
      Between angles f.energy.angle) interact := by
  intro f g ⟨hf, hfspan⟩ ⟨hg, hgspan⟩
  obtain ⟨hleft, hright⟩ := angle_interact hf hg
  exact ⟨⟨wrapAngle_mem _, hleft ▸ hfspan.tenth hgspan⟩,
    wrapAngle_mem _, hright ▸ hgspan.tenth hfspan⟩

end EnergyField

variable {r : Registry α} {maxDepth : α} {names : List String} {constraints : String}

/-- What every pair keeps, and what holds of all members before, holds of all members after. -/
theorem Operation.members_after_network {P : EnergyField α → Prop}
    (hP : EnergyField.Couples P EnergyField.interact)
    (hread : ∀ name ∈ names, P (r.resolve name defaultEnergies.network))
    (happlied : ((network names constraints).apply r maxDepth).2.status = .applied)
    {name : String} (hname : name ∈ names) {f : EnergyField α}
    (hf : ((network names constraints).apply r maxDepth).1.get? name = some f) : P f := by
  obtain ⟨outcome, stored, happlies, hafter⟩ := exists_applies happlied
  cases happlies with | @network _ _ staged _ _ hrun => ?_
  have hstaged : staged.Forall P :=
    (Evaluation.runPairs_spec hread hP _ (fun _ hp => mem_of_mem_indexPairs hp)
      (Evaluation.members_forall hread)).1 _ hrun
  have hmem : name ∈ staged.names :=
    Evaluation.names_staged hrun ▸ Evaluation.mem_names_members r names hname
  obtain ⟨g, hg⟩ := Registry.exists_get?_of_mem_names hmem
  rw [hafter, Registry.get?_commit_fields, hg, Option.some_or, Option.some.injEq] at hf
  exact hf ▸ Registry.forall_iff_get?.mp hstaged name g hg

/-- After an applied network the total energy of each member lies between the least and the
greatest of the totals before, and so does its angle if all the angles were within one turn.
No member has less entropy.  A missing member counts as the network creates it, with a total
of 70 and an angle of 0. -/
theorem network_within_extremes
    (happlied : ((Operation.network names constraints).apply r maxDepth).2.status = .applied) :
    let before := names.map (r.resolve · 70.0)
    let after := ((Operation.network names constraints).apply r maxDepth).1
    ∀ name ∈ names, ∃ f, after.get? name = some f ∧
      Between (before.map (·.energy.total)) f.energy.total ∧
      ((∀ g ∈ before, 0 ≤ g.energy.angle ∧ g.energy.angle < Scalar.tau) →
        Between (before.map (·.energy.angle)) f.energy.angle) ∧
      (r.resolve name 70.0).energy.entropy ≤ f.energy.entropy := by
  intro before after name hname
  have hbefore : ∀ other ∈ names, r.resolve other 70.0 ∈ before := fun other hother =>
    List.mem_map_of_mem hother
  have henrolled : (r.enroll (Operation.Kind.creationEnergy .network) names).get? name =
      some (r.resolve name 70.0) := by
    rw [Operation.Kind.creationEnergy_network, Registry.get?_enroll, if_pos hname]
    rfl
  obtain ⟨f, hf, hentropy⟩ :=
    (Operation.exchanges_of_applied rfl happlied).keepsEntropy name _ henrolled
  refine ⟨f, hf, ?_, ?_, hentropy⟩
  · apply Operation.members_after_network (EnergyField.couples_between_totals _) _ happlied hname hf
    exact fun other hother => .of_mem (List.mem_map_of_mem (hbefore other hother))
  · intro hangles
    refine (Operation.members_after_network
      (EnergyField.couples_between_angles (before.map (·.energy.angle))) ?_ happlied hname hf).2
    exact fun other hother => ⟨hangles _ (hbefore other hother),
      .of_mem (List.mem_map_of_mem (hbefore other hother))⟩

/-- A network with a member named twice, which is then paired with itself, and with a member
that is missing. -/
theorem network_within_extremes_repeated_member :
    let a : EnergyField ℚ := { EnergyField.create "a" 100 with energy.angle := 3 }
    let b : EnergyField ℚ := { EnergyField.create "b" 40 with energy.angle := 1 }
    let r := (Registry.empty.put a).put b
    let names := ["a", "b", "a", "c"]
    let applied := (Operation.network names "").apply r 12
    (applied.2.status = .applied ∧ "a" ∈ names ∧
      ∀ g ∈ names.map (r.resolve · 70.0),
        0 ≤ g.energy.angle ∧ g.energy.angle < Scalar.tau) ∧
    ∃ f, applied.1.get? "a" = some f ∧ Between [100, 40, 100, 70] f.energy.total ∧
      Between [3, 1, 3, 0] f.energy.angle ∧ a.energy.entropy ≤ f.energy.entropy := by
  intro a b r names applied
  have happlied : applied.2.status = .applied := by decide +kernel
  have hname : "a" ∈ names := List.mem_cons_self
  have hangles : ∀ g ∈ names.map (r.resolve · 70.0),
      0 ≤ g.energy.angle ∧ g.energy.angle < Scalar.tau := by decide +kernel
  have htotalsBefore :
      (names.map (r.resolve · 70.0)).map (·.energy.total) = [100, 40, 100, 70] := by
    decide +kernel
  have hanglesBefore :
      (names.map (r.resolve · 70.0)).map (·.energy.angle) = [3, 1, 3, 0] := by
    decide +kernel
  obtain ⟨f, hf, htotal, hangle, hentropy⟩ := network_within_extremes happlied "a" hname
  rw [htotalsBefore] at htotal
  have hbetween := hangle hangles
  rw [hanglesBefore] at hbetween
  exact ⟨⟨happlied, hname, hangles⟩, f, hf, htotal, hbetween, hentropy⟩

end FieldCalculus
