import FieldCalculus.Proofs.Operation.Evolution
/-!
# Attributes over a run

A field that is not replaced keeps its name, its place and its depth over a whole run, each
of its other attributes changes in operations of a few kinds that name it, and its partner
is the one of its latest entanglement.
-/

namespace FieldCalculus

variable {α : Type}

namespace Operation

/-- The partner that an operation gives the field with this name. -/
def partnerOf? (x : String) : Operation α → Option String
  | entangle a b => if x = a then some b else if x = b then some a else none
  | _ => none

/-- The partner that the latest of some operations gives the field with this name. -/
def latestPartner? (x : String) (ops : List (Operation α)) : Option String :=
  (ops.filterMap (partnerOf? x)).getLast?

theorem partnerOf?_of_kind {op : Operation α} (x : String) (hkind : op.kind ≠ .entangle) :
    op.partnerOf? x = none := by
  cases op with
  | entangle => exact absurd rfl hkind
  | _ => rfl

theorem latestPartner?_cons_or (x : String) (op : Operation α) (rest : List (Operation α))
    (initial : Option String) :
    (latestPartner? x (op :: rest)).or initial =
      (latestPartner? x rest).or ((op.partnerOf? x).or initial) := by
  rw [latestPartner?, latestPartner?, List.filterMap_cons]
  cases op.partnerOf? x with
  | none => rfl
  | some partner =>
      rw [List.getLast?_cons]
      cases (rest.filterMap (partnerOf? x)).getLast? <;> rfl

/-- The operation changes the field with this name only as its kind allows. -/
structure ChangesOnly (op : Operation α) (x : String) (f f' : EnergyField α) : Prop where
  name : f'.name = f.name
  position : f'.position = f.position
  fractalDepth : f'.fractalDepth = f.fractalDepth
  gradient : f'.gradient ≠ f.gradient → op.kind = .spatialFlow ∧ x ∈ op.fields
  phase : f'.phase ≠ f.phase →
    ∃ target, op = .phaseTransition x target ∧ Phase.ofName? target = some f'.phase
  frequency : f'.frequency ≠ f.frequency → op.kind = .symbiosis ∧ x ∈ op.fields
  capacity : f'.capacity ≠ f.capacity →
    op.kind ∈ [.symbiosis, .regenerate, .decay] ∧ x ∈ op.fields
  angle : f'.energy.angle ≠ f.energy.angle →
    op.kind ∈ [.interaction, .network, .resonance] ∧ x ∈ op.fields
  partner : f'.partner = (op.partnerOf? x).or f.partner

variable [Scalar α]

/-- The registry after some operations. -/
def applyAll (maxDepth : α) (r : Registry α) (ops : List (Operation α)) : Registry α :=
  ops.foldl (fun r op => (op.apply r maxDepth).1) r

/-- Each of some operations is applied in its turn. -/
def AllApplied (maxDepth : α) : Registry α → List (Operation α) → Prop
  | _, [] => True
  | r, op :: rest =>
    (op.apply r maxDepth).2.status = .applied ∧ AllApplied maxDepth (op.apply r maxDepth).1 rest

instance decidableAllApplied (maxDepth : α) :
    ∀ (r : Registry α) (ops : List (Operation α)), Decidable (AllApplied maxDepth r ops)
  | _, [] => inferInstanceAs (Decidable True)
  | r, op :: rest =>
    have := decidableAllApplied maxDepth (op.apply r maxDepth).1 rest
    inferInstanceAs (Decidable (_ ∧ _))

/-! ## One operation -/

variable {r : Registry α} {maxDepth : α} {op : Operation α} {x : String} {f f' : EnergyField α}

theorem phase_of_applied (happlied : (op.apply r maxDepth).2.status = .applied)
    (hx : r.get? x = some f) (hx' : (op.apply r maxDepth).1.get? x = some f')
    (hkind : op.kind = .phaseTransition) (hfields : x ∈ op.fields) (hphase : f'.phase ≠ f.phase) :
    ∃ target, op = .phaseTransition x target ∧ Phase.ofName? target = some f'.phase := by
  obtain ⟨outcome, stored, happlies, hafter⟩ := exists_applies happlied
  cases happlies with
  | @phaseTransition name target g phase hg htarget =>
      obtain rfl : x = name := List.mem_singleton.mp hfields
      rw [hafter, Registry.commit_cons, Registry.commit_nil] at hx'
      cases hg.symm.trans hx
      have hname : x = (f.transition phase).name := by
        rw [EnergyField.name_transition, Registry.name_of_get? hx]
      rw [hname, Registry.get?_put_self] at hx'
      cases hx'
      refine ⟨target, rfl, ?_⟩
      rw [(f.phase_transition phase).resolve_left hphase, htarget]
  | _ => cases hkind

theorem partner_of_applied (happlied : (op.apply r maxDepth).2.status = .applied)
    (hx : r.get? x = some f) (hx' : (op.apply r maxDepth).1.get? x = some f')
    (hkind : op.kind = .entangle) : f'.partner = (op.partnerOf? x).or f.partner := by
  obtain ⟨outcome, stored, happlies, hafter⟩ := exists_applies happlied
  cases happlies with
  | @entangle a b g h _ _ hg hh =>
      have hleft : (g.entangle h).1.name = a := hg ▸ r.name_resolve a _
      have hright : (g.entangle h).2.name = b := hh ▸ r.name_resolve b _
      have hleft' : (g.entangle h).1.partner = some b := congrArg some hright
      have hright' : (g.entangle h).2.partner = some a := congrArg some hleft
      rw [hafter, Registry.commit_cons, Registry.commit_cons, Registry.commit_nil,
        Registry.get?_put, Registry.get?_put, hleft, hright, hx] at hx'
      -- the second field is stored last, so it is the one that a field entangled with itself has
      by_cases hb : x = b
      · rw [if_pos hb] at hx'
        cases hx'
        by_cases hab : x = a
        · rw [hright', partnerOf?, if_pos hab, ← hb, ← hab, Option.some_or]
        · rw [hright', partnerOf?, if_neg hab, if_pos hb, Option.some_or]
      · rw [if_neg hb] at hx'
        by_cases ha : x = a
        · rw [if_pos ha] at hx'
          cases hx'
          rw [hleft', partnerOf?, if_pos ha, Option.some_or]
        · rw [if_neg ha] at hx'
          cases hx'
          rw [partnerOf?, if_neg ha, if_neg hb, Option.none_or]
  | _ => cases hkind

/-- What one applied operation does to a field that it does not replace. -/
theorem exists_changesOnly (happlied : (op.apply r maxDepth).2.status = .applied)
    (hx : r.get? x = some f) (hkept : ¬ op.Replaces x) :
    ∃ f', (op.apply r maxDepth).1.get? x = some f' ∧ op.ChangesOnly x f f' := by
  obtain ⟨f', hx', hevolves, hother⟩ := exists_evolves_apply maxDepth hx hkept
  have hnamed {β : Type} (attr : EnergyField α → β) (hne : attr f' ≠ attr f) : x ∈ op.fields :=
    by_contra fun hfields => hne (congrArg attr (hother hfields))
  refine ⟨f', hx', ?_⟩
  constructor
  case name => exact hevolves.name
  case position => exact hevolves.position
  case fractalDepth => exact hevolves.fractalDepth
  case gradient =>
    intro hne
    exact ⟨by_contra fun hkind => hne (hevolves.gradient hkind), hnamed _ hne⟩
  case frequency =>
    intro hne
    exact ⟨by_contra fun hkind => hne (hevolves.frequency hkind), hnamed _ hne⟩
  case capacity =>
    intro hne
    exact ⟨by_contra fun hkind => hne (hevolves.capacity hkind), hnamed _ hne⟩
  case angle =>
    intro hne
    exact ⟨by_contra fun hkind => hne (hevolves.angle hkind), hnamed (·.energy.angle) hne⟩
  case phase =>
    intro hne
    have hkind := by_contra fun hkind => hne (hevolves.phase hkind)
    exact phase_of_applied happlied hx hx' hkind (hnamed _ hne) hne
  case partner =>
    by_cases hkind : op.kind = .entangle
    · exact partner_of_applied happlied hx hx' hkind
    · rw [partnerOf?_of_kind x hkind, Option.none_or]
      exact hevolves.partner hkind

/-! ## A run -/

theorem applyAll_append (r : Registry α) (before rest : List (Operation α)) :
    applyAll maxDepth r (before ++ rest) = applyAll maxDepth (applyAll maxDepth r before) rest :=
  List.foldl_append

theorem allApplied_append {r : Registry α} {before rest : List (Operation α)} :
    AllApplied maxDepth r (before ++ rest) ↔
      AllApplied maxDepth r before ∧ AllApplied maxDepth (applyAll maxDepth r before) rest := by
  induction before generalizing r with
  | nil => exact (iff_of_eq (true_and _)).symm
  | cons op later ih =>
      rw [List.cons_append, AllApplied, AllApplied, ih, and_assoc]
      rfl

/-- One operation again and again: what each round takes on to the next, from the start, holds
after any number of rounds. -/
theorem allApplied_replicate (Holds : ℕ → Registry α → Prop) (hstart : Holds 0 r)
    (hround : ∀ n s, Holds n s →
      (op.apply s maxDepth).2.status = .applied ∧ Holds (n + 1) (op.apply s maxDepth).1) (n : ℕ) :
    AllApplied maxDepth r (List.replicate n op) ∧
      Holds n (applyAll maxDepth r (List.replicate n op)) := by
  induction n with
  | zero => exact ⟨trivial, hstart⟩
  | succ n ih =>
      obtain ⟨hearlier, hholds⟩ := ih
      obtain ⟨happlied, hnext⟩ := hround n _ hholds
      rw [List.replicate_succ', allApplied_append, applyAll_append]
      exact ⟨⟨hearlier, happlied, trivial⟩, hnext⟩

/-- What a run keeps of a field, and the partner that it leaves. -/
theorem exists_get?_applyAll {r : Registry α} {ops : List (Operation α)} {f : EnergyField α}
    (hx : r.get? x = some f) (happlied : AllApplied maxDepth r ops)
    (hkept : ∀ op ∈ ops, ¬ op.Replaces x) :
    ∃ g, (applyAll maxDepth r ops).get? x = some g ∧ g.name = f.name ∧
      g.position = f.position ∧ g.fractalDepth = f.fractalDepth ∧
      g.partner = (latestPartner? x ops).or f.partner := by
  induction ops generalizing r f with
  | nil => exact ⟨f, hx, rfl, rfl, rfl, rfl⟩
  | cons op rest ih =>
      obtain ⟨hop, hrest⟩ := happlied
      obtain ⟨f', hx', hstep⟩ := exists_changesOnly hop hx (hkept op List.mem_cons_self)
      obtain ⟨g, hg, hname, hposition, hdepth, hpartner⟩ :=
        ih hx' hrest fun later hlater => hkept later (List.mem_cons_of_mem op hlater)
      refine ⟨g, hg, hname.trans hstep.name, hposition.trans hstep.position,
        hdepth.trans hstep.fractalDepth, ?_⟩
      rw [hpartner, hstep.partner, latestPartner?_cons_or]

end Operation

variable [Scalar α]

open Operation in
/-- In a run of applied operations that do not replace a field, each operation changes only
those attributes of the field that its kind allows.  At every moment the field has its
first name, position and depth, and the partner of the latest entanglement that names it. -/
theorem attributes_over_run {r : Registry α} {maxDepth : α} {ops : List (Operation α)}
    {x : String} {f : EnergyField α} (hx : r.get? x = some f)
    (happlied : AllApplied maxDepth r ops) (hkept : ∀ op ∈ ops, ¬ op.Replaces x) :
    (∀ before op rest, ops = before ++ op :: rest →
      ∃ g g', (applyAll maxDepth r before).get? x = some g ∧
        (applyAll maxDepth r (before ++ [op])).get? x = some g' ∧ op.ChangesOnly x g g') ∧
    ∀ before rest, ops = before ++ rest →
      ∃ g, (applyAll maxDepth r before).get? x = some g ∧ g.name = f.name ∧
        g.position = f.position ∧ g.fractalDepth = f.fractalDepth ∧
        g.partner = (latestPartner? x before).or f.partner := by
  have hmoment : ∀ before rest, ops = before ++ rest →
      ∃ g, (applyAll maxDepth r before).get? x = some g ∧ g.name = f.name ∧
        g.position = f.position ∧ g.fractalDepth = f.fractalDepth ∧
        g.partner = (latestPartner? x before).or f.partner := by
    rintro before rest rfl
    exact exists_get?_applyAll hx (allApplied_append.mp happlied).1
      fun op hop => hkept op (List.mem_append_left rest hop)
  refine ⟨?_, hmoment⟩
  rintro before op rest rfl
  obtain ⟨g, hg, _⟩ := hmoment before (op :: rest) rfl
  have hop := (allApplied_append.mp happlied).2.1
  obtain ⟨g', hg', hstep⟩ := exists_changesOnly hop hg
    (hkept op (List.mem_append_right before List.mem_cons_self))
  refine ⟨g, g', hg, ?_, hstep⟩
  rw [applyAll_append]
  exact hg'

open Operation in
/-- The field `a` goes through operations of seven kinds, as both parties of a symbiosis and
as the second party of its last entanglement, and ends with the partner `c`. -/
theorem attributes_over_run_two_entanglements :
    let r : Registry ℚ :=
      (Registry.empty.put (EnergyField.create "a" 100)).put (EnergyField.create "b" 60)
    let ops : List (Operation ℚ) :=
      [.entangle "a" "b", .network ["b", "a", "b"] "", .symbiosis "a" "a",
       .phaseTransition "a" "plasma", .entangle "c" "a", .fractalSpawn "a" 2 1,
       .creation "d" 5, .spatialFlow "a" "b"]
    AllApplied 12 r ops ∧ (∀ op ∈ ops, ¬ op.Replaces "a") ∧
      ∃ g, (applyAll 12 r ops).get? "a" = some g ∧ g.name = "a" ∧ g.partner = some "c" := by
  intro r ops
  have hx : r.get? "a" = some (EnergyField.create "a" 100) := rfl
  have happlied : AllApplied 12 r ops := by decide +kernel
  have hkept : ∀ op ∈ ops, ¬ op.Replaces "a" := by decide +kernel
  obtain ⟨g, hg, hname, _, _, hpartner⟩ :=
    (attributes_over_run hx happlied hkept).2 ops [] (List.append_nil ops).symm
  exact ⟨happlied, hkept, g, hg, hname, hpartner⟩

end FieldCalculus
