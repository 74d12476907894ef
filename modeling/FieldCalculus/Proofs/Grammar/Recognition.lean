import FieldCalculus.Proofs.Grammar.Matching
import FieldCalculus.Proofs.Text.Words
/-!
# What each rule recognises

The pattern of a rule finds the pieces that scanning the line from the front finds.  So a rule
answers as the chain of its scanners does.
-/

namespace FieldCalculus

open Pattern Text

namespace Rule

variable {α : Type}

theorem recognize_of_build {rule : Rule α} {make : Match → Operation α}
    (h : ∀ m, rule.build m = some (make m)) (text : List Char) :
    rule.recognize text = rule.pattern.find
      (fun captures _ => some (make (captures.map (Option.map Piece.text)))) text := by
  have hmap := map_find make rule.pattern
    (fun captures _ => some (captures.map (Option.map Piece.text))) text
  rw [recognize, funext h]
  exact (Option.map_eq_bind ..).symm.trans hmap

theorem comma : ",".toList = [','] := rfl

theorem openBracket : "(".toList = ['('] := rfl

theorem closeBracket : ")".toList = [')'] := rfl

@[simp] theorem name_cons_zero (piece : List Char) (m : Match) :
    Match.name (some piece :: m) 0 = nameOf piece :=
  rfl

@[simp] theorem name_cons_one (piece : Option (List Char)) (m : Match) :
    Match.name (piece :: m) 1 = Match.name m 0 :=
  rfl

/-! ## Two operands -/

/-- Two operands give the names that scanning finds. -/
theorem make_names (make : String → String → Operation α) {separator : Char} {text : List Char}
    {p q : List Char × List Char} (hp : Scan.upTo? separator text = some p)
    (hq : Scan.upTo? ')' p.2 = some q) :
    make (nameOf (Piece.text ⟨text, separator :: p.2⟩))
      (nameOf (Piece.text ⟨p.2, ')' :: q.2⟩)) = make (nameOf p.1) (nameOf q.1) := by
  rw [text_of_upTo? hp, text_of_upTo? hq]

theorem recognize_pair (id beginning : String) (make : String → String → Operation α)
    (text : List Char) : (pair id beginning make).recognize text =
      (Scan.pair? beginning ',' text).map fun (a, b) => make a b := by
  rw [recognize_of_build fun _ => rfl]
  refine (Option.bind_congr fun rest _ => ?_).trans Option.map_bind.symm
  refine (find_operand comma _ rest).trans ?_
  refine (Option.bind_congr fun p hp => ?_).trans Option.map_bind.symm
  refine (find_blanks_operand closeBracket (by decide) _ ?_ p.2).trans ?_
  · intro piece piece' _ h
    exact congrArg (fun name => some (make _ name)) h
  · refine (Option.bind_congr fun q hq => ?_).trans Option.map_bind.symm
    exact congrArg some (make_names make hp hq)

theorem recognize_resonance (text : List Char) : (resonance : Rule α).recognize text =
    (Scan.pair? "~(" '≈' text).map fun (a, b) => .resonance a b := by
  have hsign : "≈".toList = ['≈'] := rfl
  rw [recognize_of_build fun _ => rfl]
  refine (Option.bind_congr fun rest _ => ?_).trans Option.map_bind.symm
  refine (find_operand_blanks hsign (by decide) _ ?_ rest).trans ?_
  · intro piece piece' rest' h
    simp only [List.nil_append, List.append_nil, List.cons_append, List.map_cons, Option.map_some,
      name_cons_zero, name_cons_one, h]
  · refine (Option.bind_congr fun p hp => ?_).trans Option.map_bind.symm
    refine (find_blanks_operand closeBracket (by decide) _ ?_ p.2).trans ?_
    · intro piece piece' _ h
      exact congrArg (fun name => some (Operation.resonance _ name)) h
    · refine (Option.bind_congr fun q hq => ?_).trans Option.map_bind.symm
      exact congrArg some (make_names .resonance hp hq)

theorem recognize_symbiosis (text : List Char) : (symbiosis : Rule α).recognize text =
    (Scan.pair? "∇∇(" '⇄' text).map fun (a, b) => .symbiosis a b := by
  have hsign : "⇄".toList = ['⇄'] := rfl
  rw [recognize_of_build fun _ => rfl]
  refine (Option.bind_congr fun rest _ => ?_).trans Option.map_bind.symm
  refine (find_operand hsign _ rest).trans ?_
  refine (Option.bind_congr fun p hp => ?_).trans Option.map_bind.symm
  refine (find_operand closeBracket _ p.2).trans ?_
  refine (Option.bind_congr fun q hq => ?_).trans Option.map_bind.symm
  exact congrArg some (make_names .symbiosis hp hq)

/-! ## Numbers -/

section Blanks

variable {β : Type}

theorem decided_digits (next : Captures → List Char → Option β) :
    Decided isBlank ((group digits).find next) :=
  decided_findRun (fun _ => Numeral.isDigit_of_isBlank) fun text rest =>
    next [some ⟨text, rest⟩] rest

theorem decided_decimal (next : Captures → List Char → Option β) :
    Decided isBlank ((group decimal).find next) :=
  decided_findRun (fun _ => Numeral.isDigit_of_isBlank) fun text =>
    (maybe (literal "." ++ digits)).find fun _ rest => next [some ⟨text, rest⟩] rest

end Blanks

variable [OfScientific α]

theorem recognize_fractal (text : List Char) :
    (fractal : Rule α).recognize text = Scan.fractal? text := by
  rw [recognize_of_build fun _ => rfl]
  refine Option.bind_congr fun rest _ => ?_
  refine (find_group_digits ((awaits_literal openBracket _).decided rfl)).trans ?_
  refine Option.bind_congr fun iterations hiterations => ?_
  refine Option.bind_congr fun args _ => ?_
  refine (find_operand comma _ args).trans ?_
  refine Option.bind_congr fun field hfield => ?_
  refine (find_blanks ?_).trans ?_
  · exact decided_digits _
  refine (find_group_digits ((awaits_literal closeBracket _).decided rfl)).trans ?_
  refine Option.bind_congr fun depth hdepth => ?_
  refine Option.bind_congr fun _ _ => ?_
  change some (Operation.fractalSpawn (nameOf (Piece.text ⟨args, ',' :: field.2⟩))
    (Numeral.ofText (trimmed (Piece.text ⟨rest, iterations.2⟩))).value
    (Numeral.ofText (trimmed (Piece.text ⟨Scan.blanks field.2, depth.2⟩))).value) = _
  rw [text_of_upTo? hfield, Numeral.ofText_trimmed_of_spells (spells_of_whole? hiterations),
    Numeral.ofText_trimmed_of_spells (spells_of_whole? hdepth)]
  rfl

theorem recognize_regenerate (text : List Char) :
    (regenerate : Rule α).recognize text = Scan.regenerate? text := by
  rw [recognize_of_build fun _ => rfl]
  refine Option.bind_congr fun rest _ => ?_
  refine (find_operand comma _ rest).trans ?_
  refine Option.bind_congr fun field hfield => ?_
  refine (find_blanks ?_).trans ?_
  · exact decided_decimal _
  refine (find_group_decimal ((awaits_literal closeBracket _).decided rfl)).trans ?_
  refine Option.bind_congr fun energy henergy => ?_
  refine Option.bind_congr fun _ _ => ?_
  change some (Operation.regenerate (nameOf (Piece.text ⟨rest, ',' :: field.2⟩))
    (Numeral.ofText (trimmed (Piece.text ⟨Scan.blanks field.2, energy.2⟩))).value) = _
  rw [text_of_upTo? hfield, Numeral.ofText_trimmed_of_spells (spells_of_decimal? henergy)]
  rfl

theorem decided_wordChar {β : Type}
    (next : List Char → Captures → Captures → List Char → Option β) :
    Decided isWordChar fun rest =>
      blanks.find (fun first => (literal "=").find (next rest first)) rest := by
  have hsign : "=".toList = ['='] := rfl
  intro _ _ c rest hc
  have hblank : isBlank c = false := by
    cases hblank : isBlank c with
    | false => rfl
    | true =>
        rw [isWordChar_of_isBlank hblank] at hc
        cases hc
  have hne : c ≠ '=' := by
    rintro rfl
    exact absurd hc (by decide +kernel)
  change blanks.find _ (c :: rest) = none
  rw [find_blanks ((awaits_literal hsign fun _ => next _ _).decided (by decide)),
    blanks_cons_of_not_blank hblank]
  cases hfound : (literal "=").find (next (c :: rest) []) (c :: rest) with
  | none => rfl
  | some x =>
      obtain ⟨_, hrest⟩ := awaits_literal hsign (fun _ => next _ _) _ x hfound
      exact absurd (List.cons.inj hrest).1 hne

theorem recognize_creation (text : List Char) :
    (creation : Rule α).recognize text = Scan.creation? text := by
  have hsign : "=".toList = ['='] := rfl
  rw [recognize_of_build fun _ => rfl]
  simp only [creation, find_append]
  refine (find_group_run (decided_wordChar _)).trans ?_
  refine Option.bind_congr fun field hfield => ?_
  refine (find_blanks ((awaits_literal hsign _).decided (by decide))).trans ?_
  refine Option.bind_congr fun rest _ => ?_
  refine (find_blanks ?_).trans ?_
  · exact decided_decimal _
  refine (find_group_decimal ?_).trans ?_
  · exact decided_of_isSome (fun _ => rfl) _
  refine Option.bind_congr fun energy henergy => ?_
  change some (Operation.creation (nameOf (Piece.text ⟨text, field.2⟩))
    (Numeral.ofText (trimmed (Piece.text ⟨Scan.blanks rest, energy.2⟩))).value) = _
  rw [text_of_run? hfield, Numeral.ofText_trimmed_of_spells (spells_of_decimal? henergy)]
  rfl

/-! ## Lists and constraints -/

theorem find_constrained {β : Type} (f : Match → β) (text : List Char) :
    constrained.find (fun captures _ => some (f (captures.map (Option.map Piece.text)))) text =
      (Scan.constrained? text).map fun p => f [some p.1, some p.2.toList] := by
  change (maybe (literal "F")).find _ text = _
  refine (find_maybe_literal rfl (fun _ => rfl)).trans ?_
  refine (Option.bind_congr fun rest _ => ?_).trans Option.map_bind.symm
  refine (find_operand_of_opening rfl _ rest).trans ?_
  refine (Option.bind_congr fun body hbody => ?_).trans Option.map_bind.symm
  refine (Option.bind_congr fun behind _ => ?_).trans Option.map_bind.symm
  refine (find_group_run (decided_of_isSome (fun _ => rfl) _)).trans ?_
  change _ = Option.map _ (((Scan.run? (!isLineEnd ·) behind).map Prod.fst).bind fun piece =>
    some (body.1, String.ofList piece))
  rw [Option.bind_map, Option.map_bind]
  refine Option.bind_congr fun line hline => ?_
  change some (f [some (Piece.text ⟨rest, ')' :: body.2⟩), some (Piece.text ⟨behind, line.2⟩)]) = _
  rw [text_of_upTo? hbody, text_of_run? hline]
  simp

omit [OfScientific α] in
theorem recognize_network (text : List Char) :
    (network : Rule α).recognize text = Scan.network? text := by
  rw [recognize_of_build fun _ => rfl]
  refine Option.bind_congr fun rest _ => ?_
  refine (find_constrained (fun m => Operation.network (splitNames '↔' (trimmed (m.text 0)))
    (String.ofList (m.text 1))) rest).trans ?_
  refine Option.map_eq_bind.trans (Option.bind_congr fun found _ => ?_)
  change some (Operation.network _ (String.ofList found.2.toList)) = _
  rw [String.ofList_toList]
  rfl

omit [OfScientific α] in
theorem recognize_interaction (text : List Char) :
    (interaction : Rule α).recognize text = Scan.interaction? text := by
  have hsign : "²".toList = ['²'] := rfl
  refine (Option.bind_assoc _ _ _).trans (Option.bind_congr fun rest _ => ?_)
  have hfind : (maybe (literal "²")).find (fun first => constrained.find fun second _ =>
      some ((first ++ second).map (Option.map Piece.text))) rest =
        (Scan.constrained? (Scan.optional '²' rest)).map fun p => [some p.1, some p.2.toList] := by
    rw [find_maybe_literal hsign fun _ => rfl]
    exact find_constrained (fun m => m) _
  refine (congrArg (Option.bind · interaction.build) hfind).trans ?_
  rw [Option.bind_map]
  refine Option.bind_congr fun found _ => ?_
  change (if '↔' ∈ found.1 then some (Operation.interaction _ (String.ofList found.2.toList))
    else if '→' ∈ found.1 then
      some (Operation.unidirectionalFlow _ (String.ofList found.2.toList)) else none) = _
  rw [String.ofList_toList]
  rfl

/-! ## A rate that may be missing -/

theorem find_rate (args rest : List Char) :
    (literal "," ++ blanks ++ group decimal).find (fun second => (literal ")").find fun third _ =>
      (decay.build ((some ⟨args, rest⟩ :: second ++ third).map (Option.map Piece.text)) :
        Option (Operation α))) rest =
      (Scan.rate? rest).map fun rate =>
        .decay (nameOf (Piece.text ⟨args, rest⟩)) rate.value := by
  refine (Option.bind_congr fun behind _ => ?_).trans Option.map_bind.symm
  refine (find_blanks ?_).trans ?_
  · exact decided_decimal _
  refine (find_group_decimal ((awaits_literal closeBracket _).decided rfl)).trans ?_
  refine (Option.bind_congr fun rate hrate => ?_).trans Option.map_bind.symm
  refine (Option.bind_congr fun _ _ => ?_).trans Option.map_bind.symm
  change some (Operation.decay _
    (Numeral.ofText (Piece.text ⟨Scan.blanks behind, rate.2⟩)).value) = _
  rw [Numeral.ofText_of_spells (spells_of_decimal? hrate)]
  rfl

/-- What the pattern of a decay finds behind the name. -/
theorem find_decayEnd (args rest : List Char) :
    (maybe (literal "," ++ blanks ++ group decimal)).find (fun second =>
      (literal ")").find fun third _ => (decay.build
        ((some ⟨args, rest⟩ :: second ++ third).map (Option.map Piece.text)) :
          Option (Operation α))) rest =
      (Scan.decayEnd? rest).map fun rate =>
        .decay (nameOf (Piece.text ⟨args, rest⟩)) (rate.elim defaultRate Numeral.value) := by
  rw [find, find_rate, Scan.decayEnd?]
  cases Scan.rate? rest with
  | some rate => rfl
  | none =>
      rw [Option.map_none, Option.orElse, find_literal]
      rw [Option.map_map]
      exact Option.map_eq_bind.symm

theorem recognize_decay (text : List Char) : (decay : Rule α).recognize text =
    (Scan.literal? "∂decay(" text).bind fun args =>
      findRun (· ≠ ',') (fun rest => (Scan.decayEnd? rest).map fun rate =>
        .decay (nameOf (Piece.text ⟨args, rest⟩)) (rate.elim defaultRate Numeral.value))
          1 args := by
  rw [recognize_of_build fun _ => rfl]
  refine Option.bind_congr fun args _ => ?_
  exact congrArg (findRun _ · 1 args) (funext fun rest => find_decayEnd args rest)

/-- The name of a decay is the longest one behind which the decay can end. -/
theorem recognize_decay_eq_some_iff {text : List Char} {op : Operation α} :
    decay.recognize text = some op ↔
      ∃ a z rate, text = "∂decay(".toList ++ a ++ z ∧ Scan.decayEnd? z = some rate ∧
        Longest (fun b => b ≠ [] ∧ ',' ∉ b ∧
          ∃ y, a ++ z = b ++ y ∧ (Scan.decayEnd? y).isSome = true) a ∧
        op = .decay (nameOf a) (rate.elim defaultRate Numeral.value) := by
  have hends : ∀ args, Ends (· ≠ ',') (fun rest => (Scan.decayEnd? rest).map fun rate =>
      (Operation.decay (nameOf (Piece.text ⟨args, rest⟩))
        (rate.elim defaultRate Numeral.value) : Operation α)) 1 args =
      fun b => b ≠ [] ∧ ',' ∉ b ∧ ∃ y, args = b ++ y ∧ (Scan.decayEnd? y).isSome = true := by
    intro args
    funext b
    have hcomma : (∀ c ∈ b, decide (c ≠ ',') = true) ↔ ',' ∉ b := by
      simp only [decide_eq_true_eq]
      exact ⟨fun h hmem => h _ hmem rfl, fun h c hc hc' => h (hc' ▸ hc)⟩
    simp only [Ends, hcomma, Option.isSome_map, Nat.one_le_iff_ne_zero, ne_eq,
      List.length_eq_zero_iff, and_left_comm]
  simp only [recognize_decay, Option.bind_eq_some_iff, Scan.literal?_eq_some_iff,
    findRun_eq_some_iff, Option.map_eq_some_iff, hends]
  constructor
  · rintro ⟨_, rfl, a, z, rfl, ⟨rate, hrate, rfl⟩, hlongest⟩
    exact ⟨a, z, rate, (List.append_assoc _ _ _).symm, hrate, hlongest, by rw [Piece.text_append]⟩
  · rintro ⟨a, z, rate, rfl, hrate, hlongest, rfl⟩
    exact ⟨a ++ z, List.append_assoc _ _ _, a, z, rfl, ⟨rate, hrate, by rw [Piece.text_append]⟩,
      hlongest⟩

end Rule

end FieldCalculus
