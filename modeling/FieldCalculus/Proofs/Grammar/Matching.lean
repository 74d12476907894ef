import FieldCalculus.Proofs.Grammar.Pieces
/-!
# Matching patterns

What the matcher finds, pattern by pattern.  A run that is followed by something that cannot
begin inside it is never shortened, so most patterns are matched without going back, and a rule
scans its line from the front.  Only the name of a decay has several places to end at; there the
longest one counts from which the match goes through.
-/

namespace FieldCalculus

open Text

namespace Pattern

variable {β γ : Type}

@[simp] theorem Piece.text_append (piece rest : List Char) :
    Piece.text ⟨piece ++ rest, rest⟩ = piece := by
  simp [Piece.text]

@[simp] theorem after?_nil (text : List Char) : after? [] text = some text := by
  rw [after?]

/-! ## Going on behind a match -/

theorem map_orElse (f : β → γ) (first : Option β) (second : Unit → Option β) :
    (first.orElse second).map f = (first.map f).orElse fun u => (second u).map f := by
  cases first <;> rfl

theorem map_stopRun (f : β → γ) (next : List Char → Option β) (n : Nat) (text : List Char) :
    (stopRun next n text).map f = stopRun (fun rest => (next rest).map f) n text := by
  unfold stopRun
  split <;> rfl

theorem map_findRun (f : β → γ) (accepts : Char → Bool) (next : List Char → Option β)
    (n : Nat) (text : List Char) : (findRun accepts next n text).map f =
      findRun accepts (fun rest => (next rest).map f) n text := by
  induction text generalizing n with
  | nil => exact map_stopRun f next n []
  | cons c rest ih =>
      rw [findRun, findRun]
      split
      · rw [map_orElse, ih, map_stopRun]
      · exact map_stopRun f next n _

theorem map_find (f : β → γ) (p : Pattern) (next : Captures → List Char → Option β)
    (text : List Char) : (p.find next text).map f =
      p.find (fun captures rest => (next captures rest).map f) text := by
  induction p generalizing next text with
  | literal beginning => exact Option.map_bind
  | run accepts n => exact map_findRun f accepts (next []) n text
  | maybe p ih =>
      rw [find, find, map_orElse, ih]
  | group p ih => exact ih _ text
  | seq p q ihp ihq =>
      rw [find, find, ihp]
      simp only [ihq]
  | ending =>
      rw [find, find]
      split <;> rfl

/-- Nothing is gained by giving characters of a class back: what fails behind them fails in front
of them. -/
def Decided (accepts : Char → Bool) (next : List Char → Option β) : Prop :=
  ∀ other, next other = none → ∀ c rest, accepts c = true → next (c :: rest) = none

/-- A run is not shortened if nothing is gained by that. -/
theorem findRun_eq_of_longest {accepts : Char → Bool} {next : List Char → Option β}
    (text : List Char) (n : Nat)
    (hback : next (text.dropWhile accepts) = none → ∀ front c rest,
      text = front ++ c :: rest → (∀ d ∈ front, accepts d = true) → accepts c = true →
      next (c :: rest) = none) :
    findRun accepts next n text =
      if n ≤ (text.takeWhile accepts).length then next (text.dropWhile accepts) else none := by
  induction text generalizing n with
  | nil => simp [findRun, stopRun]
  | cons c rest ih =>
      rw [findRun]
      split
      · next hc =>
        have hdrop : (c :: rest).dropWhile accepts = rest.dropWhile accepts :=
          List.dropWhile_cons_of_pos hc
        have htake : (c :: rest).takeWhile accepts = c :: rest.takeWhile accepts :=
          List.takeWhile_cons_of_pos hc
        rw [hdrop] at hback ⊢
        have hrest := ih (n - 1) fun hnone front d behind htext hfront hd =>
          hback hnone (c :: front) d behind (by rw [htext]; rfl)
            (List.forall_mem_cons.mpr ⟨hc, hfront⟩) hd
        rw [hrest, htake, List.length_cons]
        by_cases hn : n - 1 ≤ (rest.takeWhile accepts).length
        · rw [if_pos hn, if_pos (by omega)]
          cases hnext : next (rest.dropWhile accepts) with
          | some found => rfl
          | none =>
              have hhere := hback hnext [] c rest rfl nofun hc
              rw [stopRun, hhere, ite_self]
              rfl
        · rw [if_neg hn, if_neg (by omega), stopRun, if_neg (by omega)]
          rfl
      · next hc =>
        rw [List.dropWhile_cons_of_neg hc, List.takeWhile_cons_of_neg hc, stopRun]
        simp

theorem findRun_eq_of_decided {accepts : Char → Bool} {next : List Char → Option β}
    (h : Decided accepts next) (n : Nat) (text : List Char) :
    findRun accepts next n text =
      if n ≤ (text.takeWhile accepts).length then next (text.dropWhile accepts) else none :=
  findRun_eq_of_longest text n fun hnone _ c rest _ _ hc => h _ hnone c rest hc

theorem ite_takeWhile_eq_bind_run? (accepts : Char → Bool) (next : List Char → Option β)
    (text : List Char) :
    (if 1 ≤ (text.takeWhile accepts).length then next (text.dropWhile accepts) else none) =
      (Scan.run? accepts text).bind fun p => next p.2 := by
  rw [Scan.run?]
  cases text.takeWhile accepts with
  | nil => rfl
  | cons c piece => exact if_pos (Nat.le_add_left 1 piece.length)

/-- A nonempty run that is not shortened. -/
theorem findRun_one_eq_of_decided {accepts : Char → Bool} {next : List Char → Option β}
    (h : Decided accepts next) (text : List Char) :
    findRun accepts next 1 text = (Scan.run? accepts text).bind fun p => next p.2 :=
  (findRun_eq_of_decided h 1 text).trans (ite_takeWhile_eq_bind_run? accepts next text)

/-! ## Runs that may be shortened -/

/-- A run can take this piece off a text and have the rest matched behind it. -/
def Ends (accepts : Char → Bool) (next : List Char → Option β) (n : Nat) (text piece : List Char) :
    Prop :=
  (∀ c ∈ piece, accepts c = true) ∧ n ≤ piece.length ∧
    ∃ rest, text = piece ++ rest ∧ (next rest).isSome = true

section Shortened

variable {accepts : Char → Bool} {next : List Char → Option β} {n : Nat} {text piece : List Char}

theorem isSome_findRun (h : Ends accepts next n text piece) :
    (findRun accepts next n text).isSome = true := by
  obtain ⟨hpiece, hn, rest, rfl, hrest⟩ := h
  induction piece generalizing n with
  | nil =>
      obtain rfl : n = 0 := Nat.le_zero.mp hn
      cases rest with
      | nil => exact hrest
      | cons c rest =>
          rw [List.nil_append, findRun]
          split
          · cases findRun accepts next (0 - 1) rest with
            | some found => rfl
            | none => exact hrest
          · exact hrest
  | cons c piece ih =>
      obtain ⟨hc, hpiece⟩ := List.forall_mem_cons.mp hpiece
      obtain ⟨found, hfound⟩ := Option.isSome_iff_exists.mp
        (ih hpiece (n := n - 1) (Nat.sub_le_of_le_add hn))
      rw [List.cons_append, findRun, if_pos hc, hfound]
      rfl

/-- A run that takes nothing. -/
theorem longest_of_stopRun {x : β} (h : stopRun next n text = some x)
    (hother : ∀ c other, ¬ Ends accepts next n text (c :: other)) :
    ∃ piece rest, text = piece ++ rest ∧ next rest = some x ∧
      Longest (Ends accepts next n text) piece := by
  unfold stopRun at h
  split at h
  · next hn =>
    subst hn
    have hsome : (next text).isSome = true := by rw [h]; rfl
    refine ⟨[], text, rfl, h, ⟨nofun, Nat.le_refl _, text, rfl, hsome⟩, fun other hends => ?_⟩
    cases other with
    | nil => exact Nat.le_refl _
    | cons c other => exact absurd hends (hother c other)
  · cases h

theorem longest_of_findRun {x : β} (h : findRun accepts next n text = some x) :
    ∃ piece rest, text = piece ++ rest ∧ next rest = some x ∧
      Longest (Ends accepts next n text) piece := by
  induction text generalizing n with
  | nil =>
      refine longest_of_stopRun h ?_
      rintro c other ⟨_, _, rest, htext, _⟩
      cases htext
  | cons c rest ih =>
      -- what a longer piece leaves behind its first character
      have hlonger : ∀ d other, Ends accepts next n (c :: rest) (d :: other) →
          accepts c = true ∧ Ends accepts next (n - 1) rest other := by
        rintro d other ⟨hother, hn, behind, htext, hsome⟩
        obtain ⟨rfl, hrest⟩ := List.cons.inj htext
        obtain ⟨hc, hother⟩ := List.forall_mem_cons.mp hother
        exact ⟨hc, hother, Nat.sub_le_of_le_add hn, behind, hrest, hsome⟩
      rw [findRun] at h
      split at h
      · next hc =>
        cases hlater : findRun accepts next (n - 1) rest with
        | some found =>
            rw [hlater] at h
            obtain rfl : found = x := Option.some.inj h
            obtain ⟨piece, rest', rfl, hnext, ⟨⟨hpiece, hn, hends⟩, hlongest⟩⟩ := ih hlater
            have hsome : (next rest').isSome = true := by rw [hnext]; rfl
            refine ⟨c :: piece, rest', rfl, hnext, ⟨List.forall_mem_cons.mpr ⟨hc, hpiece⟩,
              Nat.le_add_of_sub_le hn, rest', rfl, hsome⟩, fun other hother => ?_⟩
            cases other with
            | nil => exact Nat.zero_le _
            | cons d other => exact Nat.succ_le_succ (hlongest other (hlonger d other hother).2)
        | none =>
            rw [hlater] at h
            refine longest_of_stopRun h fun d other hother => ?_
            have hfound := isSome_findRun (hlonger d other hother).2
            rw [hlater] at hfound
            cases hfound
      · next hc => exact longest_of_stopRun h fun d other hother => hc (hlonger d other hother).1

/-- A run ends at the last place behind which the match goes through. -/
theorem findRun_eq_some_iff {x : β} :
    findRun accepts next n text = some x ↔
      ∃ piece rest, text = piece ++ rest ∧ next rest = some x ∧
        Longest (Ends accepts next n text) piece := by
  constructor
  · exact longest_of_findRun
  · rintro ⟨piece, rest, htext, hnext, hlongest⟩
    obtain ⟨y, hy⟩ := Option.isSome_iff_exists.mp (isSome_findRun hlongest.1)
    obtain ⟨piece', rest', htext', hnext', hlongest'⟩ := longest_of_findRun hy
    have hlength : piece.length = piece'.length :=
      Nat.le_antisymm (hlongest'.2 _ hlongest.1) (hlongest.2 _ hlongest'.1)
    obtain ⟨_, rfl⟩ := List.append_inj (htext.symm.trans htext') hlength
    rw [hy, ← hnext', hnext]

end Shortened

/-! ## Pieces that are found without going back -/

theorem find_append (next : Captures → List Char → Option β) (p q : Pattern) (text : List Char) :
    (p ++ q).find next text =
      p.find (fun first => q.find fun second => next (first ++ second)) text :=
  rfl

theorem find_literal (next : Captures → List Char → Option β) (beginning : String)
    (text : List Char) : (literal beginning).find next text =
      (Scan.literal? beginning text).bind (next []) :=
  rfl

section Pieces

/-- Only texts that begin with this character are matched. -/
def Awaits (stop : Char) (next : List Char → Option β) : Prop :=
  ∀ text x, next text = some x → ∃ rest, text = stop :: rest

theorem awaits_literal {stop : Char} {close : String} {more : List Char}
    (h : close.toList = stop :: more) (next : List Char → Captures → List Char → Option β) :
    Awaits stop fun text => (literal close).find (next text) text := by
  intro text x hx
  obtain ⟨rest, hrest, _⟩ := Option.bind_eq_some_iff.mp hx
  rw [h] at hrest
  exact ⟨more ++ rest, Scan.after?_eq_some_iff.mp hrest⟩

theorem find_literal_cons {stop : Char} {close : String} {more : List Char}
    (h : close.toList = stop :: more) (next : Captures → List Char → Option β)
    (rest : List Char) :
    (literal close).find next (stop :: rest) = (after? more rest).bind (next []) := by
  rw [find, h]
  simp [after?]

theorem Awaits.decided {stop : Char} {next : List Char → Option β} (h : Awaits stop next)
    {accepts : Char → Bool} (hstop : accepts stop = false) : Decided accepts next := by
  intro _ _ c rest hc
  cases hnext : next (c :: rest) with
  | none => rfl
  | some x =>
      obtain ⟨rest', hrest⟩ := h _ x hnext
      rw [(List.cons.inj hrest).1, hstop] at hc
      cases hc

theorem Awaits.nil {stop : Char} {next : List Char → Option β} (h : Awaits stop next) :
    next [] = none := by
  cases hnext : next [] with
  | none => rfl
  | some x =>
      obtain ⟨rest, hrest⟩ := h [] x hnext
      cases hrest

theorem decided_of_isSome {next : List Char → Option β} (h : ∀ rest, (next rest).isSome = true)
    (accepts : Char → Bool) : Decided accepts next := by
  intro other hother
  have hsome := h other
  rw [hother] at hsome
  cases hsome

variable {next : Captures → List Char → Option β} {text : List Char}

theorem find_group_run {accepts : Char → Bool}
    (h : Decided accepts fun rest => next [some ⟨text, rest⟩] rest) :
    (group (run accepts 1)).find next text =
      (Scan.run? accepts text).bind fun p => next [some ⟨text, p.2⟩] p.2 :=
  findRun_one_eq_of_decided h text

theorem bind_run?_eq_bind_upTo? {stop : Char} (behind : List Char → Option β)
    (h : behind [] = none) :
    ((Scan.run? (· ≠ stop) text).bind fun p => behind p.2) =
      (Scan.upTo? stop text).bind fun p => behind (stop :: p.2) := by
  unfold Scan.run? Scan.upTo?
  cases htake : text.takeWhile (· ≠ stop) with
  | nil => rfl
  | cons c piece =>
      generalize hdrop : text.dropWhile (· ≠ stop) = rest
      obtain ⟨_, _, hrest⟩ := cut_at_iff.mp ⟨htake, hdrop⟩
      cases rest with
      | nil => exact h
      | cons d rest =>
          obtain rfl : d = stop := hrest d rfl
          rfl

theorem find_blanks (h : Decided isBlank (next [])) :
    blanks.find next text = next [] (Scan.blanks text) :=
  (findRun_eq_of_decided h 0 text).trans (if_pos (Nat.zero_le _))

theorem decided_findRun {accepts digit : Char → Bool} (h : ∀ c, accepts c = true → digit c = false)
    (behind : List Char → List Char → Option β) :
    Decided accepts fun rest => findRun digit (behind rest) 1 rest := by
  intro _ _ c rest hc
  change findRun digit (behind (c :: rest)) 1 (c :: rest) = none
  rw [findRun, h c hc]
  rfl

theorem blanks_cons_of_not_blank {c : Char} (hc : isBlank c = false) (rest : List Char) :
    Scan.blanks (c :: rest) = c :: rest := by
  rw [Scan.blanks, List.dropWhile_cons_of_neg (by simp [hc])]

/-! ### Operands, with blanks beside them -/

/-- What follows a captured piece depends on the name that the piece gives and on nothing else
of it. -/
def NamesOnly (next : Captures → List Char → Option β) : Prop :=
  ∀ piece piece' rest, nameOf piece.text = nameOf piece'.text →
    next [some piece] rest = next [some piece'] rest

section Operands

variable {stop : Char} {close : String} {more : List Char}

theorem find_operand_of_opening (hclose : close.toList = stop :: more)
    (next : Captures → Captures → List Char → Option β) (text : List Char) :
    (operand stop).find (fun first => (literal close).find (next first)) text =
      (Scan.upTo? stop text).bind fun p =>
        (after? more p.2).bind (next [some ⟨text, stop :: p.2⟩] []) := by
  have hclass : (fun c => decide (c ≠ stop)) stop = false := by simp
  have hawaits : Awaits stop fun rest => (literal close).find (next [some ⟨text, rest⟩]) rest :=
    awaits_literal hclose fun rest => next [some ⟨text, rest⟩]
  refine (find_group_run (hawaits.decided hclass)).trans ?_
  refine (bind_run?_eq_bind_upTo?
    (fun rest => (literal close).find (next [some ⟨text, rest⟩]) rest) hawaits.nil).trans ?_
  simp only [find_literal_cons hclose]

theorem find_operand (hclose : close.toList = [stop])
    (next : Captures → Captures → List Char → Option β) (text : List Char) :
    (operand stop).find (fun first => (literal close).find (next first)) text =
      (Scan.upTo? stop text).bind fun p => next [some ⟨text, stop :: p.2⟩] [] p.2 := by
  rw [find_operand_of_opening hclose]
  simp only [after?_nil, Option.bind_some]

/-- A blank in front of an operand makes the captured piece longer and keeps its name. -/
theorem upTo?_cons_of_blank {c : Char} {rest piece behind : List Char} (hc : isBlank c = true)
    (hstop : isBlank stop = false) (h : Scan.upTo? stop rest = some (piece, behind)) :
    Scan.upTo? stop (c :: rest) = some (c :: piece, behind) ∧
      nameOf (Piece.text ⟨rest, stop :: behind⟩) =
        nameOf (Piece.text ⟨c :: rest, stop :: behind⟩) := by
  obtain ⟨rfl, hne, hmem⟩ := Scan.upTo?_eq_some_iff.mp h
  constructor
  · refine Scan.upTo?_eq_some_iff.mpr ⟨rfl, by simp, ?_⟩
    rintro (_ | ⟨_, hmem'⟩)
    · rw [hc] at hstop
      cases hstop
    · exact hmem hmem'
  · rw [← List.cons_append, Piece.text_append, Piece.text_append, nameOf_cons hc]

/-- Blanks between a piece and the sign that ends an operand do not hide the sign, and the piece
has the name of the operand. -/
theorem dropWhile_eq_of_blanks {front rest more : List Char} (hfront : stop ∉ front)
    (hstop : isBlank stop = false) (h : Scan.blanks rest = stop :: more) :
    (front ++ rest).dropWhile (· ≠ stop) = stop :: more ∧
      nameOf (Piece.text ⟨front ++ rest, rest⟩) =
        nameOf (Piece.text ⟨front ++ rest, stop :: more⟩) := by
  obtain ⟨w, rfl, hblank, _⟩ := Scan.blanks_eq_iff.mp h
  have hfree : stop ∉ front ++ w := by
    intro hmem
    rcases List.mem_append.mp hmem with hmem | hmem
    · exact hfront hmem
    · rw [hblank stop hmem] at hstop
      cases hstop
  constructor
  · refine (cut_at_iff.mpr ⟨(List.append_assoc ..).symm, hfree, ?_⟩).2
    rintro d ⟨⟩
    rfl
  · have hgives := (gives_nameOf front).append (List.forall_mem_nil _) hblank
    rw [Piece.text_append, ← List.append_assoc, Piece.text_append]
    exact (gives_iff.mp hgives).symm

/-- Blanks in front of an operand do not count, whether the blanks or the operand take them. -/
theorem find_blanks_operand (hclose : close.toList = [stop]) (hstop : isBlank stop = false)
    (next : Captures → Captures → Captures → List Char → Option β)
    (hnames : NamesOnly fun captures => next [] captures []) (text : List Char) :
    blanks.find (fun first => (operand stop).find fun second =>
        (literal close).find (next first second)) text =
      (Scan.upTo? stop text).bind fun p => next [] [some ⟨text, stop :: p.2⟩] [] p.2 := by
  change findRun isBlank
    ((operand stop).find fun second => (literal close).find (next [] second)) 0 text = _
  induction text with
  | nil => exact find_operand hclose (next []) []
  | cons c rest ih =>
      rw [findRun]
      split
      · next hc =>
        rw [Nat.zero_sub, ih, stopRun, if_pos rfl, find_operand hclose (next [])]
        cases hrest : Scan.upTo? stop rest with
        | none => rfl
        | some found =>
            obtain ⟨piece, behind⟩ := found
            obtain ⟨hcons, hsame⟩ := upTo?_cons_of_blank hc hstop hrest
            have hlonger : next [] [some ⟨rest, stop :: behind⟩] [] behind =
                next [] [some ⟨c :: rest, stop :: behind⟩] [] behind := hnames _ _ behind hsame
            simp only [hcons, Option.bind_some]
            rw [hlonger]
            cases next [] [some ⟨c :: rest, stop :: behind⟩] [] behind <;> rfl
      · exact find_operand hclose (next []) (c :: rest)

/-- Blanks behind an operand belong to it: giving them back changes nothing but the ends of the
captured piece. -/
theorem find_operand_blanks (hclose : close.toList = [stop]) (hstop : isBlank stop = false)
    (next : Captures → Captures → Captures → List Char → Option β)
    (hnames : NamesOnly fun captures => next captures [] []) (text : List Char) :
    (operand stop).find (fun first => blanks.find fun second =>
        (literal close).find (next first second)) text =
      (Scan.upTo? stop text).bind fun p => next [some ⟨text, stop :: p.2⟩] [] [] p.2 := by
  let behind (rest : List Char) : Option β :=
    (literal close).find (next [some ⟨text, rest⟩] []) (Scan.blanks rest)
  have hfind : (operand stop).find (fun first => blanks.find fun second =>
      (literal close).find (next first second)) text = findRun (· ≠ stop) behind 1 text := by
    have hblanks : ∀ rest, blanks.find (fun second =>
        (literal close).find (next [some ⟨text, rest⟩] second)) rest = behind rest := fun rest =>
      find_blanks ((awaits_literal hclose fun _ => next _ _).decided hstop)
    change findRun _ (fun rest => blanks.find _ rest) 1 text = _
    simp only [hblanks]
  have hsign : ∀ rest, behind (stop :: rest) = next [some ⟨text, stop :: rest⟩] [] [] rest := by
    intro rest
    change (literal close).find _ (Scan.blanks (stop :: rest)) = _
    rw [blanks_cons_of_not_blank hstop, find_literal_cons hclose, after?_nil, Option.bind_some]
  rw [hfind, findRun_eq_of_longest, ite_takeWhile_eq_bind_run?]
  · rw [bind_run?_eq_bind_upTo? behind (awaits_literal hclose fun _ => next _ _).nil]
    simp only [hsign]
  · intro hnone front c rest htext hfront hc
    cases hshorter : behind (c :: rest) with
    | none => rfl
    | some x =>
        -- only blanks stand between a shorter piece and the sign, so the longest piece goes through
        obtain ⟨more, hmore⟩ := awaits_literal hclose (fun _ => next _ _) _ x hshorter
        have hfree : stop ∉ front := fun hmem => by simpa using hfront stop hmem
        obtain ⟨hdrop, hsame⟩ := dropWhile_eq_of_blanks hfree hstop hmore
        rw [← htext] at hdrop hsame
        have hlonger : behind (c :: rest) = behind (stop :: more) := by
          change (literal close).find _ (Scan.blanks (c :: rest)) = _
          rw [hmore, hsign, find_literal_cons hclose, after?_nil, Option.bind_some]
          exact hnames _ _ more hsame
        rw [← hdrop, hnone] at hlonger
        exact hshorter.symm.trans hlonger

end Operands

/-! ### Parts that may be missing, and numbers -/

theorem find_maybe_literal {c : Char} {beginning : String} (hbeginning : beginning.toList = [c])
    (h : ∀ rest, next [] (c :: rest) = none) :
    (maybe (literal beginning)).find next text = next [] (Scan.optional c text) := by
  rw [find, find, hbeginning]
  cases text with
  | nil => rfl
  | cons d rest =>
      by_cases hd : c = d
      · subst hd
        simp [after?, Scan.optional, h, groups]
      · simp [after?, Scan.optional, hd, Ne.symm hd, groups]

theorem find_group_digits
    (h : Decided Char.isDigit fun rest => next [some ⟨text, rest⟩] rest) :
    (group digits).find next text =
      (Numeral.whole? text).bind fun p => next [some ⟨text, p.2⟩] p.2 := by
  rw [Numeral.whole?, Option.bind_map]
  exact find_group_run h

theorem find_group_decimal
    (h : Decided (fun c => c.isDigit || c = '.') fun rest => next [some ⟨text, rest⟩] rest) :
    (group decimal).find next text =
      (Numeral.decimal? text).bind fun p => next [some ⟨text, p.2⟩] p.2 := by
  generalize hbehind : (fun rest => next [some ⟨text, rest⟩] rest) = behind at h
  have hnext : ∀ rest, next [some ⟨text, rest⟩] rest = behind rest := congrFun hbehind
  -- behind the digits: a fraction if there is one, else what follows
  let point (rest : List Char) : Option β :=
    ((after? ['.'] rest).bind (findRun Char.isDigit behind 1)).orElse fun _ => behind rest
  have hfind : (group decimal).find next text = findRun Char.isDigit point 1 text := by
    subst hbehind
    rfl
  have hwithout : ∀ d rest, '.' ≠ d → point (d :: rest) = behind (d :: rest) := by
    intro d rest hd
    change (((after? ['.'] (d :: rest)).bind _).orElse _) = _
    rw [after?, if_neg hd]
    rfl
  have hdigit : Decided Char.isDigit behind := fun other hother c rest hc =>
    h other hother c rest (by simp [hc])
  have hpoint : Decided Char.isDigit point := by
    intro other hother c rest hc
    have hother' : behind other = none := by
      change Option.orElse _ _ = none at hother
      cases hfraction : (after? ['.'] other).bind (findRun Char.isDigit behind 1) with
      | none => rwa [hfraction] at hother
      | some x =>
          rw [hfraction] at hother
          cases hother
    have hne : '.' ≠ c := by
      rintro rfl
      cases hc
    rw [hwithout c rest hne]
    exact hdigit other hother' c rest hc
  have hdigits : ∀ rest, Scan.run? Char.isDigit rest = Numeral.digitRun? rest := fun _ => rfl
  rw [hfind, findRun_one_eq_of_decided hpoint, hdigits, Numeral.decimal?]
  simp only [hnext]
  cases Numeral.digitRun? text with
  | none => rfl
  | some found =>
      obtain ⟨whole, rest⟩ := found
      change point rest = _
      dsimp only
      split
      · next afterPoint =>
        change ((findRun Char.isDigit behind 1 afterPoint).orElse fun _ =>
          behind ('.' :: afterPoint)) = _
        rw [findRun_one_eq_of_decided hdigit, hdigits]
        cases Numeral.digitRun? afterPoint with
        | none => rfl
        | some found =>
            obtain ⟨fraction, rest'⟩ := found
            change ((behind rest').orElse fun _ => behind ('.' :: afterPoint)) = behind rest'
            cases hrest : behind rest' with
            | none => exact h _ hrest '.' afterPoint rfl
            | some x => rfl
      · next hother =>
        cases rest with
        | nil => rfl
        | cons d rest => exact hwithout d rest fun hd => hother rest (by rw [hd])

/-! ### What a captured piece gives -/

theorem text_of_upTo? {stop : Char} {piece rest : List Char}
    (h : Scan.upTo? stop text = some (piece, rest)) : Piece.text ⟨text, stop :: rest⟩ = piece := by
  obtain ⟨rfl, _⟩ := Scan.upTo?_eq_some_iff.mp h
  exact Piece.text_append piece (stop :: rest)

theorem text_of_run? {accepts : Char → Bool} {piece rest : List Char}
    (h : Scan.run? accepts text = some (piece, rest)) : Piece.text ⟨text, rest⟩ = piece := by
  obtain ⟨rfl, _⟩ := run_cut_iff.mp h
  exact Piece.text_append piece rest

theorem spells_of_decimal? {n : Numeral} {rest : List Char}
    (h : Numeral.decimal? text = some (n, rest)) : n.Spells (Piece.text ⟨text, rest⟩) := by
  obtain ⟨piece, rfl, hn, _⟩ := Numeral.decimal?_eq_some_iff.mp h
  rwa [Piece.text_append]

theorem spells_of_whole? {n : Numeral} {rest : List Char}
    (h : Numeral.whole? text = some (n, rest)) : n.Spells (Piece.text ⟨text, rest⟩) := by
  obtain ⟨⟨piece, _⟩, hrun, ⟨⟩⟩ := Option.map_eq_some_iff.mp h
  obtain ⟨rfl, hdigits, _⟩ := Numeral.digitRun?_eq_some_iff.mp hrun
  rw [Piece.text_append]
  exact .of_run hdigits

end Pieces

end Pattern

end FieldCalculus
