import Mathlib.Data.List.Induction
import Mathlib.Tactic.Ring
import FieldCalculus.Proofs.Grammar.Scan
import FieldCalculus.Proofs.Text.Cuts
/-!
# The pieces of a line

Each piece that a rule scans is described by what it looks like in the text: runs of
characters of one class, numerals, optional characters, and brackets.  Where a piece could
end at several places, the longest one is read.
-/

namespace FieldCalculus

open Text

/-! ## Names -/

/-- The name that a piece of text gives.  Blanks may stand around it, and none stand at its
ends. -/
def Gives (piece : List Char) (name : String) : Prop :=
  ∃ before behind, piece = before ++ name.toList ++ behind ∧
    (∀ c ∈ before, isBlank c = true) ∧ (∀ c ∈ behind, isBlank c = true) ∧
    (∀ c ∈ name.toList.head?, isBlank c = false) ∧ ∀ c ∈ name.toList.getLast?, isBlank c = false

/-- The names that a list gives between the occurrences of an operator. -/
inductive Lists (operator : Char) : List Char → List String → Prop
  | last {piece : List Char} {name : String} : operator ∉ piece → Gives piece name →
      Lists operator piece [name]
  | next {piece rest : List Char} {name : String} {names : List String} : operator ∉ piece →
      Gives piece name → Lists operator rest names →
      Lists operator (piece ++ operator :: rest) (name :: names)

theorem gives_iff {piece : List Char} {name : String} : Gives piece name ↔ nameOf piece = name := by
  rw [Gives, ← trimmed_eq_iff, nameOf, ← String.toList_inj, String.toList_ofList]

theorem gives_nameOf (piece : List Char) : Gives piece (nameOf piece) :=
  gives_iff.mpr rfl

theorem Gives.append {piece before behind : List Char} {name : String} (h : Gives piece name)
    (hbefore : ∀ c ∈ before, isBlank c = true) (hbehind : ∀ c ∈ behind, isBlank c = true) :
    Gives (before ++ piece ++ behind) name := by
  obtain ⟨front, back, rfl, hfront, hback, hends⟩ := h
  refine ⟨before ++ front, back ++ behind, by simp, ?_, ?_, hends⟩
  · exact fun c hc => (List.mem_append.mp hc).elim (hbefore c) (hfront c)
  · exact fun c hc => (List.mem_append.mp hc).elim (hback c) (hbehind c)

theorem nameOf_cons {c : Char} (hc : isBlank c = true) (piece : List Char) :
    nameOf (c :: piece) = nameOf piece := by
  have hpiece := (gives_nameOf piece).append (List.forall_mem_singleton.mpr hc)
    (List.forall_mem_nil _)
  simpa using gives_iff.mp hpiece

theorem splitNames_of_not_mem {operator : Char} {piece : List Char} (h : operator ∉ piece) :
    splitNames operator piece = [nameOf piece] := by
  rw [splitNames, parts, List.splitOn_eq_singleton h, List.map_singleton]

theorem splitNames_append_cons {operator : Char} {piece : List Char} (h : operator ∉ piece)
    (rest : List Char) : splitNames operator (piece ++ operator :: rest) =
      nameOf piece :: splitNames operator rest := by
  rw [splitNames, parts, List.splitOn_append_cons_self_of_not_mem h, List.map_cons]
  rfl

theorem lists_splitNames (operator : Char) (list : List Char) :
    Lists operator list (splitNames operator list) := by
  induction hlength : list.length using Nat.strong_induction_on generalizing list with
  | _ n ih =>
      by_cases hmem : operator ∈ list
      · obtain ⟨piece, rest, rfl, hpiece⟩ := List.eq_append_cons_of_mem hmem
        rw [splitNames_append_cons hpiece]
        refine .next hpiece (gives_nameOf piece) (ih rest.length ?_ rest rfl)
        rw [← hlength, List.length_append, List.length_cons]
        omega
      · rw [splitNames_of_not_mem hmem]
        exact .last hmem (gives_nameOf list)

theorem lists_iff {operator : Char} {list : List Char} {names : List String} :
    Lists operator list names ↔ splitNames operator list = names := by
  constructor
  · intro h
    induction h with
    | last hpiece hname => rw [splitNames_of_not_mem hpiece, gives_iff.mp hname]
    | next hpiece hname _ ih => rw [splitNames_append_cons hpiece, gives_iff.mp hname, ih]
  · rintro rfl
    exact lists_splitNames operator list

/-- Blanks around a list do not count. -/
theorem Lists.append {operator : Char} {list before behind : List Char} {names : List String}
    (h : Lists operator list names) (hoperator : isBlank operator = false)
    (hbefore : ∀ c ∈ before, isBlank c = true) (hbehind : ∀ c ∈ behind, isBlank c = true) :
    Lists operator (before ++ list ++ behind) names := by
  have hnot : ∀ blanks : List Char, (∀ c ∈ blanks, isBlank c = true) → operator ∉ blanks := by
    intro blanks hblanks hmem
    rw [hblanks operator hmem] at hoperator
    cases hoperator
  induction h generalizing before with
  | last hpiece hname =>
      refine .last ?_ (hname.append hbefore hbehind)
      simp [hnot before hbefore, hnot behind hbehind, hpiece]
  | @next piece rest name names hpiece hname _ ih =>
      have hfront : Gives (before ++ piece) name := by
        simpa using hname.append hbefore (List.forall_mem_nil _)
      have hrest : Lists operator (rest ++ behind) names := ih (List.forall_mem_nil _)
      have hshape : before ++ (piece ++ operator :: rest) ++ behind =
          before ++ piece ++ operator :: (rest ++ behind) := by
        simp
      rw [hshape]
      refine .next ?_ hfront hrest
      simp [hnot before hbefore, hpiece]

theorem splitNames_trimmed {operator : Char} (hoperator : isBlank operator = false)
    (list : List Char) : splitNames operator (trimmed list) = splitNames operator list := by
  obtain ⟨before, behind, hlist, hbefore, hbehind, _⟩ :=
    trimmed_eq_iff.mp (rfl : trimmed list = _)
  have hnames := (lists_splitNames operator (trimmed list)).append hoperator hbefore hbehind
  rw [← hlist] at hnames
  exact (lists_iff.mp hnames).symm

namespace Numeral

/-! ## Numbers -/

/-- How a number is written in decimal digits, the least one last. -/
inductive Writes : List Char → Nat → Prop
  | digit {c : Char} : c.isDigit = true → Writes [c] (digitValue c)
  | next {digits : List Char} {n : Nat} {c : Char} : Writes digits n → c.isDigit = true →
      Writes (digits ++ [c]) (10 * n + digitValue c)

/-- How a numeral is written: digits, with a point and more digits behind them or without. -/
inductive Spells : List Char → Numeral → Prop
  | whole {digits : List Char} {n : Nat} : Writes digits n → Spells digits ⟨n, 0⟩
  | point {digits fraction : List Char} {n m : Nat} : Writes digits n → Writes fraction m →
      Spells (digits ++ '.' :: fraction) ⟨n * 10 ^ fraction.length + m, fraction.length⟩

theorem ofDigits_concat (digits : List Char) (c : Char) :
    ofDigits (digits ++ [c]) = 10 * ofDigits digits + digitValue c := by
  simp [ofDigits, List.foldl_append]

theorem ofDigits_append (digits more : List Char) :
    ofDigits (digits ++ more) = ofDigits digits * 10 ^ more.length + ofDigits more := by
  induction more using List.reverseRecOn with
  | nil => simp [ofDigits]
  | append_singleton more c ih =>
      rw [← List.append_assoc, ofDigits_concat, ofDigits_concat, ih, List.length_append,
        List.length_singleton, pow_succ]
      ring

theorem writes_iff {digits : List Char} {n : Nat} :
    Writes digits n ↔ Run Char.isDigit digits ∧ n = ofDigits digits := by
  constructor
  · intro h
    induction h with
    | @digit c hc => exact ⟨⟨by simp, by simpa using hc⟩, by simp [ofDigits]⟩
    | @next digits n c _ hc ih =>
        obtain ⟨⟨_, hdigits⟩, rfl⟩ := ih
        refine ⟨⟨by simp, fun d hd => ?_⟩, (ofDigits_concat digits c).symm⟩
        rcases List.mem_append.mp hd with hd | hd
        · exact hdigits d hd
        · rwa [List.mem_singleton.mp hd]
  · rintro ⟨⟨hne, hdigits⟩, rfl⟩
    induction digits using List.reverseRecOn with
    | nil => exact absurd rfl hne
    | append_singleton digits c ih =>
        have hc : c.isDigit = true := hdigits c (by simp)
        by_cases hnil : digits = []
        · subst hnil
          simpa [ofDigits] using Writes.digit hc
        · rw [ofDigits_concat]
          exact .next (ih hnil fun d hd => hdigits d (List.mem_append_left _ hd)) hc

theorem Writes.run {digits : List Char} {n : Nat} (h : Writes digits n) :
    Run Char.isDigit digits :=
  (writes_iff.mp h).1

theorem writes_ofDigits {digits : List Char} (h : Run Char.isDigit digits) :
    Writes digits (ofDigits digits) :=
  writes_iff.mpr ⟨h, rfl⟩

theorem spells_iff {piece : List Char} {n : Numeral} :
    Spells piece n ↔
      (Run Char.isDigit piece ∧ n = ⟨ofDigits piece, 0⟩) ∨
        ∃ digits fraction, piece = digits ++ '.' :: fraction ∧ Run Char.isDigit digits ∧
          Run Char.isDigit fraction ∧ n = ⟨ofDigits (digits ++ fraction), fraction.length⟩ := by
  constructor
  · rintro (hdigits | ⟨hdigits, hfraction⟩)
    · obtain ⟨hrun, rfl⟩ := writes_iff.mp hdigits
      exact Or.inl ⟨hrun, rfl⟩
    · obtain ⟨hrun, rfl⟩ := writes_iff.mp hdigits
      obtain ⟨hrun', rfl⟩ := writes_iff.mp hfraction
      exact Or.inr ⟨_, _, rfl, hrun, hrun', by rw [ofDigits_append]⟩
  · rintro (⟨hrun, rfl⟩ | ⟨digits, fraction, rfl, hrun, hrun', rfl⟩)
    · exact .whole (writes_ofDigits hrun)
    · rw [ofDigits_append]
      exact .point (writes_ofDigits hrun) (writes_ofDigits hrun')

theorem Spells.of_run {digits : List Char} (h : Run Char.isDigit digits) :
    Spells digits ⟨ofDigits digits, 0⟩ :=
  .whole (writes_ofDigits h)

theorem Spells.of_runs {digits fraction : List Char} (hdigits : Run Char.isDigit digits)
    (hfraction : Run Char.isDigit fraction) :
    Spells (digits ++ '.' :: fraction) ⟨ofDigits (digits ++ fraction), fraction.length⟩ :=
  spells_iff.mpr (Or.inr ⟨digits, fraction, rfl, hdigits, hfraction, rfl⟩)

theorem Spells.head_isDigit {piece rest : List Char} {n : Numeral} (h : Spells piece n) :
    ∀ c ∈ (piece ++ rest).head?, c.isDigit = true := by
  rcases spells_iff.mp h with ⟨hdigits, _⟩ | ⟨digits, _, rfl, hdigits, _, _⟩
  all_goals
    obtain ⟨c, more, rfl⟩ := List.exists_cons_of_ne_nil hdigits.1
    rintro d ⟨⟩
    exact hdigits.2 c List.mem_cons_self

/-- A numeral is written with digits and points. -/
theorem Spells.isDigit_or_point {piece : List Char} {n : Numeral} (h : Spells piece n) {c : Char}
    (hc : c ∈ piece) : c.isDigit = true ∨ c = '.' := by
  rcases spells_iff.mp h with ⟨hdigits, _⟩ | ⟨digits, fraction, rfl, hdigits, hfraction, _⟩
  · exact Or.inl (hdigits.2 c hc)
  · rcases List.mem_append.mp hc with hc | hc
    · exact Or.inl (hdigits.2 c hc)
    · exact (List.mem_cons.mp hc).symm.imp_left (hfraction.2 c)

theorem Spells.not_mem_bracket {piece : List Char} {n : Numeral} (h : Spells piece n) :
    ')' ∉ piece := fun hmem =>
  (h.isDigit_or_point hmem).elim (absurd · (by decide)) (absurd · (by decide))

theorem isBlank_of_isDigit {c : Char} (h : c.isDigit = true) : isBlank c = false := by
  have hrange : 48 ≤ c.toNat ∧ c.toNat ≤ 57 := by
    simpa [Char.isDigit, UInt32.le_iff_toNat_le] using h
  simp [isBlank]
  omega

theorem isDigit_of_isBlank {c : Char} (h : isBlank c = true) : c.isDigit = false := by
  cases hdigit : c.isDigit with
  | false => rfl
  | true =>
      rw [isBlank_of_isDigit hdigit] at h
      cases h

theorem Spells.trimmed_eq {piece : List Char} {n : Numeral} (h : Spells piece n) :
    trimmed piece = piece := by
  refine trimmed_of_not_blank fun c hc => ?_
  rcases h.isDigit_or_point hc with hdigit | rfl
  · exact isBlank_of_isDigit hdigit
  · rfl

theorem ofText_of_spells {piece : List Char} {n : Numeral} (h : Spells piece n) :
    ofText piece = n := by
  rcases spells_iff.mp h with ⟨hdigits, rfl⟩ | ⟨digits, fraction, rfl, hdigits, hfraction, rfl⟩
  · obtain ⟨htake, hdrop⟩ := cut_iff.mpr ⟨(List.append_nil piece).symm, hdigits.2, nofun⟩
    rw [ofText, htake, hdrop]
  · have hpoint : ∀ c ∈ ('.' :: fraction).head?, c.isDigit = false := by
      rintro c ⟨⟩
      rfl
    obtain ⟨htake, hdrop⟩ := cut_iff.mpr ⟨rfl, hdigits.2, hpoint⟩
    have hfraction' : fraction.takeWhile Char.isDigit = fraction :=
      (cut_iff.mpr ⟨(List.append_nil fraction).symm, hfraction.2, nofun⟩).1
    rw [ofText, htake, hdrop]
    simp only [hfraction']

theorem ofText_trimmed_of_spells {piece : List Char} {n : Numeral} (h : Spells piece n) :
    ofText (trimmed piece) = n := by
  rw [h.trimmed_eq, ofText_of_spells h]

theorem Spells.unique {piece : List Char} {n m : Numeral} (hn : Spells piece n)
    (hm : Spells piece m) : n = m :=
  (ofText_of_spells hn).symm.trans (ofText_of_spells hm)

theorem digitRun?_eq_some_iff {text digits rest : List Char} :
    digitRun? text = some (digits, rest) ↔
      text = digits ++ rest ∧ Run Char.isDigit digits ∧ ∀ c ∈ rest.head?, c.isDigit = false :=
  run_cut_iff

theorem isSome_digitRun? {text digits : List Char} (hdigits : Run Char.isDigit digits)
    (hstart : digits <+: text) : (digitRun? text).isSome = true := by
  have hinside := hdigits.prefix_takeWhile hstart
  unfold digitRun?
  split
  · next hnil =>
    rw [hnil, List.prefix_nil] at hinside
    exact absurd hinside hdigits.1
  · rfl

/-- A numeral with a point, read against the digits that a text begins with. -/
theorem eq_of_point_prefix {digits rest digits' fraction : List Char}
    (hdigits : Run Char.isDigit digits) (hrest : ∀ c ∈ rest.head?, c.isDigit = false)
    (hdigits' : Run Char.isDigit digits') (h : digits' ++ '.' :: fraction <+: digits ++ rest) :
    digits' = digits ∧ ∃ after, rest = '.' :: after ∧ fraction <+: after := by
  obtain ⟨tail, htail⟩ := h
  rw [List.append_assoc, List.cons_append] at htail
  obtain ⟨htake, hdrop⟩ := cut_iff.mpr ⟨rfl, hdigits.2, hrest⟩
  have hpoint : ∀ c ∈ ('.' :: (fraction ++ tail)).head?, c.isDigit = false := by
    rintro c ⟨⟩
    rfl
  obtain ⟨htake', hdrop'⟩ := cut_iff.mpr ⟨htail.symm, hdigits'.2, hpoint⟩
  exact ⟨htake'.symm.trans htake, fraction ++ tail, hdrop.symm.trans hdrop',
    List.prefix_append _ _⟩

theorem longest_of_decimal? {text rest : List Char} {n : Numeral}
    (h : decimal? text = some (n, rest)) :
    ∃ piece, text = piece ++ rest ∧ Spells piece n ∧
      Longest (fun p => p <+: text ∧ ∃ m, Spells p m) piece := by
  unfold decimal? at h
  split at h
  · cases h
  next digits after hrun =>
  obtain ⟨rfl, hdigits, hstop⟩ := digitRun?_eq_some_iff.mp hrun
  have htake : (digits ++ after).takeWhile Char.isDigit = digits :=
    (cut_iff.mpr ⟨rfl, hdigits.2, hstop⟩).1
  -- without a point that digits follow, the digits are all there is to read
  have hwhole : (∀ behind fraction, after = '.' :: behind → fraction <+: behind →
      ¬ Run Char.isDigit fraction) →
      Longest (fun p => p <+: digits ++ after ∧ ∃ m, Spells p m) digits := by
    intro hnone
    refine ⟨⟨List.prefix_append _ _, _, .of_run hdigits⟩, ?_⟩
    rintro other ⟨hstart, m, hm⟩
    rcases spells_iff.mp hm with ⟨hother, _⟩ | ⟨_, _, rfl, hother, hfraction, _⟩
    · exact (htake ▸ hother.prefix_takeWhile hstart).length_le
    · obtain ⟨_, behind, hbehind, hin⟩ := eq_of_point_prefix hdigits hstop hother hstart
      exact absurd hfraction (hnone behind _ hbehind hin)
  split at h
  · next behind hrun' =>
    split at h
    · next fraction rest' hfraction =>
      cases h
      obtain ⟨rfl, hrun', hstop'⟩ := digitRun?_eq_some_iff.mp hfraction
      refine ⟨digits ++ '.' :: fraction, by simp, .of_runs hdigits hrun', ?_⟩
      refine ⟨⟨⟨rest, by simp⟩, _, .of_runs hdigits hrun'⟩, ?_⟩
      rintro other ⟨hstart, m, hm⟩
      rcases spells_iff.mp hm with ⟨hother, _⟩ | ⟨_, _, rfl, hother, hfraction', _⟩
      · have hle := (htake ▸ hother.prefix_takeWhile hstart).length_le
        rw [List.length_append]
        omega
      · obtain ⟨rfl, behind, hbehind, hin⟩ := eq_of_point_prefix hdigits hstop hother hstart
        cases hbehind
        have hle := (hfraction'.prefix_takeWhile hin).length_le
        rw [(cut_iff.mpr ⟨rfl, hrun'.2, hstop'⟩).1] at hle
        simpa using hle
    · next hfraction =>
      cases h
      refine ⟨digits, rfl, .of_run hdigits, hwhole ?_⟩
      rintro _ fraction ⟨⟩ hin hfraction'
      have hsome := isSome_digitRun? hfraction' hin
      rw [hfraction] at hsome
      cases hsome
  · next hpoint =>
    cases h
    refine ⟨digits, rfl, .of_run hdigits, hwhole ?_⟩
    rintro behind _ hbehind
    exact absurd hbehind (hpoint behind)

theorem isSome_decimal? {text piece : List Char} {n : Numeral} (h : Spells piece n)
    (hstart : piece <+: text) : (decimal? text).isSome = true := by
  have hrun : (digitRun? text).isSome = true := by
    rcases spells_iff.mp h with ⟨hdigits, _⟩ | ⟨_, _, rfl, hdigits, _, _⟩
    · exact isSome_digitRun? hdigits hstart
    · exact isSome_digitRun? hdigits ((List.prefix_append _ _).trans hstart)
  obtain ⟨⟨digits, rest⟩, hsome⟩ := Option.isSome_iff_exists.mp hrun
  unfold decimal?
  rw [hsome]
  dsimp only
  split
  · split <;> rfl
  · rfl

/-- The longest numeral that a text begins with is read. -/
theorem decimal?_eq_some_iff {text rest : List Char} {n : Numeral} :
    decimal? text = some (n, rest) ↔
      ∃ piece, text = piece ++ rest ∧ Spells piece n ∧
        Longest (fun p => p <+: text ∧ ∃ m, Spells p m) piece := by
  constructor
  · exact longest_of_decimal?
  · rintro ⟨piece, htext, hn, hlongest⟩
    have hsome := isSome_decimal? hn hlongest.1.1
    obtain ⟨⟨m, rest'⟩, hread⟩ := Option.isSome_iff_exists.mp hsome
    obtain ⟨piece', htext', hm, hlongest'⟩ := longest_of_decimal? hread
    have hlength : piece.length = piece'.length :=
      Nat.le_antisymm (hlongest'.2 _ hlongest.1) (hlongest.2 _ hlongest'.1)
    obtain ⟨rfl, rfl⟩ := List.append_inj (htext.symm.trans htext') hlength
    rw [hread, hn.unique hm]

end Numeral

namespace Scan

theorem blanks_eq_iff {text rest : List Char} :
    blanks text = rest ↔
      ∃ w, text = w ++ rest ∧ (∀ c ∈ w, isBlank c = true) ∧
        ∀ c ∈ rest.head?, isBlank c = false := by
  constructor
  · rintro rfl
    exact ⟨text.takeWhile isBlank, cut_iff.mp ⟨rfl, rfl⟩⟩
  · rintro ⟨w, hcut⟩
    exact (cut_iff.mpr hcut).2

/-- A numeral in front of a closing bracket is read to its end, whatever blanks stand
before it. -/
theorem decimal?_blanks_eq_some_iff {text rest : List Char} {n : Numeral} :
    Numeral.decimal? (blanks text) = some (n, ')' :: rest) ↔
      ∃ w piece, text = w ++ piece ++ ')' :: rest ∧ (∀ c ∈ w, isBlank c = true) ∧
        Numeral.Spells piece n := by
  constructor
  · intro h
    obtain ⟨piece, hpiece, hn, _⟩ := Numeral.decimal?_eq_some_iff.mp h
    obtain ⟨w, htext, hw, _⟩ := blanks_eq_iff.mp hpiece
    exact ⟨w, piece, by rw [htext, List.append_assoc], hw, hn⟩
  · rintro ⟨w, piece, rfl, hw, hn⟩
    have hblanks : blanks (w ++ piece ++ ')' :: rest) = piece ++ ')' :: rest := by
      refine blanks_eq_iff.mpr ⟨w, List.append_assoc _ _ _, hw, fun c hc => ?_⟩
      exact Numeral.isBlank_of_isDigit (hn.head_isDigit c hc)
    rw [hblanks, Numeral.decimal?_eq_some_iff]
    refine ⟨piece, rfl, hn, ⟨List.prefix_append _ _, n, hn⟩, ?_⟩
    rintro other ⟨⟨tail, htail⟩, m, hm⟩
    -- a longer numeral would run over the bracket
    rcases List.append_eq_append_iff.mp htail with ⟨middle, hmiddle, _⟩ | ⟨middle, hmiddle, hrest⟩
    · rw [hmiddle, List.length_append]
      omega
    · cases middle with
      | nil => exact Nat.le_of_eq (congrArg List.length (hmiddle.trans (List.append_nil piece)))
      | cons c more =>
          cases hrest
          have hmem : ')' ∈ other := hmiddle ▸ List.mem_append_right _ List.mem_cons_self
          exact absurd hmem hm.not_mem_bracket

theorem whole?_eq_some_iff {text rest : List Char} {n : Numeral} {c : Char}
    (hc : c.isDigit = false) :
    Numeral.whole? text = some (n, c :: rest) ↔
      ∃ digits m, text = digits ++ c :: rest ∧ Numeral.Writes digits m ∧ n = ⟨m, 0⟩ := by
  have hstop : ∀ d ∈ (c :: rest).head?, d.isDigit = false := by
    rintro d ⟨⟩
    exact hc
  rw [Numeral.whole?, Option.map_eq_some_iff]
  constructor
  · rintro ⟨⟨digits, _⟩, hrun, ⟨⟩⟩
    obtain ⟨htext, hdigits, _⟩ := Numeral.digitRun?_eq_some_iff.mp hrun
    exact ⟨digits, _, htext, Numeral.writes_ofDigits hdigits, rfl⟩
  · rintro ⟨digits, m, rfl, hwrites, rfl⟩
    obtain ⟨hdigits, rfl⟩ := Numeral.writes_iff.mp hwrites
    exact ⟨(digits, c :: rest), Numeral.digitRun?_eq_some_iff.mpr ⟨rfl, hdigits, hstop⟩, rfl⟩

theorem whole?_blanks_eq_some_iff {text rest : List Char} {n : Numeral} :
    Numeral.whole? (blanks text) = some (n, ')' :: rest) ↔
      ∃ w digits m, text = w ++ digits ++ ')' :: rest ∧ (∀ c ∈ w, isBlank c = true) ∧
        Numeral.Writes digits m ∧ n = ⟨m, 0⟩ := by
  rw [whole?_eq_some_iff (by decide)]
  constructor
  · rintro ⟨digits, m, hblanks, hdigits, rfl⟩
    obtain ⟨w, rfl, hw, _⟩ := blanks_eq_iff.mp hblanks
    exact ⟨w, digits, m, (List.append_assoc _ _ _).symm, hw, hdigits, rfl⟩
  · rintro ⟨w, digits, m, rfl, hw, hdigits, rfl⟩
    refine ⟨digits, m, ?_, hdigits, rfl⟩
    refine blanks_eq_iff.mpr ⟨w, List.append_assoc _ _ _, hw, fun c hc => ?_⟩
    exact Numeral.isBlank_of_isDigit ((Numeral.Spells.whole hdigits).head_isDigit c hc)

theorem optional_iff {c : Char} {text : List Char} {P : List Char → Prop}
    (hP : ∀ rest, ¬ P (c :: rest)) :
    P (optional c text) ↔ ∃ f rest, (f = [] ∨ f = [c]) ∧ text = f ++ rest ∧ P rest := by
  constructor
  · intro h
    cases text with
    | nil => exact ⟨[], [], Or.inl rfl, rfl, h⟩
    | cons d more =>
        rw [optional] at h
        split at h
        · next hd => exact ⟨[c], more, Or.inr rfl, hd ▸ rfl, h⟩
        · exact ⟨[], d :: more, Or.inl rfl, rfl, h⟩
  · rintro ⟨_, more, rfl | rfl, htext, hmore⟩
    · rw [htext, List.nil_append]
      cases more with
      | nil => exact hmore
      | cons d rest =>
          rw [optional, if_neg]
          · exact hmore
          · rintro rfl
            exact hP rest hmore
    · rw [htext, List.cons_append, List.nil_append, optional, if_pos rfl]
      exact hmore

theorem lineRun?_eq_some_iff {text piece : List Char} :
    lineRun? text = some piece ↔ Longest (fun p => Run (!isLineEnd ·) p ∧ p <+: text) piece := by
  rw [longest_run_iff, lineRun?, run?]
  cases text.takeWhile (!isLineEnd ·) with
  | nil => simp [eq_comm]
  | cons c more =>
      simp only [Option.map_some, Option.some.injEq]
      exact ⟨fun h => ⟨h, h ▸ List.cons_ne_nil c more⟩, And.left⟩

/-- The form `F(body)|c`, in which the `F` may be missing and the constraints `c` reach to the
end of their line. -/
def Constrained (text body c : List Char) : Prop :=
  ∃ f rest, (f = [] ∨ f = ['F']) ∧ text = f ++ '(' :: (body ++ ')' :: '|' :: rest) ∧
    body ≠ [] ∧ ')' ∉ body ∧ Longest (fun p => Run (!isLineEnd ·) p ∧ p <+: rest) c

theorem constrained?_eq_some_iff {text body : List Char} {constraints : String} :
    constrained? text = some (body, constraints) ↔
      ∃ c, Constrained text body c ∧ constraints = String.ofList c := by
  have hopen : ∀ rest, literal? "(" (optional 'F' text) = some rest ↔
      ∃ f, (f = [] ∨ f = ['F']) ∧ text = f ++ '(' :: rest := by
    intro rest
    rw [optional_iff (P := (literal? "(" · = some rest)) (by simp [literal?_eq_some_iff])]
    simp [literal?_eq_some_iff]
  simp only [constrained?, Option.bind_eq_bind, Option.bind_eq_some_iff, hopen, Prod.exists,
    upTo?_eq_some_iff, literal?_eq_some_iff, lineRun?_eq_some_iff, Option.pure_def,
    Option.some.injEq, Prod.mk.injEq]
  constructor
  · rintro ⟨_, ⟨f, hf, rfl⟩, body, _, ⟨rfl, hne, hmem⟩, rest, rfl, c, hc, rfl, rfl⟩
    exact ⟨c, ⟨f, rest, hf, rfl, hne, hmem, hc⟩, rfl⟩
  · rintro ⟨c, ⟨f, rest, hf, rfl, hne, hmem, hc⟩, rfl⟩
    exact ⟨_, ⟨f, hf, rfl⟩, body, _, ⟨rfl, hne, hmem⟩, rest, rfl, c, hc, rfl, rfl⟩

theorem word?_eq_some_iff {text piece rest : List Char} :
    word? text = some (piece, rest) ↔
      text = piece ++ rest ∧ Run isWordChar piece ∧ ∀ c ∈ rest.head?, isWordChar c = false :=
  run_cut_iff

end Scan

end FieldCalculus
