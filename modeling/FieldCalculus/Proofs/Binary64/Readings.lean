import Mathlib.Tactic.IntervalCases
import FieldCalculus.Number.Numeric
import FieldCalculus.Proofs.Grammar.Pieces
/-!
# What a text is read as

A grammar of numeric texts: decimals with a sign, a point and an exponent, infinity, and whole
numbers in three other bases.  Main statement: a text is read as the number whose notation it
is, and as undefined if it is no notation at all.
-/

namespace FieldCalculus.Numeric

open Numeral Text

/-- A sign, or none, and whether it makes a number negative. -/
inductive Sign : List Char → Bool → Prop
  | none : Sign [] false
  | plus : Sign ['+'] false
  | minus : Sign ['-'] true

/-- Digits with a point among them or without: the number that all of them write together, and
how many of them stand behind the point. -/
inductive Mantissa : List Char → Nat → Nat → Prop
  | whole {digits : List Char} {n : Nat} : Writes digits n → Mantissa digits n 0
  | point {digits fraction : List Char} {n : Nat} : Writes (digits ++ fraction) n →
      Mantissa (digits ++ '.' :: fraction) n fraction.length

/-- A power of ten, or none. -/
inductive Exponent : List Char → Int → Prop
  | none : Exponent [] 0
  | given {c : Char} {s digits : List Char} {negative : Bool} {n : Nat} : c = 'e' ∨ c = 'E' →
      Sign s negative → Writes digits n →
      Exponent (c :: (s ++ digits)) (if negative then -(n : Int) else n)

/-- The letters that announce a base behind a zero. -/
def Announces (c : Char) (base : Nat) : Prop :=
  (c, base) ∈ [('x', 16), ('X', 16), ('o', 8), ('O', 8), ('b', 2), ('B', 2)]

/-- The digits of bases up to sixteen. -/
def Digit (c : Char) (d : Nat) : Prop :=
  "0123456789abcdef".toList[d]? = some c ∨ "0123456789ABCDEF".toList[d]? = some c

/-- How a number is written in a base, the least digit last. -/
inductive WritesIn (base : Nat) : List Char → Nat → Prop
  | digit {c : Char} {d : Nat} : Digit c d → d < base → WritesIn base [c] d
  | next {digits : List Char} {n d : Nat} {c : Char} : WritesIn base digits n → Digit c d →
      d < base → WritesIn base (digits ++ [c]) (base * n + d)

/-- The notations of a number. -/
inductive Reads : List Char → Float → Prop
  | blank : Reads [] 0.0
  | based {c : Char} {base n : Nat} {digits : List Char} : Announces c base →
      WritesIn base digits n → Reads ('0' :: c :: digits) (Float.ofNat n)
  | infinity {s : List Char} {negative : Bool} : Sign s negative →
      Reads (s ++ "Infinity".toList) (if negative then -(1.0 / 0.0) else 1.0 / 0.0)
  | decimal {s m e : List Char} {negative : Bool} {n places : Nat} {exponent : Int} :
      Sign s negative → Mantissa m n places → Exponent e exponent →
      Reads (s ++ m ++ e) (scaled negative n (exponent - places))

/-! ## Signs and exponents -/

theorem exists_sign (text : List Char) :
    ∃ s, Sign s (sign text).1 ∧ text = s ++ (sign text).2 := by
  unfold sign
  split
  · exact ⟨['-'], .minus, rfl⟩
  · exact ⟨['+'], .plus, rfl⟩
  · exact ⟨[], .none, rfl⟩

theorem sign_append {s body : List Char} {negative : Bool} (hs : Sign s negative)
    (hbody : ∀ c ∈ body.head?, c ≠ '-' ∧ c ≠ '+') : sign (s ++ body) = (negative, body) := by
  cases hs with
  | plus | minus => rfl
  | none =>
      rw [List.nil_append]
      unfold sign
      split
      · exact absurd rfl (hbody '-' rfl).1
      · exact absurd rfl (hbody '+' rfl).2
      · rfl

theorem exponent?_eq_some_iff {text : List Char} {k : Int} :
    exponent? text = some k ↔ Exponent text k := by
  constructor
  · intro h
    unfold exponent? at h
    split at h
    · cases h
      exact .none
    · next c rest =>
      obtain ⟨s, hs, hrest⟩ := exists_sign rest
      generalize sign rest = signed at h hs hrest
      obtain ⟨negative, digits⟩ := signed
      split at h
      · next hc =>
        dsimp only at h
        split at h
        · next run hread =>
          cases h
          obtain ⟨hdigits, hrun, _⟩ := digitRun?_eq_some_iff.mp hread
          dsimp only at hrest
          rw [hrest, hdigits, List.append_nil]
          exact .given hc hs (writes_ofDigits hrun)
        · cases h
      · cases h
  · intro h
    cases h with
    | none => rfl
    | @given c s digits negative n hc hs hn =>
        obtain ⟨hrun, rfl⟩ := writes_iff.mp hn
        have hhead : ∀ c ∈ digits.head?, c ≠ '-' ∧ c ≠ '+' := by
          intro c hc
          have hdigit := hrun.2 c (List.mem_of_mem_head? hc)
          constructor
          · rintro rfl
            cases hdigit
          · rintro rfl
            cases hdigit
        have hread : digitRun? digits = some (digits, []) :=
          digitRun?_eq_some_iff.mpr ⟨(List.append_nil digits).symm, hrun, nofun⟩
        rw [exponent?, if_pos hc, sign_append hs hhead]
        simp only [hread]

/-! ## Decimals -/

section

variable {whole fraction rest : List Char}

theorem decimal?_point (hwhole : ∀ c ∈ whole, c.isDigit = true)
    (hfraction : ∀ c ∈ fraction, c.isDigit = true) (hrest : ∀ c ∈ rest.head?, c.isDigit = false) :
    decimal? (whole ++ '.' :: (fraction ++ rest)) =
      if whole.isEmpty && fraction.isEmpty then none
      else (exponent? rest).map fun e =>
        (ofDigits (whole ++ fraction), e - (fraction.length : Int)) := by
  have hpoint : ∀ c ∈ ('.' :: (fraction ++ rest)).head?, c.isDigit = false := by
    rintro c ⟨⟩
    rfl
  obtain ⟨htake, hdrop⟩ := cut_iff.mpr ⟨rfl, hwhole, hpoint⟩
  obtain ⟨htake', hdrop'⟩ := cut_iff.mpr ⟨rfl, hfraction, hrest⟩
  simp only [decimal?, htake, hdrop, htake', hdrop']

theorem decimal?_whole (hwhole : ∀ c ∈ whole, c.isDigit = true)
    (hrest : ∀ c ∈ rest.head?, c.isDigit = false ∧ c ≠ '.') :
    decimal? (whole ++ rest) =
      if whole.isEmpty then none
      else (exponent? rest).map fun e => (ofDigits whole, e) := by
  obtain ⟨htake, hdrop⟩ := cut_iff.mpr ⟨rfl, hwhole, fun c hc => (hrest c hc).1⟩
  simp only [decimal?, htake, hdrop]
  cases rest with
  | nil => simp
  | cons c more =>
      have hpoint : c ≠ '.' := (hrest c rfl).2
      simp [hpoint]

end

theorem decimal?_eq_some_iff {text : List Char} {n : Nat} {k : Int} :
    decimal? text = some (n, k) ↔
      ∃ m e places exponent, text = m ++ e ∧ Mantissa m n places ∧ Exponent e exponent ∧
        k = exponent - places := by
  constructor
  · intro h
    generalize hwhole : text.takeWhile Char.isDigit = whole
    generalize hbehind : text.dropWhile Char.isDigit = behind
    obtain ⟨rfl, hdigits, hstop⟩ := cut_iff.mp ⟨hwhole, hbehind⟩
    by_cases hpoint : ∃ after, behind = '.' :: after
    · obtain ⟨after, rfl⟩ := hpoint
      generalize hfraction : after.takeWhile Char.isDigit = fraction
      generalize hrest : after.dropWhile Char.isDigit = rest
      obtain ⟨rfl, hdigits', hstop'⟩ := cut_iff.mp ⟨hfraction, hrest⟩
      rw [decimal?_point hdigits hdigits' hstop'] at h
      split at h
      · cases h
      · next hsome =>
        obtain ⟨exponent, hexponent, ⟨⟩⟩ := Option.map_eq_some_iff.mp h
        have hrun : Run Char.isDigit (whole ++ fraction) := by
          refine ⟨by simpa using hsome, fun c hc => ?_⟩
          exact (List.mem_append.mp hc).elim (hdigits c) (hdigits' c)
        exact ⟨whole ++ '.' :: fraction, rest, fraction.length, exponent, by simp,
          .point (writes_ofDigits hrun), exponent?_eq_some_iff.mp hexponent, rfl⟩
    · have hstop' : ∀ c ∈ behind.head?, c.isDigit = false ∧ c ≠ '.' := by
        refine fun c hc => ⟨hstop c hc, ?_⟩
        rintro rfl
        obtain ⟨after, rfl⟩ := List.head?_eq_some_iff.mp hc
        exact hpoint ⟨after, rfl⟩
      rw [decimal?_whole hdigits hstop'] at h
      split at h
      · cases h
      · next hsome =>
        obtain ⟨exponent, hexponent, ⟨⟩⟩ := Option.map_eq_some_iff.mp h
        have hrun : Run Char.isDigit whole := ⟨by simpa using hsome, hdigits⟩
        exact ⟨whole, behind, 0, k, rfl, .whole (writes_ofDigits hrun),
          exponent?_eq_some_iff.mp hexponent, by simp⟩
  · rintro ⟨m, e, places, exponent, rfl, hm, he, rfl⟩
    have hstop : ∀ c ∈ e.head?, c.isDigit = false ∧ c ≠ '.' := by
      cases he with
      | none => exact nofun
      | given hc =>
          rintro c ⟨⟩
          rcases hc with rfl | rfl <;> exact ⟨rfl, by decide⟩
    have hdigit : ∀ c ∈ e.head?, c.isDigit = false := fun c hc => (hstop c hc).1
    have hexponent := exponent?_eq_some_iff.mpr he
    cases hm with
    | whole hn =>
        obtain ⟨hrun, rfl⟩ := writes_iff.mp hn
        rw [decimal?_whole hrun.2 hstop, if_neg (by simpa using hrun.1), hexponent]
        simp
    | @point digits fraction n hn =>
        obtain ⟨⟨hne, hrun⟩, rfl⟩ := writes_iff.mp hn
        obtain ⟨hdigits, hfraction⟩ := List.forall_mem_append.mp hrun
        rw [List.append_assoc, List.cons_append, decimal?_point hdigits hfraction hdigit,
          if_neg (by simpa using hne), hexponent]
        rfl

/-! ## Other bases -/

theorem range_of_digit? {c : Char} {d : Nat} (h : digit? c = some d) :
    (48 ≤ c.toNat ∧ c.toNat ≤ 57 ∧ d = c.toNat - 48) ∨
      (97 ≤ c.toNat ∧ c.toNat ≤ 102 ∧ d = c.toNat - 87) ∨
      (65 ≤ c.toNat ∧ c.toNat ≤ 70 ∧ d = c.toNat - 55) := by
  simp only [digit?, Char.isDigit, Char.le_def, UInt32.le_iff_toNat_le, Bool.and_eq_true,
    decide_eq_true_eq] at h
  split at h
  · next hc =>
    cases h
    exact Or.inl ⟨hc.1, hc.2, rfl⟩
  split at h
  · next hc =>
    cases h
    have hlow : 97 ≤ c.toNat := hc.1
    exact Or.inr (Or.inl ⟨hlow, hc.2, by simp; omega⟩)
  split at h
  · next hc =>
    cases h
    have hlow : 65 ≤ c.toNat := hc.1
    exact Or.inr (Or.inr ⟨hlow, hc.2, by simp; omega⟩)
  · cases h

theorem digit?_eq_some_iff {c : Char} {d : Nat} : digit? c = some d ↔ Digit c d := by
  constructor
  · intro h
    have hc : c = Char.ofNat c.toNat := (Char.ofNat_toNat c).symm
    generalize hcode : c.toNat = code at hc
    rw [hc]
    rcases hcode ▸ range_of_digit? h with ⟨hlow, hhigh, rfl⟩ | ⟨hlow, hhigh, rfl⟩ |
      ⟨hlow, hhigh, rfl⟩
    all_goals
      interval_cases code
      all_goals simp [Digit]
  · have hdigits : ∀ digits ∈ ["0123456789abcdef".toList, "0123456789ABCDEF".toList],
        ∀ d < 16, digits[d]?.bind digit? = some d := by
      decide
    have hread : ∀ digits ∈ ["0123456789abcdef".toList, "0123456789ABCDEF".toList],
        digits[d]? = some c → digit? c = some d := by
      intro digits hmem hc
      have hlength : ∀ digits ∈ ["0123456789abcdef".toList, "0123456789ABCDEF".toList],
          digits.length = 16 := by
        decide
      have hd := (List.getElem?_eq_some_iff.mp hc).1
      rw [hlength digits hmem] at hd
      have hvalue := hdigits digits hmem d hd
      rwa [hc] at hvalue
    rintro (hc | hc)
    · exact hread _ (by simp) hc
    · exact hread _ (by simp) hc

/-- One more digit of a number in a base. -/
def more? (base n : Nat) (c : Char) : Option Nat :=
  match digit? c with
  | some d => if d < base then some (base * n + d) else none
  | none => none

theorem more?_eq_some_iff {base n m : Nat} {c : Char} :
    more? base n c = some m ↔ ∃ d, Digit c d ∧ d < base ∧ m = base * n + d := by
  unfold more?
  simp only [← digit?_eq_some_iff]
  constructor
  · intro h
    split at h
    · next d hd =>
      split at h
      · next hlt =>
        cases h
        exact ⟨d, hd, hlt, rfl⟩
      · cases h
    · cases h
  · rintro ⟨d, hd, hlt, rfl⟩
    rw [hd]
    exact if_pos hlt

theorem writesIn_concat_iff {base n : Nat} {front : List Char} {c : Char} :
    WritesIn base (front ++ [c]) n ↔
      (front = [] ∧ Digit c n ∧ n < base) ∨
        ∃ m d, WritesIn base front m ∧ Digit c d ∧ d < base ∧ n = base * m + d := by
  constructor
  · intro h
    generalize htext : front ++ [c] = text at h
    cases h with
    | digit hd hlt =>
        obtain ⟨rfl, ⟨⟩⟩ := List.append_inj' (htext.trans (List.nil_append _).symm) rfl
        exact Or.inl ⟨rfl, hd, hlt⟩
    | next hm hd hlt =>
        obtain ⟨rfl, ⟨⟩⟩ := List.append_inj' htext rfl
        exact Or.inr ⟨_, _, hm, hd, hlt, rfl⟩
  · rintro (⟨rfl, hd, hlt⟩ | ⟨m, d, hm, hd, hlt, rfl⟩)
    · exact .digit hd hlt
    · exact .next hm hd hlt

theorem inBase?_eq_some_iff {base : Nat} {text : List Char} {n : Nat} :
    inBase? base text = some n ↔ WritesIn base text n := by
  have hempty : ∀ m, ¬ WritesIn base [] m := by
    intro m h
    generalize hnil : ([] : List Char) = text at h
    cases h <;> simp at hnil
  have hfold : ∀ text : List Char, text ≠ [] →
      (text.foldlM (more? base) 0 = some n ↔ WritesIn base text n) := by
    intro text hne
    induction text using List.reverseRecOn generalizing n with
    | nil => exact absurd rfl hne
    | append_singleton front c ih =>
        simp only [List.foldlM_append, List.foldlM_cons, List.foldlM_nil, bind_pure,
          Option.bind_eq_bind, Option.bind_eq_some_iff, more?_eq_some_iff, writesIn_concat_iff]
        by_cases hfront : front = []
        · subst hfront
          simp [hempty]
        · simp only [ih hfront, hfront, false_and, false_or, exists_and_left]
  cases text with
  | nil => exact iff_of_false nofun (hempty n)
  | cons c rest => exact hfold (c :: rest) (List.cons_ne_nil c rest)

theorem base?_eq_some_iff {text rest : List Char} {base : Nat} :
    base? text = some (base, rest) ↔ ∃ c, Announces c base ∧ text = '0' :: c :: rest := by
  constructor
  · intro h
    unfold base? at h
    split at h
    · next c rest =>
      simp only [Announces]
      split at h
      · next hc =>
        cases h
        rcases hc with rfl | rfl
        · exact ⟨'x', by simp, rfl⟩
        · exact ⟨'X', by simp, rfl⟩
      split at h
      · next hc =>
        cases h
        rcases hc with rfl | rfl
        · exact ⟨'o', by simp, rfl⟩
        · exact ⟨'O', by simp, rfl⟩
      split at h
      · next hc =>
        cases h
        rcases hc with rfl | rfl
        · exact ⟨'b', by simp, rfl⟩
        · exact ⟨'B', by simp, rfl⟩
      · cases h
    · cases h
  · rintro ⟨c, hc, rfl⟩
    simp only [Announces, List.mem_cons, List.not_mem_nil, or_false, Prod.mk.injEq] at hc
    rcases hc with ⟨rfl, rfl⟩ | ⟨rfl, rfl⟩ | ⟨rfl, rfl⟩ | ⟨rfl, rfl⟩ | ⟨rfl, rfl⟩ | ⟨rfl, rfl⟩
    all_goals rfl

/-! ## All notations -/

/-- The number that a text without blanks around it is read as, if it is a notation. -/
def reading? (text : List Char) : Option Float :=
  if text.isEmpty then some 0.0
  else
    match base? text with
    | some (base, digits) => (inBase? base digits).map Float.ofNat
    | none =>
      let (negative, body) := sign text
      if body = "Infinity".toList then some (if negative then -(1.0 / 0.0) else 1.0 / 0.0)
      else (decimal? body).map fun (digits, exponent) => scaled negative digits exponent

theorem read_eq_getD (text : String) :
    read text = (reading? (trimmed text.toList)).getD (0.0 / 0.0) := by
  unfold read reading?
  generalize trimmed text.toList = characters
  dsimp only
  by_cases hempty : characters.isEmpty = true
  · rw [if_pos hempty, if_pos hempty]
    rfl
  rw [if_neg hempty, if_neg hempty]
  cases base? characters with
  | some found =>
      obtain ⟨base, digits⟩ := found
      dsimp only
      cases inBase? base digits <;> rfl
  | none =>
      dsimp only
      by_cases hbody : (sign characters).2 = "Infinity".toList
      · rw [if_pos hbody, if_pos hbody]
        rfl
      · rw [if_neg hbody, if_neg hbody]
        cases decimal? (sign characters).2 <;> rfl

/-- The characters of a decimal. -/
def Plain (c : Char) : Prop :=
  c.isDigit = true ∨ c ∈ ['.', '+', '-', 'e', 'E']

theorem Sign.plain {s : List Char} {negative : Bool} (h : Sign s negative) : ∀ c ∈ s, Plain c := by
  cases h <;> simp [Plain]

theorem plain_of_writes {digits : List Char} {n : Nat} (h : Writes digits n) :
    ∀ c ∈ digits, Plain c :=
  fun c hc => Or.inl (h.run.2 c hc)

theorem Mantissa.plain {m : List Char} {n places : Nat} (h : Mantissa m n places) :
    ∀ c ∈ m, Plain c := by
  cases h with
  | whole hn => exact plain_of_writes hn
  | point hn =>
      obtain ⟨hdigits, hfraction⟩ := List.forall_mem_append.mp (plain_of_writes hn)
      refine List.forall_mem_append.mpr ⟨hdigits, List.forall_mem_cons.mpr ⟨?_, hfraction⟩⟩
      exact Or.inr (by simp)

/-- A mantissa begins with a digit or a point. -/
theorem Mantissa.exists_cons {m : List Char} {n places : Nat} (h : Mantissa m n places) :
    ∃ c rest, m = c :: rest ∧ (c.isDigit = true ∨ c = '.') := by
  cases h with
  | whole hn =>
      obtain ⟨c, rest, rfl⟩ := List.exists_cons_of_ne_nil hn.run.1
      exact ⟨c, rest, rfl, Or.inl (hn.run.2 c List.mem_cons_self)⟩
  | @point digits fraction n hn =>
      cases digits with
      | nil => exact ⟨'.', fraction, rfl, Or.inr rfl⟩
      | cons c rest =>
          exact ⟨c, rest ++ '.' :: fraction, rfl, Or.inl (hn.run.2 c List.mem_cons_self)⟩

theorem Exponent.plain {e : List Char} {k : Int} (h : Exponent e k) : ∀ c ∈ e, Plain c := by
  cases h with
  | none => exact nofun
  | given hc hs hn =>
      have hrest := List.forall_mem_append.mpr ⟨hs.plain, plain_of_writes hn⟩
      refine List.forall_mem_cons.mpr ⟨?_, hrest⟩
      rcases hc with rfl | rfl <;> exact Or.inr (by simp)

theorem base?_of_plain {text : List Char} (h : ∀ c ∈ text, Plain c) : base? text = none := by
  cases hbase : base? text with
  | none => rfl
  | some found =>
      obtain ⟨c, hc, rfl⟩ := base?_eq_some_iff.mp hbase
      have hplain := h c (by simp)
      simp only [Announces, List.mem_cons, List.not_mem_nil, or_false, Prod.mk.injEq] at hc
      rcases hc with ⟨rfl, _⟩ | ⟨rfl, _⟩ | ⟨rfl, _⟩ | ⟨rfl, _⟩ | ⟨rfl, _⟩ | ⟨rfl, _⟩
      all_goals exact absurd hplain (by simp [Plain])

theorem reading?_eq_some_iff {text : List Char} {x : Float} :
    reading? text = some x ↔ Reads text x := by
  constructor
  · intro h
    unfold reading? at h
    split at h
    · next hempty =>
      cases h
      rw [List.isEmpty_iff.mp hempty]
      exact .blank
    split at h
    · next base digits hbase =>
      obtain ⟨n, hn, rfl⟩ := Option.map_eq_some_iff.mp h
      obtain ⟨c, hc, rfl⟩ := base?_eq_some_iff.mp hbase
      exact .based hc (inBase?_eq_some_iff.mp hn)
    · obtain ⟨s, hs, htext⟩ := exists_sign text
      generalize sign text = signed at h hs htext
      obtain ⟨negative, body⟩ := signed
      dsimp only at h htext
      subst htext
      split at h
      · next hbody =>
        cases h
        rw [hbody]
        exact .infinity hs
      · obtain ⟨⟨n, k⟩, hread, rfl⟩ := Option.map_eq_some_iff.mp h
        obtain ⟨m, e, places, exponent, rfl, hm, he, rfl⟩ := decimal?_eq_some_iff.mp hread
        rw [← List.append_assoc]
        exact .decimal hs hm he
  · intro h
    cases h with
    | blank => rfl
    | @based c base n digits hc hn =>
        have hbase : base? ('0' :: c :: digits) = some (base, digits) :=
          base?_eq_some_iff.mpr ⟨c, hc, rfl⟩
        simp only [reading?, List.isEmpty_cons, Bool.false_eq_true, if_false, hbase,
          inBase?_eq_some_iff.mpr hn, Option.map_some]
    | infinity hs => cases hs <;> rfl
    | @decimal s m e negative n places exponent hs hm he =>
        have hplain : ∀ c ∈ s ++ m ++ e, Plain c := List.forall_mem_append.mpr
          ⟨List.forall_mem_append.mpr ⟨hs.plain, hm.plain⟩, he.plain⟩
        have hbody : ∀ c ∈ m ++ e, Plain c := List.forall_mem_append.mpr ⟨hm.plain, he.plain⟩
        have hword : m ++ e ≠ "Infinity".toList := by
          intro hword
          have hletter := hbody 'I' (by rw [hword]; decide)
          exact absurd hletter (by simp [Plain])
        obtain ⟨c, rest, rfl, hc⟩ := hm.exists_cons
        have hne : (s ++ c :: rest ++ e).isEmpty = false := by simp
        have hhead : ∀ d ∈ (c :: rest ++ e).head?, d ≠ '-' ∧ d ≠ '+' := by
          rintro d ⟨⟩
          constructor
          · rintro rfl
            exact absurd hc (by decide)
          · rintro rfl
            exact absurd hc (by decide)
        have hsign : sign (s ++ c :: rest ++ e) = (negative, c :: rest ++ e) := by
          rw [List.append_assoc]
          exact sign_append hs hhead
        have hread : decimal? (c :: rest ++ e) = some (n, exponent - places) :=
          decimal?_eq_some_iff.mpr ⟨c :: rest, e, places, exponent, rfl, hm, he, rfl⟩
        simp only [reading?, hne, Bool.false_eq_true, if_false, base?_of_plain hplain, hsign,
          hword, hread, Option.map_some]

/-- What a text without blanks around it is read as: the number whose notation it is, or no
number if it is no notation. -/
def ReadsAs (text : String) (x : Float) : Prop :=
  Reads text.toList x ∨ x = 0.0 / 0.0 ∧ ∀ y, ¬ Reads text.toList y

theorem read_eq_iff_readsAs {text : String} (h : trimmed text.toList = text.toList) (x : Float) :
    read text = x ↔ ReadsAs text x := by
  rw [read_eq_getD, h]
  simp only [ReadsAs, ← reading?_eq_some_iff]
  cases reading? text.toList with
  | none => simp [eq_comm]
  | some y => simp

end FieldCalculus.Numeric
