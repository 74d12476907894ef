import FieldCalculus.Grammar.Rules
/-!
# Scanning a line

Functions that take a line to pieces without going back: each takes one piece off the front of
a text and returns it with what follows, and each succeeds exactly on the texts of one shape.
The patterns of the rules find the same pieces, so a rule can be read as a chain of them.
-/

namespace FieldCalculus

open Text

namespace Numeral

/-- A whole numeral at the front of a text, and the rest of it. -/
def whole? (text : List Char) : Option (Numeral × List Char) :=
  (digitRun? text).map fun (digits, rest) => (⟨ofDigits digits, 0⟩, rest)

/-- A numeral at the front of a text, and the rest of it.  A point belongs to the numeral
only when a digit follows it. -/
def decimal? (text : List Char) : Option (Numeral × List Char) :=
  match digitRun? text with
  | none => none
  | some (whole, rest) =>
    match rest with
    | '.' :: afterPoint =>
      match digitRun? afterPoint with
      | some (fraction, rest') =>
        some (⟨ofDigits (whole ++ fraction), fraction.length⟩, rest')
      | none => some (⟨ofDigits whole, 0⟩, rest)
    | _ => some (⟨ofDigits whole, 0⟩, rest)

end Numeral

namespace Scan

/-! ## Pieces -/

/-- What follows a fixed beginning. -/
def literal? (beginning : String) (text : List Char) : Option (List Char) :=
  Pattern.after? beginning.toList text

/-- What follows a character that may be missing. -/
def optional (c : Char) (text : List Char) : List Char :=
  match text with
  | d :: rest => if d = c then rest else text
  | [] => []

/-- The longest nonempty piece of characters of a class, and what follows it. -/
def run? (accepts : Char → Bool) (text : List Char) : Option (List Char × List Char) :=
  match text.takeWhile accepts with
  | [] => none
  | piece => some (piece, text.dropWhile accepts)

/-- The nonempty piece before the first `stop`, and what follows that. -/
def upTo? (stop : Char) (text : List Char) : Option (List Char × List Char) :=
  match text.takeWhile (· ≠ stop), text.dropWhile (· ≠ stop) with
  | [], _ => none
  | _, [] => none
  | piece, _ :: rest => some (piece, rest)

/-- What follows some blanks. -/
def blanks (text : List Char) : List Char :=
  text.dropWhile isBlank

/-- The longest nonempty piece without line ends. -/
def lineRun? (text : List Char) : Option (List Char) :=
  (run? (!isLineEnd ·) text).map Prod.fst

/-- The longest nonempty piece of word characters, and what follows it. -/
def word? (text : List Char) : Option (List Char × List Char) :=
  run? isWordChar text

/-- Two names after a fixed beginning, with `separator` between them and a closing bracket
after them. -/
def pair? (beginning : String) (separator : Char) (text : List Char) :
    Option (String × String) := do
  let rest ← literal? beginning text
  let (a, rest) ← upTo? separator rest
  let (b, _) ← upTo? ')' rest
  return (nameOf a, nameOf b)

/-- The bracketed list of an interaction and the constraints behind it. -/
def constrained? (text : List Char) : Option (List Char × String) := do
  let rest ← literal? "(" (optional 'F' text)
  let (body, rest) ← upTo? ')' rest
  let rest ← literal? "|" rest
  let constraints ← lineRun? rest
  return (body, String.ofList constraints)

/-- The rate that closes a decay, after a comma. -/
def rate? (text : List Char) : Option Numeral := do
  let rest ← literal? "," text
  let (rate, rest) ← Numeral.decimal? (blanks rest)
  let _ ← literal? ")" rest
  return rate

/-- What closes a decay: a rate, or a bracket alone. -/
def decayEnd? (text : List Char) : Option (Option Numeral) :=
  match rate? text with
  | some rate => some (some rate)
  | none => (literal? ")" text).map fun _ => none

/-! ## Forms -/

section Forms

variable {α : Type} [OfScientific α]

def fractal? (text : List Char) : Option (Operation α) := do
  let rest ← literal? "∮^" text
  let (iterations, rest) ← Numeral.whole? rest
  let rest ← literal? "(" rest
  let (field, rest) ← upTo? ',' rest
  let (depth, rest) ← Numeral.whole? (blanks rest)
  let _ ← literal? ")" rest
  return .fractalSpawn (nameOf field) iterations.value depth.value

def network? (text : List Char) : Option (Operation α) := do
  let rest ← literal? "∇³" text
  let (body, constraints) ← constrained? rest
  return .network (splitNames '↔' (trimmed body)) constraints

def regenerate? (text : List Char) : Option (Operation α) := do
  let rest ← literal? "∮regenerate(" text
  let (field, rest) ← upTo? ',' rest
  let (energy, rest) ← Numeral.decimal? (blanks rest)
  let _ ← literal? ")" rest
  return .regenerate (nameOf field) energy.value

def interaction? (text : List Char) : Option (Operation α) := do
  let rest ← literal? "∇" text
  let (body, constraints) ← constrained? (optional '²' rest)
  if '↔' ∈ body then return .interaction (splitNames '↔' body) constraints
  else if '→' ∈ body then return .unidirectionalFlow (splitNames '→' body) constraints
  else none

def creation? (text : List Char) : Option (Operation α) := do
  let (field, rest) ← word? text
  let rest ← literal? "=" (blanks rest)
  let (energy, _) ← Numeral.decimal? (blanks rest)
  return .creation (nameOf field) energy.value

end Forms

/-! ## What the pieces look like -/

theorem upTo?_eq_some_iff {stop : Char} {text piece rest : List Char} :
    upTo? stop text = some (piece, rest) ↔
      text = piece ++ stop :: rest ∧ piece ≠ [] ∧ stop ∉ piece := by
  constructor
  · intro h
    have hsplit := List.takeWhile_append_dropWhile (p := (· ≠ stop)) (l := text)
    unfold upTo? at h
    split at h
    · cases h
    · cases h
    · next _ _ c _ hrest hnil =>
      cases h
      have hc : c = stop := by
        have hhead := List.head?_dropWhile_not (· ≠ stop) text
        rw [hrest] at hhead
        simpa using hhead
      subst hc
      refine ⟨by rw [← hrest, hsplit], hnil, fun hmem => ?_⟩
      have hall := List.all_takeWhile (p := (· ≠ c)) (l := text)
      rw [List.all_eq_true] at hall
      simpa using hall c hmem
  · rintro ⟨rfl, hne, hmem⟩
    have hp : ∀ c ∈ piece, (decide (c ≠ stop)) = true := by
      intro c hc
      simpa using fun e : c = stop => hmem (e ▸ hc)
    unfold upTo?
    rw [List.takeWhile_append_of_pos hp, List.dropWhile_append_of_pos hp]
    cases piece with
    | nil => exact absurd rfl hne
    | cons c piece => simp

theorem after?_eq_some_iff {beginning text rest : List Char} :
    Pattern.after? beginning text = some rest ↔ text = beginning ++ rest := by
  fun_induction Pattern.after? beginning text with
  | case1 text => simp [eq_comm]
  | case2 => simp
  | case3 beginning c text ih => simp [ih]
  | case4 c beginning d text h =>
    have h' : ¬ d = c := fun e => h e.symm
    simp [h']

theorem literal?_eq_some_iff {beginning : String} {text rest : List Char} :
    literal? beginning text = some rest ↔ text = beginning.toList ++ rest :=
  after?_eq_some_iff

theorem pair?_eq_some_iff {beginning : String} {separator : Char} {text : List Char}
    {names : String × String} :
    pair? beginning separator text = some names ↔
      ∃ a b rest, text = beginning.toList ++ a ++ separator :: b ++ ')' :: rest ∧
        a ≠ [] ∧ separator ∉ a ∧ b ≠ [] ∧ ')' ∉ b ∧ names = (nameOf a, nameOf b) := by
  simp only [pair?, Option.bind_eq_bind, Option.bind_eq_some_iff, literal?_eq_some_iff, Prod.exists,
    upTo?_eq_some_iff, Option.pure_def, Option.some.injEq]
  constructor
  · rintro ⟨_, rfl, a, _, ⟨rfl, ha, hsep⟩, b, rest, ⟨rfl, hb, hbr⟩, rfl⟩
    exact ⟨a, b, rest, by simp, ha, hsep, hb, hbr, rfl⟩
  · rintro ⟨a, b, rest, rfl, ha, hsep, hb, hbr, rfl⟩
    exact ⟨a ++ separator :: (b ++ ')' :: rest), by simp, a, b ++ ')' :: rest, ⟨rfl, ha, hsep⟩,
      b, rest, ⟨rfl, hb, hbr⟩, rfl⟩

end Scan

end FieldCalculus
