/-!
# Patterns

Regular expressions as the rules of the grammar use them.  A pattern is matched at the start of
a text by trying one way after the other.  A run takes all characters that it can and then gives
them back one by one, and a part that may be missing is taken to be there first.  The first way
in which the whole pattern goes through is the match.
-/

namespace FieldCalculus

/-- A pattern. -/
inductive Pattern
  /-- A fixed text. -/
  | literal (text : String)
  /-- Characters of a class, at least so many. -/
  | run (accepts : Char → Bool) (atLeast : Nat)
  /-- A part that may be missing. -/
  | maybe (p : Pattern)
  /-- A part whose text is captured. -/
  | group (p : Pattern)
  | seq (p q : Pattern)
  /-- The end of the text. -/
  | ending

namespace Pattern

instance : Append Pattern := ⟨seq⟩

/-- How many groups a pattern has. -/
def groups : Pattern → Nat
  | maybe p => p.groups
  | group p => p.groups + 1
  | seq p q => p.groups + q.groups
  | literal _ | run .. | ending => 0

/-- The piece of a text between two places, which are given by what stands behind them. -/
structure Piece where
  start : List Char
  stop : List Char

/-- The characters of a piece. -/
def Piece.text (piece : Piece) : List Char :=
  piece.start.take (piece.start.length - piece.stop.length)

/-- What the groups of a pattern have captured, in the order of their opening brackets.  A group
in a part that is missing has captured nothing. -/
abbrev Captures := List (Option Piece)

/-- What follows the given characters. -/
def after? : List Char → List Char → Option (List Char)
  | [], text => some text
  | _ :: _, [] => none
  | c :: beginning, d :: text => if c = d then after? beginning text else none

section Matching

variable {β : Type}

/-- Goes on behind a run that may end. -/
def stopRun (next : List Char → Option β) (atLeast : Nat) (text : List Char) : Option β :=
  if atLeast = 0 then next text else none

/-- Takes a run off a text and goes on with `next`. -/
def findRun (accepts : Char → Bool) (next : List Char → Option β) :
    Nat → List Char → Option β
  | atLeast, [] => stopRun next atLeast []
  | atLeast, c :: rest =>
    if accepts c then
      (findRun accepts next (atLeast - 1) rest).orElse fun _ => stopRun next atLeast (c :: rest)
    else stopRun next atLeast (c :: rest)

/-- Matches a pattern at the start of a text and goes on with `next`, which gets the captures
and the rest of the text.  When that fails, the next way to match is tried. -/
def find (next : Captures → List Char → Option β) : Pattern → List Char → Option β
  | literal beginning, text => (after? beginning.toList text).bind (next [])
  | run accepts atLeast, text => findRun accepts (next []) atLeast text
  | maybe p, text => (p.find next text).orElse fun _ => next (List.replicate p.groups none) text
  | group p, text =>
    p.find (fun inner rest => next (some ⟨text, rest⟩ :: inner) rest) text
  | seq p q, text => p.find (fun first => q.find fun second => next (first ++ second)) text
  | ending, text => if text.isEmpty then next [] [] else none

end Matching

end Pattern

/-- The texts that the groups of a matched pattern have captured. -/
abbrev Match := List (Option (List Char))

/-- Matches a pattern at the start of a text. -/
def Pattern.exec (p : Pattern) (text : List Char) : Option Match :=
  p.find (fun captures _ => some (captures.map (Option.map Piece.text))) text

end FieldCalculus
