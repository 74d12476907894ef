import FieldCalculus.Web.HostName.Combining
/-!
# Canonical composition

Texts in normalization form C: marks stand in the order of their classes, and a character that
can be written as one with a mark behind it is.  The table holds the composites that are
letters in lower case or have no case, and Hangul syllables are composed by their numbers.
-/

namespace FieldCalculus.Web.HostName

open Text (entries)

/-- The composites, each with the character and the mark that it is made of. -/
def compositeTable : List (Nat × List Char) := entries
  "E0: 61+300 61+301 61+302 61+303 61+308 61+30A - 63+327 65+300 65+301 65+302 65+308 69+300 69+301
   69+302 69+308 - 6E+303 6F+300 6F+301 6F+302 6F+303 6F+308 - - 75+300 75+301 75+302 75+308 79+301
   - 79+308 - 61+304 - 61+306 - 61+328 - 63+301 - 63+302 - 63+307 - 63+30C - 64+30C - - - 65+304 -
   65+306 - 65+307 - 65+328 - 65+30C - 67+302 - 67+306 - 67+307 - 67+327 - 68+302 - - - 69+303 -
   69+304 - 69+306 - 69+328 135: 6A+302 - 6B+327 - - 6C+301 - 6C+327 - 6C+30C 144: 6E+301 - 6E+327
   - 6E+30C - - - - 6F+304 - 6F+306 - 6F+30B - - - 72+301 - 72+327 - 72+30C - 73+301 - 73+302 -
   73+327 - 73+30C - 74+327 - 74+30C - - - 75+303 - 75+304 - 75+306 - 75+30A - 75+30B - 75+328 -
   77+302 - 79+302 - - 7A+301 - 7A+307 - 7A+30C 1A1: 6F+31B 1B0: 75+31B 1CE: 61+30C - 69+30C -
   6F+30C - 75+30C - FC+304 - FC+301 - FC+30C - FC+300 - - E4+304 - 227+304 - E6+304 - - - 67+30C -
   6B+30C - 6F+328 - 1EB+304 - 292+30C 6A+30C - - - - 67+301 - - - 6E+300 - E5+301 - E6+301 -
   F8+301 - 61+30F - 61+311 - 65+30F - 65+311 - 69+30F - 69+311 - 6F+30F - 6F+311 - 72+30F - 72+311
   - 75+30F - 75+311 - 73+326 - 74+326 - - - 68+30C 227: 61+307 - 65+327 - F6+304 - F5+304 - 6F+307
   - 22F+304 - 79+304 390: 3CA+301 3AC: 3B1+301 3B5+301 3B7+301 3B9+301 3CB+301 3CA: 3B9+308
   3C5+308 3BF+301 3C5+301 3C9+301 439: 438+306 450: 435+300 435+308 - 433+301 - - - 456+308 - - -
   - 43A+301 438+300 443+306 477: 475+30F 4C2: 436+306 4D1: 430+306 - 430+308 - - - 435+306 - - -
   4D9+308 - 436+308 - 437+308 - - - 438+304 - 438+308 - 43E+308 - - - 4E9+308 - 44D+308 - 443+304
   - 443+308 - 443+30B - 447+308 - - - 44B+308 622: 627+653 627+654 648+654 627+655 64A+654 6C0:
   6D5+654 - 6C1+654 6D3: 6D2+654 929: 928+93C 931: 930+93C - - 933+93C 9CB: 9C7+9BE 9C7+9D7 B48:
   B47+B56 - - B47+B3E B47+B57 B94: B92+BD7 BCA: BC6+BBE BC7+BBE BC6+BD7 C48: C46+C56 CC0: CBF+CD5
   CC7: CC6+CD5 CC6+CD6 - CC6+CC2 CCA+CD5 D4A: D46+D3E D47+D3E D46+D57 DDA: DD9+DCA - DD9+DCF
   DDC+DCA DD9+DDF 1026: 1025+102E 1B06: 1B05+1B35 - 1B07+1B35 - 1B09+1B35 - 1B0B+1B35 - 1B0D+1B35
   - - - 1B11+1B35 1B3B: 1B3A+1B35 - 1B3C+1B35 - - 1B3E+1B35 1B3F+1B35 - 1B42+1B35 1E01: 61+325 -
   62+307 - 62+323 - 62+331 - E7+301 - 64+307 - 64+323 - 64+331 - 64+327 - 64+32D - 113+300 -
   113+301 - 65+32D - 65+330 - 229+306 - 66+307 - 67+304 - 68+307 - 68+323 - 68+308 - 68+327 -
   68+32E - 69+330 - EF+301 - 6B+301 - 6B+323 - 6B+331 - 6C+323 - 1E37+304 - 6C+331 - 6C+32D -
   6D+301 - 6D+307 - 6D+323 - 6E+307 - 6E+323 - 6E+331 - 6E+32D - F5+301 - F5+308 - 14D+300 -
   14D+301 - 70+301 - 70+307 - 72+307 - 72+323 - 1E5B+304 - 72+331 - 73+307 - 73+323 - 15B+307 -
   161+307 - 1E63+307 - 74+307 - 74+323 - 74+331 - 74+32D - 75+324 - 75+330 - 75+32D - 169+301 -
   16B+308 - 76+303 - 76+323 - 77+300 - 77+301 - 77+308 - 77+307 - 77+323 - 78+307 - 78+308 -
   79+307 - 7A+302 - 7A+323 - 7A+331 68+331 74+308 77+30A 79+30A 1EA1: 61+323 - 61+309 - E2+301 -
   E2+300 - E2+309 - E2+303 - 1EA1+302 - 103+301 - 103+300 - 103+309 - 103+303 - 1EA1+306 - 65+323
   - 65+309 - 65+303 - EA+301 - EA+300 - EA+309 - EA+303 - 1EB9+302 - 69+309 - 69+323 - 6F+323 -
   6F+309 - F4+301 - F4+300 - F4+309 - F4+303 - 1ECD+302 - 1A1+301 - 1A1+300 - 1A1+309 - 1A1+303 -
   1A1+323 - 75+323 - 75+309 - 1B0+301 - 1B0+300 - 1B0+309 - 1B0+303 - 1B0+323 - 79+300 - 79+323 -
   79+309 - 79+303 1F00: 3B1+313 3B1+314 1F00+300 1F01+300 1F00+301 1F01+301 1F00+342 1F01+342
   1F10: 3B5+313 3B5+314 1F10+300 1F11+300 1F10+301 1F11+301 1F20: 3B7+313 3B7+314 1F20+300
   1F21+300 1F20+301 1F21+301 1F20+342 1F21+342 1F30: 3B9+313 3B9+314 1F30+300 1F31+300 1F30+301
   1F31+301 1F30+342 1F31+342 1F40: 3BF+313 3BF+314 1F40+300 1F41+300 1F40+301 1F41+301 1F50:
   3C5+313 3C5+314 1F50+300 1F51+300 1F50+301 1F51+301 1F50+342 1F51+342 1F60: 3C9+313 3C9+314
   1F60+300 1F61+300 1F60+301 1F61+301 1F60+342 1F61+342 1F70: 3B1+300 - 3B5+300 - 3B7+300 -
   3B9+300 - 3BF+300 - 3C5+300 - 3C9+300 1FB0: 3B1+306 3B1+304 - - - - 3B1+342 1FC6: 3B7+342 1FD0:
   3B9+306 3B9+304 3CA+300 - - - 3B9+342 3CA+342 1FE0: 3C5+306 3C5+304 3CB+300 - 3C1+313 3C1+314
   3C5+342 3CB+342 1FF6: 3C9+342 219A: 2190+338 2192+338 21AE: 2194+338 21CD: 21D0+338 21D4+338
   21D2+338 2204: 2203+338 - - - - 2208+338 - - 220B+338 2224: 2223+338 - 2225+338 2241: 223C+338 -
   - 2243+338 - - 2245+338 - 2248+338 2260: 3D+338 - 2261+338 226D: 224D+338 3C+338 3E+338 2264+338
   2265+338 - - 2272+338 2273+338 - - 2276+338 2277+338 2280: 227A+338 227B+338 - - 2282+338
   2283+338 - - 2286+338 2287+338 22AC: 22A2+338 22A8+338 22A9+338 22AB+338 22E0: 227C+338 227D+338
   2291+338 2292+338 22EA: 22B2+338 22B3+338 22B4+338 22B5+338 304C: 304B+3099 - 304D+3099 -
   304F+3099 - 3051+3099 - 3053+3099 - 3055+3099 - 3057+3099 - 3059+3099 - 305B+3099 - 305D+3099 -
   305F+3099 - 3061+3099 - - 3064+3099 - 3066+3099 - 3068+3099 3070: 306F+3099 306F+309A -
   3072+3099 3072+309A - 3075+3099 3075+309A - 3078+3099 3078+309A - 307B+3099 307B+309A 3094:
   3046+3099 309E: 309D+3099 30AC: 30AB+3099 - 30AD+3099 - 30AF+3099 - 30B1+3099 - 30B3+3099 -
   30B5+3099 - 30B7+3099 - 30B9+3099 - 30BB+3099 - 30BD+3099 - 30BF+3099 - 30C1+3099 - - 30C4+3099
   - 30C6+3099 - 30C8+3099 30D0: 30CF+3099 30CF+309A - 30D2+3099 30D2+309A - 30D5+3099 30D5+309A -
   30D8+3099 30D8+309A - 30DB+3099 30DB+309A 30F4: 30A6+3099 - - 30EF+3099 30F0+3099 30F1+3099
   30F2+3099 - - - 30FD+3099 1109A: 11099+110BA - 1109B+110BA 110AB: 110A5+110BA 1112E: 11131+11127
   11132+11127 1134B: 11347+1133E 11347+11357 114BB: 114B9+114BA 114B9+114B0 - 114B9+114BD 115BA:
   115B8+115AF 115B9+115AF 11938: 11935+11930"

/-- The code point of the first opening consonant of Hangul. -/
def leadBase : Nat := 0x1100

/-- The code point of the first vowel. -/
def vowelBase : Nat := 0x1161

/-- The code point in front of the first closing consonant. -/
def tailBase : Nat := 0x11A7

/-- The code point of the first syllable. -/
def syllableBase : Nat := 0xAC00

/-- How many opening consonants there are. -/
def leadCount : Nat := 19

/-- How many vowels there are. -/
def vowelCount : Nat := 21

/-- How many ends a syllable can have; the first one is no consonant. -/
def tailCount : Nat := 28

/-- The number of a character in a series of `count` that begins at `base`. -/
def number? (base count : Nat) (c : Char) : Option Nat :=
  if base ≤ c.toNat && c.toNat < base + count then some (c.toNat - base) else none

/-- The number of a Hangul syllable: opening consonants count first, then vowels, then ends. -/
def syllableNumber? (c : Char) : Option Nat :=
  number? syllableBase (leadCount * vowelCount * tailCount) c

/-- The parts of a Hangul syllable: one with a closing consonant is made of the syllable without
it and that consonant, any other of two letters. -/
def syllableParts? (c : Char) : Option (List Char) :=
  (syllableNumber? c).map fun n =>
    if n % tailCount = 0 then
      [Char.ofNat (leadBase + n / tailCount / vowelCount),
        Char.ofNat (vowelBase + n / tailCount % vowelCount)]
    else [Char.ofNat (c.toNat - n % tailCount), Char.ofNat (tailBase + n % tailCount)]

/-- The Hangul syllable that two characters make: an opening consonant and a vowel, or a syllable
without a closing consonant and one. -/
def syllable? (first second : Char) : Option Char :=
  match number? leadBase leadCount first, number? vowelBase vowelCount second with
  | some lead, some vowel =>
    some (Char.ofNat (syllableBase + (lead * vowelCount + vowel) * tailCount))
  | _, _ =>
    match syllableNumber? first, number? tailBase tailCount second with
    | some n, some tail =>
      if n % tailCount = 0 && 0 < tail then some (Char.ofNat (first.toNat + tail)) else none
    | _, _ => none

/-- The parts of a character, or the character alone if it is no composite. -/
def partsOf (c : Char) : List Char :=
  ((syllableParts? c).or (compositeTable.lookup c.toNat)).getD [c]

/-- The composite of two characters. -/
def composite? (first second : Char) : Option Char :=
  (syllable? first second).or
    ((compositeTable.find? (·.2 = [first, second])).map fun entry => Char.ofNat entry.1)

/-- A text without composites.  The parts of a composite may be composites once more, but
theirs are not. -/
def decomposed (text : List Char) : List Char :=
  (text.flatMap partsOf).flatMap partsOf

/-- Adds a character to the end of a text, in front of the marks of greater classes there.  The
text is in reverse. -/
def settle (c : Char) : List Char → List Char
  | [] => [c]
  | last :: done =>
    if 0 < combiningClass c && combiningClass c < combiningClass last then last :: settle c done
    else c :: last :: done

/-- A text with its marks in the order of their classes. -/
def arranged (text : List Char) : List Char :=
  (text.foldl (fun done c => settle c done) []).reverse

/-- Composes a text with the character that begins it and the marks behind that, which are in
reverse and have not been composed.  A mark between two characters keeps them apart unless its
class is less than that of the second. -/
def composeFrom (first : Char) (marks : List Char) : List Char → List Char
  | [] => first :: marks.reverse
  | c :: rest =>
    let joined := if marks.head?.all (combiningClass · < combiningClass c) then composite? first c
      else none
    match joined with
    | some whole => composeFrom whole marks rest
    | none =>
      if combiningClass c = 0 then first :: marks.reverse ++ composeFrom c [] rest
      else composeFrom first (c :: marks) rest

/-- A text with composites for their parts.  Marks at its front are kept. -/
def composed : List Char → List Char
  | [] => []
  | c :: rest => if combiningClass c = 0 then composeFrom c [] rest else c :: composed rest

/-- A text in normalization form C. -/
def normalized (text : List Char) : List Char :=
  composed (arranged (decomposed text))

end FieldCalculus.Web.HostName
