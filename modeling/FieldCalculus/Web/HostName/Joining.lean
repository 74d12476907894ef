import FieldCalculus.Text.CodeTable
/-!
# Joining

Which letters of a cursive script join the letters beside them.
-/

namespace FieldCalculus.Web.HostName

open Text (inRanges)

/-- Letters that join both neighbours, by runs. -/
def dualJoiningRanges : List (Nat × Nat) :=
  [(0x620, 0x620), (0x626, 0x626), (0x628, 0x628), (0x62A, 0x62E), (0x633, 0x63F), (0x641, 0x647),
   (0x649, 0x64A), (0x66E, 0x66F), (0x679, 0x687), (0x69A, 0x6BF), (0x6C1, 0x6C2), (0x6CC, 0x6CC),
   (0x6CE, 0x6CE), (0x6D0, 0x6D1), (0x6FA, 0x6FC), (0x6FF, 0x6FF), (0x712, 0x714), (0x71A, 0x71D),
   (0x71F, 0x727), (0x729, 0x729), (0x72B, 0x72B), (0x72D, 0x72E), (0x74E, 0x758), (0x75C, 0x766),
   (0x850, 0x853), (0x855, 0x855), (0x8A0, 0x8A0), (0x8A2, 0x8A9), (0x1807, 0x1807),
   (0x1820, 0x1877), (0x1887, 0x18A8), (0x18AA, 0x18AA), (0xA840, 0xA871)]

/-- Letters that join the one before them alone, by runs. -/
def rightJoiningRanges : List (Nat × Nat) :=
  [(0x622, 0x625), (0x627, 0x627), (0x629, 0x629), (0x62F, 0x632), (0x648, 0x648), (0x671, 0x673),
   (0x688, 0x699), (0x6C0, 0x6C0), (0x6C3, 0x6CB), (0x6CD, 0x6CD), (0x6CF, 0x6CF), (0x6D2, 0x6D3),
   (0x6D5, 0x6D5), (0x6EE, 0x6EF), (0x710, 0x710), (0x715, 0x719), (0x71E, 0x71E), (0x728, 0x728),
   (0x72A, 0x72A), (0x72C, 0x72C), (0x72F, 0x72F), (0x74D, 0x74D), (0x759, 0x75B), (0x854, 0x854),
   (0x8AA, 0x8AC)]

/-- The letters that join the one behind them alone, by runs. -/
def leftJoiningRanges : List (Nat × Nat) := [(0xA872, 0xA872)]

/-- A letter that joins the one behind it. -/
def joinsNext (c : Char) : Bool :=
  inRanges dualJoiningRanges c || inRanges leftJoiningRanges c

/-- A letter that joins the one before it. -/
def joinsPrevious (c : Char) : Bool :=
  inRanges dualJoiningRanges c || inRanges rightJoiningRanges c

end FieldCalculus.Web.HostName
