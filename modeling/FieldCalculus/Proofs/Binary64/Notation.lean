import FieldCalculus.Number.Notation
import FieldCalculus.Proofs.Grammar.Pieces
import FieldCalculus.Text.Blank
/-!
# Notations hold no blanks

A number is written with digits, signs, points, letters and nothing else, however small or
large it is and also when it is not a number.
-/

namespace FieldCalculus

open Text

/-- A text without blanks. -/
def Solid (text : String) : Prop :=
  ∀ c ∈ text.toList, isBlank c = false

instance (text : String) : Decidable (Solid text) :=
  List.decidableBAll (fun c => isBlank c = false) text.toList

namespace Solid

theorem append {s t : String} (hs : Solid s) (ht : Solid t) : Solid (s ++ t) := by
  intro c hc
  rw [String.toList_append, List.mem_append] at hc
  exact hc.elim (hs c) (ht c)

theorem ofList {text : List Char} (h : ∀ c ∈ text, isBlank c = false) :
    Solid (String.ofList text) := by
  rwa [Solid, String.toList_ofList]

theorem digits (n : Nat) : ∀ c ∈ Nat.toDigits 10 n, isBlank c = false := fun _ hc =>
  Numeral.isBlank_of_isDigit (Nat.isDigit_of_mem_toDigits (by decide) (by decide) hc)

theorem number (n : Nat) : Solid (toString n) := by
  rw [Nat.toString_eq_ofList_toDigits]
  exact ofList (digits n)

end Solid

namespace Notation

theorem solid_exponentText (e : Int) : Solid (exponentText e) := by
  have hminus : Solid "e-" := by decide
  have hplus : Solid "e+" := by decide
  unfold exponentText
  split
  · exact hminus.append (.number _)
  · exact hplus.append (.number _)

theorem solid_place {digits : List Char} (h : ∀ c ∈ digits, isBlank c = false) (point : Int) :
    Solid (place digits point) := by
  have hzeros : ∀ n : Nat, Solid (String.ofList (List.replicate n '0')) := by
    intro n
    refine .ofList fun c hc => ?_
    rw [List.eq_of_mem_replicate hc]
    rfl
  have hpoint : Solid "." := by decide
  have hzero : Solid "0." := by decide
  unfold place
  dsimp only
  split
  · exact (Solid.ofList h).append (hzeros _)
  split
  · have hfront : Solid (String.ofList (digits.take point.toNat)) :=
      .ofList fun c hc => h c (List.mem_of_mem_take hc)
    have hback : Solid (String.ofList (digits.drop point.toNat)) :=
      .ofList fun c hc => h c (List.mem_of_mem_drop hc)
    exact (hfront.append hpoint).append hback
  split
  · exact (hzero.append (hzeros _)).append (.ofList h)
  split
  · decide
  · exact (Solid.ofList h).append (solid_exponentText _)
  · next d rest _ =>
    obtain ⟨hd, hrest⟩ := List.forall_mem_cons.mp h
    refine Solid.append (.ofList ?_) (solid_exponentText _)
    simpa [hd] using ⟨rfl, hrest⟩

theorem solid_positive (mantissa : Nat) (exponent : Int) : Solid (positive mantissa exponent) :=
  solid_place (Solid.digits _) _

theorem solid_shortest (x : Float) : Solid (shortest x) := by
  have hminus : Solid "-" := by decide
  unfold shortest
  split
  · decide
  · split <;> decide
  · split
    · decide
    split
    · exact hminus.append (solid_positive _ _)
    · exact solid_positive _ _

end Notation

end FieldCalculus
