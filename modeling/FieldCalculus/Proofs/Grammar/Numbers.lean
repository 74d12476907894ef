import Mathlib.Tactic.Positivity
import FieldCalculus.Proofs.Exact
import FieldCalculus.Proofs.Grammar.Forms
/-!
# The numbers of a line

The grammar has no sign, so no number that a line gives to its operation is negative.
-/

namespace FieldCalculus

/-- The numbers that an operation carries. -/
def Operation.numbers {α : Type} : Operation α → List α
  | fractalSpawn _ iterations depth => [iterations, depth]
  | regenerate _ energy => [energy]
  | decay _ rate => [rate]
  | creation _ energy => [energy]
  | _ => []

variable {α : Type} [ExactScalar α]

theorem Numeral.value_nonneg (n : Numeral) : 0 ≤ (n.value : α) := by
  rw [value, ExactScalar.decimal_eq]
  positivity

/-- What a decay loses is not negative, whether the line gives the rate or not. -/
theorem rate_nonneg (rate : Option Numeral) : 0 ≤ (rate.elim 0.05 Numeral.value : α) := by
  cases rate with
  | some n => exact n.value_nonneg
  | none =>
      rw [Option.elim_none, ExactScalar.decimal_eq]
      positivity

theorem Form.numbers_nonneg {text : List Char} {op : Operation α} (h : Form text op) :
    ∀ x ∈ op.numbers, 0 ≤ x := by
  intro x hx
  cases h with
  | fractalSpawn _ _ _ _ _ _ =>
      rcases List.mem_pair.mp hx with rfl | rfl
      · exact Numeral.value_nonneg _
      · exact Numeral.value_nonneg _
  | regenerate _ _ _ _ _ | creation _ _ _ _ _ =>
      rw [List.mem_singleton.mp hx]
      exact Numeral.value_nonneg _
  | decay _ _ _ =>
      rw [List.mem_singleton.mp hx]
      exact rate_nonneg _
  | entangle | resonance | phaseTransition | spatialFlow | symbiosis | network | interaction
  | unidirectionalFlow => cases hx

/-- No number of a recognised operation is negative. -/
theorem recognize_numbers_nonneg (line : String) :
    ∀ x ∈ (recognize line : Operation α).numbers, 0 ≤ x := by
  rcases (recognize_eq_iff_form line (recognize line : Operation α)).mp rfl with hform | ⟨hop, _⟩
  · exact hform.numbers_nonneg
  · rw [hop]
    exact nofun

end FieldCalculus
