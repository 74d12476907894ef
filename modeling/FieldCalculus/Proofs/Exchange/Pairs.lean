import Mathlib.Data.List.FinRange
import Mathlib.Data.List.ProdSigma
import FieldCalculus.Evaluation
/-!
# The pairs of a network

A network couples its members by places: the place `i` with every later place `j`, in
lexicographic order.  A name that stands at two places makes a pair with itself.
-/

namespace FieldCalculus

/-- The places `i < j` of a list of length `n`, in lexicographic order. -/
def orderedPairs (n : Nat) : List (Fin n × Fin n) :=
  (List.finRange n ×ˢ List.finRange n).filter fun p => p.1 < p.2

/-- The pairs of names at the places `i < j`. -/
def pairsByPlace (names : List String) : List (String × String) :=
  (orderedPairs names.length).map fun p => (names[p.1], names[p.2])

private theorem filter_first_row (n : Nat) :
    ((List.finRange (n + 1)).map fun j => ((0 : Fin (n + 1)), j)).filter
        (fun p => p.1 < p.2) =
      (List.finRange n).map fun j => (0, j.succ) := by
  rw [List.finRange_succ, List.map_cons, List.filter_cons_of_neg (by simp), List.map_map]
  apply List.filter_eq_self.mpr
  intro p hp
  obtain ⟨j, _, rfl⟩ := List.mem_map.mp hp
  simp

private theorem filter_later_row (n : Nat) (i : Fin n) :
    ((List.finRange (n + 1)).map fun j => (i.succ, j)).filter (fun p => p.1 < p.2) =
      (((List.finRange n).map fun j => (i, j)).filter fun p => p.1 < p.2).map
        fun p => (p.1.succ, p.2.succ) := by
  rw [List.finRange_succ, List.map_cons, List.filter_cons_of_neg (by simp), List.map_map,
    List.filter_map, List.filter_map, List.map_map]
  have hsame : (fun p : Fin (n + 1) × Fin (n + 1) => decide (p.1 < p.2)) ∘
        ((fun j => (i.succ, j)) ∘ Fin.succ) =
      (fun p : Fin n × Fin n => decide (p.1 < p.2)) ∘ fun j => (i, j) := by
    funext j
    simp
  rw [hsame]
  rfl

/-- The first place pairs with all later ones, and the rest pair as they would alone. -/
theorem orderedPairs_succ (n : Nat) :
    orderedPairs (n + 1) =
      (List.finRange n).map (fun j => (0, j.succ)) ++
        (orderedPairs n).map fun p => (p.1.succ, p.2.succ) := by
  have hrows : ∀ m : Nat, orderedPairs m = (List.finRange m).flatMap fun i =>
      ((List.finRange m).map fun j => (i, j)).filter fun p => p.1 < p.2 := by
    intro m
    rw [orderedPairs]
    exact List.filter_flatMap
  rw [hrows (n + 1), hrows n, List.finRange_succ, List.flatMap_cons, ← List.finRange_succ,
    filter_first_row, List.flatMap_map, List.map_flatMap]
  congr 1
  exact List.flatMap_congr fun i _ => filter_later_row n i

theorem indexPairs_eq_pairsByPlace (names : List String) :
    Evaluation.indexPairs names = pairsByPlace names := by
  induction names with
  | nil => rfl
  | cons first rest ih =>
      have hrest : rest.map (first, ·) =
          (List.finRange rest.length).map fun j => (first, rest[j]) := by
        conv_lhs => rw [← List.map_get_finRange rest, List.map_map]
        rfl
      have hplaces : pairsByPlace (first :: rest) =
          (orderedPairs (rest.length + 1)).map
            fun p => ((first :: rest)[p.1], (first :: rest)[p.2]) := rfl
      rw [Evaluation.indexPairs, ih, hrest, hplaces, orderedPairs_succ, List.map_append,
        List.map_map, List.map_map]
      rfl

theorem mem_of_mem_indexPairs {names : List String} {p : String × String}
    (h : p ∈ Evaluation.indexPairs names) : p.1 ∈ names ∧ p.2 ∈ names := by
  rw [indexPairs_eq_pairsByPlace, pairsByPlace, List.mem_map] at h
  obtain ⟨places, _, rfl⟩ := h
  exact ⟨List.getElem_mem _, List.getElem_mem _⟩

/-- Every name of a list of at least two stands in some pair. -/
theorem exists_mem_indexPairs {names : List String} (hlength : ¬ names.length < 2)
    {name : String} (h : name ∈ names) :
    ∃ p ∈ Evaluation.indexPairs names, name = p.1 ∨ name = p.2 := by
  rcases names with _ | ⟨a, _ | ⟨b, rest⟩⟩
  · cases h
  · exact absurd (Nat.lt_succ_self 1) hlength
  · rcases List.mem_cons.mp h with rfl | hrest
    · exact ⟨(name, b), List.mem_append_left _ List.mem_cons_self, Or.inl rfl⟩
    · exact ⟨(a, name), List.mem_append_left _ (List.mem_map_of_mem hrest), Or.inr rfl⟩

end FieldCalculus
