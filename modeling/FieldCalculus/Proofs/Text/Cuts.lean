import Mathlib.Data.List.Basic
import FieldCalculus.Text.Blank
/-!
# Cutting texts

A text is cut where a class of characters ends, and trimmed where its blanks end.  Each cut
is determined by what the pieces look like.
-/

namespace FieldCalculus

namespace Text

/-- A nonempty piece of characters of one class. -/
def Run (q : Char → Bool) (piece : List Char) : Prop :=
  piece ≠ [] ∧ ∀ c ∈ piece, q c = true

/-- A piece that has a property while no longer piece has it. -/
def Longest (P : List Char → Prop) (piece : List Char) : Prop :=
  P piece ∧ ∀ other, P other → other.length ≤ piece.length

variable {q : Char → Bool}

theorem cut_iff {text piece rest : List Char} :
    (text.takeWhile q = piece ∧ text.dropWhile q = rest) ↔
      text = piece ++ rest ∧ (∀ c ∈ piece, q c = true) ∧ ∀ c ∈ rest.head?, q c = false := by
  constructor
  · rintro ⟨rfl, rfl⟩
    refine ⟨List.takeWhile_append_dropWhile.symm, fun c hc => ?_, fun c hc => ?_⟩
    · exact List.all_eq_true.mp List.all_takeWhile c hc
    · have hhead := List.head?_dropWhile_not q text
      rw [Option.mem_def.mp hc] at hhead
      exact hhead
  · rintro ⟨rfl, hpiece, hstop⟩
    rw [List.takeWhile_append_of_pos hpiece, List.dropWhile_append_of_pos hpiece]
    cases rest with
    | nil => simp
    | cons c rest =>
        have hc : q c = false := hstop c rfl
        simp [hc]

theorem cut_at_iff {separator : Char} {text piece rest : List Char} :
    (text.takeWhile (· ≠ separator) = piece ∧ text.dropWhile (· ≠ separator) = rest) ↔
      text = piece ++ rest ∧ separator ∉ piece ∧ ∀ c ∈ rest.head?, c = separator := by
  have hpiece : (∀ c ∈ piece, decide (c ≠ separator) = true) ↔ separator ∉ piece := by
    simp only [decide_eq_true_eq]
    exact ⟨fun h hmem => h separator hmem rfl, fun h c hc e => h (e ▸ hc)⟩
  have hrest : (∀ c ∈ rest.head?, decide (c ≠ separator) = false) ↔
      ∀ c ∈ rest.head?, c = separator := by
    simp
  rw [cut_iff, hpiece, hrest]

theorem run_cut_iff {text piece rest : List Char} :
    (match text.takeWhile q with
      | [] => none
      | run => some (run, text.dropWhile q)) = some (piece, rest) ↔
      text = piece ++ rest ∧ Run q piece ∧ ∀ c ∈ rest.head?, q c = false := by
  have hcut : (text.takeWhile q = piece ∧ text.dropWhile q = rest) ↔ _ := cut_iff
  constructor
  · intro h
    split at h
    · cases h
    · next hne =>
      cases h
      obtain ⟨htext, hall, hstop⟩ := hcut.mp ⟨rfl, rfl⟩
      exact ⟨htext, ⟨hne, hall⟩, hstop⟩
  · rintro ⟨htext, ⟨hne, hall⟩, hstop⟩
    obtain ⟨htake, hdrop⟩ := hcut.mpr ⟨htext, hall, hstop⟩
    obtain ⟨c, more, rfl⟩ := List.exists_cons_of_ne_nil hne
    rw [htake, hdrop]

/-- A run at the front of a text lies within the longest one. -/
theorem Run.prefix_takeWhile {piece text : List Char} (h : Run q piece)
    (hopens : piece <+: text) : piece <+: text.takeWhile q := by
  obtain ⟨rest, rfl⟩ := hopens
  rw [List.takeWhile_append_of_pos h.2]
  exact List.prefix_append _ _

theorem longest_run_iff {text piece : List Char} :
    Longest (fun p => Run q p ∧ p <+: text) piece ↔ text.takeWhile q = piece ∧ piece ≠ [] := by
  constructor
  · rintro ⟨⟨hrun, hopens⟩, hlongest⟩
    have hinside := hrun.prefix_takeWhile hopens
    have hrun' : Run q (text.takeWhile q) := by
      refine ⟨?_, (cut_iff.mp ⟨rfl, rfl⟩).2.1⟩
      rintro hnil
      rw [hnil, List.prefix_nil] at hinside
      exact hrun.1 hinside
    have hle := hlongest _ ⟨hrun', List.takeWhile_prefix q⟩
    exact ⟨(hinside.eq_of_length_le hle).symm, hrun.1⟩
  · rintro ⟨rfl, hne⟩
    refine ⟨⟨⟨hne, (cut_iff.mp ⟨rfl, rfl⟩).2.1⟩, List.takeWhile_prefix q⟩, ?_⟩
    rintro other ⟨hrun, hopens⟩
    exact (hrun.prefix_takeWhile hopens).length_le

/-- Of two texts that are equal, one with a character that its beginning lacks, the other with
that character in its beginning. -/
theorem exists_append_of_mem {c : Char} {first second before rest : List Char}
    (h : first ++ second = before ++ c :: rest) (hbefore : c ∉ before) (hfirst : c ∈ first) :
    ∃ more, first = before ++ c :: more ∧ rest = more ++ second := by
  rcases List.append_eq_append_iff.mp h with ⟨middle, hmiddle, _⟩ | ⟨middle, hmiddle, hrest⟩
  · exact absurd (hmiddle ▸ List.mem_append_left middle hfirst) hbefore
  · cases middle with
    | nil =>
        rw [List.append_nil] at hmiddle
        exact absurd (hmiddle ▸ hfirst) hbefore
    | cons d more =>
        cases hrest
        exact ⟨more, hmiddle, rfl⟩

/-- There is one way to cut a text at the last occurrence of a character. -/
theorem append_cons_inj {c : Char} {front front' back back' : List Char} (hback : c ∉ back)
    (hback' : c ∉ back') :
    front ++ c :: back = front' ++ c :: back' ↔ front = front' ∧ back = back' := by
  -- what one front has more than the other ends with the character, and lies in the other back
  have hmore : ∀ {back back' more : List Char}, c ∉ back →
      c :: back = more ++ c :: back' → more = [] ∧ back = back' := by
    intro back back' more hback h
    cases more with
    | nil =>
        cases h
        exact ⟨rfl, rfl⟩
    | cons d more =>
        cases h
        exact absurd (List.mem_append_right more List.mem_cons_self) hback
  constructor
  · intro h
    rcases List.append_eq_append_iff.mp h with ⟨more, hfront, hrest⟩ | ⟨more, hfront, hrest⟩
    · obtain ⟨rfl, rfl⟩ := hmore hback hrest
      exact ⟨(hfront.trans (List.append_nil _)).symm, rfl⟩
    · obtain ⟨rfl, rfl⟩ := hmore hback' hrest
      exact ⟨hfront.trans (List.append_nil _), rfl⟩
  · rintro ⟨rfl, rfl⟩
    rfl

/-! ## Blanks at the ends -/

/-- Trimming finds the text that stands between blanks and has none at its own ends. -/
theorem trimmed_eq_iff {text inner : List Char} :
    trimmed text = inner ↔
      ∃ w w', text = w ++ inner ++ w' ∧ (∀ c ∈ w, isBlank c = true) ∧
        (∀ c ∈ w', isBlank c = true) ∧ (∀ c ∈ inner.head?, isBlank c = false) ∧
        ∀ c ∈ inner.getLast?, isBlank c = false := by
  constructor
  · rintro rfl
    generalize hfront : text.takeWhile isBlank = w
    generalize hbehind : text.dropWhile isBlank = behind
    generalize hback : behind.reverse.takeWhile isBlank = w'
    generalize hmiddle : behind.reverse.dropWhile isBlank = middle
    obtain ⟨htext, hw, hhead⟩ := cut_iff.mp ⟨hfront, hbehind⟩
    obtain ⟨hreverse, hw', hlast⟩ := cut_iff.mp ⟨hback, hmiddle⟩
    have hsplit : behind = middle.reverse ++ w'.reverse := by
      rw [← List.reverse_reverse behind, hreverse, List.reverse_append]
    have htrimmed : trimmed text = middle.reverse := by
      rw [trimmed, hbehind, hmiddle]
    rw [htrimmed]
    refine ⟨w, w'.reverse, by rw [htext, hsplit, List.append_assoc], hw,
      fun c hc => hw' c (List.mem_reverse.mp hc), fun c hc => ?_, fun c hc => ?_⟩
    · rw [hsplit, List.head?_append] at hhead
      exact hhead c (Option.mem_def.mpr (by rw [Option.mem_def.mp hc, Option.some_or]))
    · rw [List.getLast?_reverse] at hc
      exact hlast c hc
  · rintro ⟨w, w', rfl, hw, hw', hhead, hlast⟩
    cases inner with
    | nil =>
        have hall : ∀ c ∈ w ++ [] ++ w', isBlank c = true := by
          intro c hc
          rw [List.append_nil, List.mem_append] at hc
          rcases hc with hc | hc
          · exact hw c hc
          · exact hw' c hc
        have hdrop : (w ++ [] ++ w').dropWhile isBlank = [] :=
          (cut_iff.mpr ⟨(List.append_nil _).symm, hall, by simp⟩).2
        rw [trimmed, hdrop]
        rfl
    | cons d rest =>
        have hfront : (w ++ d :: rest ++ w').dropWhile isBlank = d :: rest ++ w' := by
          refine (cut_iff.mpr ⟨List.append_assoc _ _ _, hw, ?_⟩).2
          rintro c ⟨⟩
          exact hhead d rfl
        have hback : (d :: rest ++ w').reverse.dropWhile isBlank = (d :: rest).reverse := by
          refine (cut_iff.mpr ⟨List.reverse_append, fun c hc => ?_, fun c hc => ?_⟩).2
          · exact hw' c (List.mem_reverse.mp hc)
          · rw [List.head?_reverse] at hc
            exact hlast c hc
        rw [trimmed, hfront, hback, List.reverse_reverse]

theorem trimmed_of_not_blank {text : List Char} (h : ∀ c ∈ text, isBlank c = false) :
    trimmed text = text :=
  trimmed_eq_iff.mpr ⟨[], [], by simp, by simp, by simp,
    fun c hc => h c (List.mem_of_mem_head? hc), fun c hc => h c (List.mem_of_mem_getLast? hc)⟩

theorem mem_of_mem_trimmed {c : Char} {text : List Char} (h : c ∈ trimmed text) : c ∈ text := by
  obtain ⟨w, w', htext, _⟩ := trimmed_eq_iff.mp (rfl : trimmed text = _)
  rw [htext]
  exact List.mem_append_left w' (List.mem_append_right w h)

theorem trimmed_eq_self_iff {text : List Char} :
    trimmed text = text ↔
      (∀ c ∈ text.head?, isBlank c = false) ∧ ∀ c ∈ text.getLast?, isBlank c = false := by
  constructor
  · intro h
    obtain ⟨_, _, _, _, _, hends⟩ := trimmed_eq_iff.mp h
    exact hends
  · intro hends
    exact trimmed_eq_iff.mpr ⟨[], [], by simp, by simp, by simp, hends⟩

theorem trimmed_trimmed (text : List Char) : trimmed (trimmed text) = trimmed text := by
  obtain ⟨_, _, _, _, _, hends⟩ := trimmed_eq_iff.mp (rfl : trimmed text = _)
  exact trimmed_eq_self_iff.mpr hends

/-- Trimming removes no character that is not blank. -/
theorem count_trimmed {c : Char} (hc : isBlank c = false) (text : List Char) :
    (trimmed text).count c = text.count c := by
  obtain ⟨w, w', htext, hw, hw', _⟩ := trimmed_eq_iff.mp (rfl : trimmed text = _)
  have hnone : ∀ blanks : List Char, (∀ d ∈ blanks, isBlank d = true) → blanks.count c = 0 := by
    intro blanks hblanks
    rw [List.count_eq_zero]
    intro hmem
    rw [hblanks c hmem] at hc
    cases hc
  calc
    (trimmed text).count c = (w ++ trimmed text ++ w').count c := by
      rw [List.count_append, List.count_append, hnone w hw, hnone w' hw', Nat.zero_add,
        Nat.add_zero]
    _ = text.count c := by rw [← htext]

theorem mem_trimmed_iff {c : Char} (hc : isBlank c = false) (text : List Char) :
    c ∈ trimmed text ↔ c ∈ text := by
  rw [← List.count_pos_iff, count_trimmed hc, List.count_pos_iff]

/-- A text that ends in a character that is not blank has blanks in front alone. -/
theorem exists_eq_append_trimmed {text : List Char} {c : Char} (hlast : text.getLast? = some c)
    (hc : isBlank c = false) :
    ∃ w, text = w ++ trimmed text ∧ (∀ d ∈ w, isBlank d = true) ∧ trimmed text ≠ [] := by
  obtain ⟨w, w', htext, hw, hw', _⟩ := trimmed_eq_iff.mp (rfl : trimmed text = _)
  have hnot : ∀ blanks : List Char, (∀ d ∈ blanks, isBlank d = true) →
      blanks.getLast? ≠ some c := by
    intro blanks hblanks hmem
    rw [hblanks c (List.mem_of_mem_getLast? hmem)] at hc
    cases hc
  by_cases hnil : w' = []
  · rw [hnil, List.append_nil] at htext
    refine ⟨w, htext, hw, fun htrimmed => ?_⟩
    rw [htext, htrimmed, List.append_nil] at hlast
    exact hnot w hw hlast
  · rw [htext, List.getLast?_append_of_ne_nil _ hnil] at hlast
    exact absurd hlast (hnot w' hw')

theorem getLast?_trimmed {text : List Char} {c : Char} (hlast : text.getLast? = some c)
    (hc : isBlank c = false) : (trimmed text).getLast? = some c := by
  obtain ⟨w, htext, _, hne⟩ := exists_eq_append_trimmed hlast hc
  rw [htext, List.getLast?_append_of_ne_nil _ hne] at hlast
  exact hlast

/-- A text behind one that ends in a character that is not blank loses only its own blanks at
the end. -/
theorem exists_trimmed_append {text : List Char} {c : Char} (hlast : text.getLast? = some c)
    (hc : isBlank c = false) (more : List Char) :
    ∃ kept w, more = kept ++ w ∧ (∀ d ∈ w, isBlank d = true) ∧
      trimmed (text ++ more) = trimmed text ++ kept := by
  obtain ⟨w, htext, hw, hne⟩ := exists_eq_append_trimmed hlast hc
  obtain ⟨_, _, _, _, _, hhead, hlast'⟩ := trimmed_eq_iff.mp (rfl : trimmed text = _)
  generalize hback : more.reverse.takeWhile isBlank = back
  generalize hfront : more.reverse.dropWhile isBlank = front
  obtain ⟨hmore, hblank, hstop⟩ := cut_iff.mp ⟨hback, hfront⟩
  have hsplit : more = front.reverse ++ back.reverse := by
    rw [← List.reverse_reverse more, hmore, List.reverse_append]
  have hblank' : ∀ d ∈ back.reverse, isBlank d = true := fun d hd =>
    hblank d (List.mem_reverse.mp hd)
  refine ⟨front.reverse, back.reverse, hsplit, hblank', ?_⟩
  refine trimmed_eq_iff.mpr ⟨w, back.reverse, ?_, hw, hblank', fun d hd => ?_, fun d hd => ?_⟩
  · rw [hsplit, ← List.append_assoc w, ← htext, List.append_assoc]
  · rw [List.head?_append_of_ne_nil _ hne] at hd
    exact hhead d hd
  · by_cases hfront' : front = []
    · rw [hfront', List.reverse_nil, List.append_nil] at hd
      exact hlast' d hd
    · rw [List.getLast?_append_of_ne_nil _ (by simpa using hfront'), List.getLast?_reverse] at hd
      exact hstop d hd

end Text

end FieldCalculus
