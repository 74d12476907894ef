import FieldCalculus.Grammar.Rules
import FieldCalculus.Proofs.Text.Lines
/-!
# The normal form of a script

The lines that a script falls into determine it as far as the grammar can tell.  Written as a
script again they fall into themselves, and no rule sees the blanks that were taken off.
-/

namespace FieldCalculus

namespace Text

/-- A line as scripts have them: it says something, on one line, and has no blanks at its ends. -/
structure ScriptLine (line : String) : Prop where
  ne_empty : line ≠ ""
  single_line : '\n' ∉ line.toList
  first_not_blank : ∀ c ∈ line.toList.head?, isBlank c = false
  last_not_blank : ∀ c ∈ line.toList.getLast?, isBlank c = false

instance (line : String) : Decidable (ScriptLine line) :=
  decidable_of_iff
    (line ≠ "" ∧ '\n' ∉ line.toList ∧ line.toList.head?.all (!isBlank ·) = true ∧
      line.toList.getLast?.all (!isBlank ·) = true) <| by
    simp only [Option.all_eq_true, Bool.not_eq_true']
    exact ⟨fun ⟨hne, hline, hfirst, hlast⟩ => ⟨hne, hline, hfirst, hlast⟩,
      fun ⟨hne, hline, hfirst, hlast⟩ => ⟨hne, hline, hfirst, hlast⟩⟩

theorem scriptLine_of_mem_splitLines {script line : String} (h : line ∈ splitLines script) :
    ScriptLine line := by
  have hline := newline_not_mem_of_mem_splitLines h
  obtain ⟨text, htext, rfl⟩ := List.mem_map.mp h
  obtain ⟨hpiece, hne⟩ := List.mem_filter.mp htext
  obtain ⟨piece, -, rfl⟩ := List.mem_map.mp hpiece
  obtain ⟨hfirst, hlast⟩ := trimmed_eq_self_iff.mp (trimmed_trimmed piece)
  refine ⟨?_, hline, ?_, ?_⟩
  · intro hempty
    rw [String.ofList_eq_empty_iff.mp hempty] at hne
    cases hne
  · rwa [String.toList_ofList]
  · rwa [String.toList_ofList]

/-- A line of a script is a script of this line alone. -/
theorem ScriptLine.splitLines_eq {line : String} (h : ScriptLine line) :
    splitLines line = [line] := by
  have htrimmed : trimmed line.toList = line.toList :=
    trimmed_eq_self_iff.mpr ⟨h.first_not_blank, h.last_not_blank⟩
  have hne : line.toList ≠ [] := mt String.toList_eq_nil_iff.mp h.ne_empty
  have hkept : [line.toList].filter (!·.isEmpty) = [line.toList] := by
    simp [hne]
  rw [splitLines, List.splitOn_eq_singleton h.single_line, List.map_singleton, htrimmed, hkept,
    List.map_singleton, String.ofList_toList]

theorem splitLines_intercalate_of_scriptLines {lines : List String}
    (h : ∀ line ∈ lines, ScriptLine line) : splitLines ("\n".intercalate lines) = lines := by
  calc
    splitLines ("\n".intercalate lines) = lines.flatMap splitLines := splitLines_intercalate lines
    _ = lines.flatMap fun line => [line] :=
      List.flatMap_congr fun line hline => (h line hline).splitLines_eq
    _ = lines := List.flatMap_singleton' lines

end Text

theorem recognize_trim {α : Type} [OfScientific α] (line : String) (rules : List (Rule α)) :
    recognize (Text.trim line) rules = recognize line rules := by
  unfold recognize
  rw [Text.trim, String.toList_ofList, Text.trimmed_trimmed]

open Text in
/-- A script falls into lines that say something and have no blanks at their ends; any such lines
are what their script falls into, and two scripts on lines of their own fall into the lines of
both.  So a script that is written anew from its lines keeps them, and the grammar makes the same
of a line with its blanks as without. -/
theorem splitLines_normal_form (script more : String) :
    (∀ line ∈ splitLines script, ScriptLine line) ∧
    (∀ lines : List String, (∀ line ∈ lines, ScriptLine line) →
      splitLines ("\n".intercalate lines) = lines) ∧
    splitLines (script ++ "\n" ++ more) = splitLines script ++ splitLines more ∧
    splitLines ("\n".intercalate (splitLines script)) = splitLines script ∧
    ∀ (α : Type) [OfScientific α] (rules : List (Rule α)), ∀ line ∈ Text.lines script,
      recognize (trim line) rules = recognize line rules := by
  have hlines : ∀ line ∈ splitLines script, ScriptLine line :=
    fun _ => scriptLine_of_mem_splitLines
  exact ⟨hlines, fun _ => splitLines_intercalate_of_scriptLines,
    splitLines_append script more, splitLines_intercalate_of_scriptLines hlines,
    fun _ _ rules line _ => recognize_trim line rules⟩

open Text in
/-- The characters that end a line elsewhere are blanks here, and stay inside a line. -/
theorem splitLines_normal_form_other_line_ends :
    let lines := ["⊗(a,\r\u2028b)", "a = 1", "~"]
    (∀ line ∈ lines, ScriptLine line) ∧
      splitLines "⊗(a,\r\u2028b)\na = 1\n~" = lines := by
  intro lines
  have hlines : ∀ line ∈ lines, ScriptLine line := by decide +kernel
  have hjoined : "\n".intercalate lines = "⊗(a,\r\u2028b)\na = 1\n~" := by decide +kernel
  exact ⟨hlines, hjoined ▸ (splitLines_normal_form "" "").2.1 lines hlines⟩

example : Text.splitLines "\t a = 1\r\n\n \u2028 \n∂decay(a)" = ["a = 1", "∂decay(a)"] := by
  decide +kernel

end FieldCalculus
