import FieldCalculus.Proofs.Text.Cuts
/-!
# Scripts as lists of lines

A script falls into its nonempty trimmed lines, and any of these in their order can be
written as a script again.
-/

namespace FieldCalculus.Text

theorem not_mem_of_mem_splitOn {c : Char} {text piece : List Char}
    (h : piece ∈ text.splitOn c) : c ∉ piece := by
  induction text generalizing piece with
  | nil =>
      rw [List.splitOn_nil, List.mem_singleton] at h
      rw [h]
      exact List.not_mem_nil
  | cons d rest ih =>
      rw [List.splitOn_cons_eq_if_modifyHead] at h
      by_cases hd : d = c
      · rw [if_pos (beq_iff_eq.mpr hd), List.mem_cons] at h
        rcases h with rfl | h
        · exact List.not_mem_nil
        · exact ih h
      · obtain ⟨first, others, hsplit⟩ :=
          List.exists_cons_of_ne_nil (List.splitOn_ne_nil c rest)
        rw [if_neg (mt beq_iff_eq.mp hd), hsplit, List.modifyHead_cons, List.mem_cons] at h
        rcases h with rfl | h
        · rw [List.mem_cons, not_or]
          exact ⟨fun e => hd e.symm, ih (hsplit ▸ List.mem_cons_self)⟩
        · exact ih (hsplit ▸ List.mem_cons_of_mem first h)

theorem newline_not_mem_of_mem_splitLines {script line : String} (h : line ∈ splitLines script) :
    '\n' ∉ line.toList := by
  obtain ⟨text, htext, rfl⟩ := List.mem_map.mp h
  obtain ⟨piece, hpiece, rfl⟩ := List.mem_map.mp (List.mem_of_mem_filter htext)
  rw [String.toList_ofList]
  exact fun hmem => not_mem_of_mem_splitOn hpiece (mem_of_mem_trimmed hmem)

theorem splitLines_append (script more : String) :
    splitLines (script ++ "\n" ++ more) = splitLines script ++ splitLines more := by
  have hlist : (script ++ "\n" ++ more).toList = script.toList ++ '\n' :: more.toList := by
    rw [String.toList_append, String.toList_append, List.append_assoc]
    rfl
  rw [splitLines, hlist, List.splitOn_append_cons_self, List.map_append, List.filter_append,
    List.map_append]
  rfl

/-- Scripts on lines of their own have the lines of all of them. -/
theorem splitLines_intercalate (scripts : List String) :
    splitLines ("\n".intercalate scripts) = scripts.flatMap splitLines := by
  induction scripts with
  | nil =>
      rw [String.intercalate_nil]
      rfl
  | cons script rest ih =>
      rw [List.flatMap_cons, ← ih]
      cases rest with
      | nil =>
          rw [String.intercalate_singleton, String.intercalate_nil]
          exact (List.append_nil _).symm
      | cons next more => rw [String.intercalate_cons_cons, splitLines_append]

/-- Lines of a script are the lines of a script of their own. -/
theorem exists_splitLines_of_sublist {script : String} {lines : List String}
    (h : lines.Sublist (splitLines script)) : ∃ shorter, splitLines shorter = lines := by
  obtain ⟨texts, htexts, rfl⟩ := List.sublist_map_iff.mp h
  obtain ⟨pieces, hpieces, rfl⟩ := List.sublist_map_iff.mp (htexts.trans List.filter_sublist)
  have hkept : (pieces.map trimmed).filter (!·.isEmpty) = pieces.map trimmed := by
    apply List.filter_eq_self.mpr
    intro text htext
    exact (List.mem_filter.mp (htexts.subset htext)).2
  have hline : ∀ piece ∈ pieces, '\n' ∉ piece := fun piece hpiece =>
    not_mem_of_mem_splitOn (hpieces.subset hpiece)
  refine ⟨String.ofList (['\n'].intercalate pieces), ?_⟩
  rw [splitLines, String.toList_ofList]
  cases pieces with
  | nil => rfl
  | cons first rest =>
      rw [List.splitOn_intercalate '\n' hline (List.cons_ne_nil first rest), hkept]

end FieldCalculus.Text
