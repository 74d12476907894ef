import FieldCalculus.Proofs.Grammar.Forms
import FieldCalculus.Proofs.Text.Lines
/-!
# The names of a line

Every rule takes the names of its operation out of the line: a name has no blanks at its ends
and no character that the line does not have.
-/

namespace FieldCalculus

open Scan Text

/-- A name as it can be read off a text. -/
structure NameIn (text : List Char) (name : String) : Prop where
  trim_eq : trim name = name
  mem_text : ∀ c ∈ name.toList, c ∈ text

theorem Gives.nameIn {text piece : List Char} {n : String} (h : Gives piece n)
    (hpiece : piece ⊆ text) : NameIn text n := by
  obtain rfl := gives_iff.mp h
  constructor
  · rw [trim, nameOf, String.toList_ofList, trimmed_trimmed]
  · intro c hc
    rw [nameOf, String.toList_ofList] at hc
    exact hpiece (mem_of_mem_trimmed hc)

theorem Lists.nameIn {text body : List Char} {operator : Char} {names : List String}
    (h : Lists operator body names) (hbody : body ⊆ text) {n : String} (hn : n ∈ names) :
    NameIn text n := by
  induction h with
  | last _ hname =>
      rw [List.mem_singleton.mp hn]
      exact hname.nameIn hbody
  | next _ hname _ ih =>
      rcases List.mem_cons.mp hn with rfl | hn
      · exact hname.nameIn fun c hc => hbody (List.mem_append_left _ hc)
      · exact ih (fun c hc => hbody (List.mem_append_right _ (List.mem_cons_of_mem _ hc))) hn

theorem Operands.nameIn {text a b : List Char} {separator : Char} {x y n : String}
    (h : Operands separator a b x y) (ha : a ⊆ text) (hb : b ⊆ text) (hn : n ∈ [x, y]) :
    NameIn text n := by
  rcases List.mem_pair.mp hn with rfl | rfl
  · exact h.first_gives.nameIn ha
  · exact h.second_gives.nameIn hb

theorem body_subset_of_constrained {text body c : List Char} (h : Constrained text body c) :
    body ⊆ text := by
  obtain ⟨f, rest, _, rfl, _⟩ := h
  intro d hd
  simp [hd]

variable {α : Type} [OfScientific α]

theorem Form.nameIn_fields {text : List Char} {op : Operation α} (h : Form text op) {n : String}
    (hn : n ∈ op.fields) : NameIn text n := by
  cases h with
  | entangle hab | resonance hab | spatialFlow hab | symbiosis hab =>
      exact hab.nameIn (fun c hc => by simp [hc]) (fun c hc => by simp [hc]) hn
  | phaseTransition hab =>
      rw [List.mem_singleton.mp hn]
      exact hab.first_gives.nameIn fun c hc => by simp [hc]
  | fractalSpawn _ _ _ hx | regenerate _ _ hx | decay _ _ hx =>
      rw [List.mem_singleton.mp hn]
      exact hx.nameIn fun c hc => by simp [hc]
  | network hbody hnames | interaction _ hbody _ hnames | unidirectionalFlow _ hbody _ _ hnames =>
      have hsubset := body_subset_of_constrained hbody
      exact hnames.nameIn (fun c hc => List.mem_append_right _ (hsubset hc)) hn
  | creation hword =>
      rw [List.mem_singleton.mp hn]
      exact (gives_of_word hword).nameIn fun c hc => by simp [hc]

theorem Form.creation_name_ne_empty {text : List Char} {n : String} {energy : α}
    (h : Form text (.creation n energy)) : n ≠ "" := by
  cases h with
  | creation hword => exact fun hempty => hword.1 (hempty ▸ rfl)

theorem nameIn_of_recognize {line : String} {op : Operation α} (h : recognize line = op)
    {n : String} (hn : n ∈ op.fields) : NameIn line.toList n := by
  have hknown : op.kind ≠ .unknown := by
    intro hunknown
    cases op <;> cases hunknown
    cases hn
  obtain ⟨htrim, hmem⟩ := ((recognize_eq_iff_of_known hknown).mp h).nameIn_fields hn
  exact ⟨htrim, fun c hc => mem_of_mem_trimmed (hmem c hc)⟩

theorem creation_name_ne_empty_of_recognize {line : String} {n : String} {energy : α}
    (h : recognize line = .creation n energy) : n ≠ "" :=
  ((recognize_eq_iff_of_known (by nofun)).mp h).creation_name_ne_empty

end FieldCalculus
