import FieldCalculus.Number.FloatScalar
import FieldCalculus.Proofs.Grammar.Forms
/-!
# The order of the rules

No text is recognised by two rules of the grammar.  So the rules can be tried in any order,
with rules that decline every text anywhere among them, and every line is still read as the
same operation.
-/

namespace FieldCalculus

open Text

variable {α : Type}

/-- If whatever a search can find is the same everywhere, the order of the search does not
matter. -/
theorem findSome?_eq_of_perm {β γ : Type} {f : β → Option γ} {l l' : List β} (hperm : l.Perm l')
    (hsame : ∀ a ∈ l, ∀ b ∈ l, ∀ c d, f a = some c → f b = some d → c = d) :
    l.findSome? f = l'.findSome? f := by
  have hfound : ∀ m : List β, (∀ a ∈ m, a ∈ l) → ∀ c,
      m.findSome? f = some c ↔ ∃ a ∈ m, f a = some c := by
    intro m hm c
    constructor
    · exact List.exists_of_findSome?_eq_some
    · rintro ⟨a, ha, hc⟩
      have hsome : (m.findSome? f).isSome = true :=
        List.findSome?_isSome_iff.mpr ⟨a, ha, by rw [hc]; rfl⟩
      obtain ⟨d, hd⟩ := Option.isSome_iff_exists.mp hsome
      obtain ⟨b, hb, hbd⟩ := List.exists_of_findSome?_eq_some hd
      rw [hd, hsame a (hm a ha) b (hm b hb) c d hc hbd]
  apply Option.ext
  intro c
  rw [hfound l (fun _ ha => ha), hfound l' (fun _ ha => hperm.mem_iff.mpr ha)]
  simp only [hperm.mem_iff]

namespace Rule

/-- The rule recognises no text. -/
def Declines (rule : Rule α) : Prop :=
  ∀ text, rule.recognize text = none

theorem declines_declining (id : String) : (declining id : Rule α).Declines := by
  intro text
  rw [recognize]
  exact Option.bind_eq_none_iff.mpr fun _ _ => rfl

/-- What is found among the rules and some that decline is found among the rules. -/
theorem findSome?_append_declining {rules others : List (Rule α)}
    (hothers : ∀ rule ∈ others, rule.Declines) (text : List Char) :
    ((rules ++ others).findSome? fun rule => rule.recognize text) =
      rules.findSome? fun rule => rule.recognize text := by
  have hnone : (others.findSome? fun rule => rule.recognize text) = none :=
    List.findSome?_eq_none_iff.mpr fun rule hrule => hothers rule hrule text
  rw [List.findSome?_append, hnone, Option.or_none]

variable [OfScientific α]

/-- Only one place of the grammar can answer on a text. -/
theorem length_filter_recognize_le (text : List Char) :
    ((Rule.all : List (Rule α)).filter fun rule => (rule.recognize text).isSome).length ≤ 1 := by
  have hnodup : ((Rule.all : List (Rule α)).filter
      fun rule => (rule.recognize text).isSome).Nodup :=
    nodup_ids.of_map.filter _
  have hsame : ∀ rule ∈ (Rule.all : List (Rule α)).filter
      (fun rule => (rule.recognize text).isSome), ∀ rule' ∈ (Rule.all : List (Rule α)).filter
      (fun rule => (rule.recognize text).isSome), rule = rule' := by
    intro rule hrule rule' hrule'
    obtain ⟨hmem, hsome⟩ := List.mem_filter.mp hrule
    obtain ⟨hmem', hsome'⟩ := List.mem_filter.mp hrule'
    obtain ⟨op, hop⟩ := Option.isSome_iff_exists.mp hsome
    obtain ⟨op', hop'⟩ := Option.isSome_iff_exists.mp hsome'
    exact eq_of_recognize hmem hmem' hop hop'
  generalize (Rule.all : List (Rule α)).filter (fun rule => (rule.recognize text).isSome) =
    answering at hnodup hsame
  cases answering with
  | nil => exact Nat.zero_le 1
  | cons rule rest =>
      cases rest with
      | nil => exact Nat.le_refl 1
      | cons rule' rest =>
          have heq := hsame rule (by simp) rule' (by simp)
          exact absurd (heq ▸ List.mem_cons_self) (List.nodup_cons.mp hnodup).1

end Rule

/-- At most one rule of the grammar answers on a line, and with the rules in any order, and
rules that decline at any places among them, the line is read as the same operation. -/
theorem recognize_eq_of_perm [OfScientific α] (line : String) :
    ((Rule.all : List (Rule α)).filter
        fun rule => (rule.recognize (trimmed line.toList)).isSome).length ≤ 1 ∧
      ∀ rules others : List (Rule α), (∀ rule ∈ others, rule.Declines) →
        rules.Perm (Rule.all ++ others) → recognize line rules = recognize line := by
  refine ⟨Rule.length_filter_recognize_le _, ?_⟩
  intro rules others hothers hperm
  have hsame : ∀ rule ∈ Rule.all ++ others, ∀ rule' ∈ Rule.all ++ others,
      ∀ op op' : Operation α, rule.recognize (trimmed line.toList) = some op →
        rule'.recognize (trimmed line.toList) = some op' → op = op' := by
    have hanswers : ∀ rule ∈ Rule.all ++ others, ∀ op : Operation α,
        rule.recognize (trimmed line.toList) = some op → rule ∈ Rule.all := by
      intro rule hrule op hop
      refine (List.mem_append.mp hrule).resolve_right fun hother => ?_
      rw [hothers rule hother] at hop
      cases hop
    intro rule hrule rule' hrule' op op' hop hop'
    obtain rfl : rule = rule' := Rule.eq_of_recognize (hanswers rule hrule op hop)
      (hanswers rule' hrule' op' hop') hop hop'
    exact Option.some.inj (hop.symm.trans hop')
  have hfind := (findSome?_eq_of_perm hperm.symm hsame).symm.trans
    (Rule.findSome?_append_declining hothers _)
  rw [recognize, recognize, hfind]

/-- The grammar backwards, with a declining rule at either end. -/
theorem recognize_eq_of_perm_reversed :
    let first : Rule Float := .declining "FIRST"
    let last : Rule Float := .declining "LAST"
    (∀ rule ∈ [first, last], rule.Declines) ∧
      (first :: (Rule.all.reverse ++ [last])).Perm (Rule.all ++ [first, last]) ∧
      recognize "∇²(a↔b)|c = 1" (first :: (Rule.all.reverse ++ [last])) =
        .interaction ["a", "b"] "c = 1" := by
  intro first last
  have hdecline : ∀ rule ∈ [first, last], rule.Declines := by
    intro rule hrule
    rcases List.mem_pair.mp hrule with rfl | rfl
    · exact Rule.declines_declining _
    · exact Rule.declines_declining _
  have hperm : (first :: (Rule.all.reverse ++ [last])).Perm (Rule.all ++ [first, last]) :=
    calc
      (first :: (Rule.all.reverse ++ [last])).Perm (Rule.all.reverse ++ first :: [last]) :=
        List.perm_middle.symm
      _ |>.Perm (Rule.all ++ [first, last]) := (List.reverse_perm _).append_right _
  refine ⟨hdecline, hperm, ?_⟩
  rw [(recognize_eq_of_perm "∇²(a↔b)|c = 1").2 _ _ hdecline hperm]
  decide +kernel

end FieldCalculus
