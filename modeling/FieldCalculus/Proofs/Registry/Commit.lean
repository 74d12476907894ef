import Mathlib.Data.List.Nodup
import FieldCalculus.Registry.Lemmas
/-!
# What a commit does to the views

A registry is determined by its names in order and by what it looks up.  A commit of a
registry's fields into another one is described by these two views: the committed fields
shadow the old ones, and new names follow the old ones in their order.
-/

namespace FieldCalculus.Registry

variable {α : Type}

theorem mem_names_iff_isSome (r : Registry α) (name : String) :
    name ∈ r.names ↔ (r.get? name).isSome := by
  rw [← contains_iff_mem_names]
  rfl

theorem get?_eq_none_iff (r : Registry α) (name : String) :
    r.get? name = none ↔ name ∉ r.names := by
  rw [mem_names_iff_isSome, Option.not_isSome_iff_eq_none]

theorem mem_names_of_get? {r : Registry α} {name : String} {f : EnergyField α}
    (h : r.get? name = some f) : name ∈ r.names := by
  rw [mem_names_iff_isSome, h]
  rfl

theorem exists_get?_of_mem_names {r : Registry α} {name : String} (h : name ∈ r.names) :
    ∃ f, r.get? name = some f := by
  rw [mem_names_iff_isSome] at h
  exact Option.isSome_iff_exists.mp h

theorem eq_of_get?_name {r : Registry α} {a b : String} {f g : EnergyField α}
    (hf : r.get? a = some f) (hg : r.get? b = some g) (h : f.name = g.name) : f = g := by
  rw [name_of_get? hf, name_of_get? hg] at h
  rw [h, hg] at hf
  exact (Option.some.inj hf).symm

/-- A registered field is the one found under its name, since names do not repeat. -/
theorem get?_of_mem_fields {r : Registry α} {f : EnergyField α} (h : f ∈ r.fields) :
    r.get? f.name = some f := by
  have hname : f.name ∈ r.names := List.mem_map_of_mem h
  obtain ⟨g, hg⟩ := exists_get?_of_mem_names hname
  have hsame : g = f :=
    List.inj_on_of_nodup_map r.nodup (mem_fields_of_get? hg) h (name_of_get? hg)
  rw [hg, hsame]

theorem fields_eq_filterMap (r : Registry α) : r.fields = r.names.filterMap r.get? := by
  have hfound : ∀ f ∈ r.fields, r.get? f.name = some f := fun f h => get?_of_mem_fields h
  calc
    r.fields = r.fields.filterMap some := List.filterMap_some.symm
    _ = r.fields.filterMap (fun f => r.get? f.name) :=
      List.filterMap_congr fun f h => (hfound f h).symm
    _ = r.names.filterMap r.get? := by
      rw [names, List.filterMap_map]
      rfl

/-- Registries with the same names in the same order that look up the same fields are equal. -/
theorem ext_get? {r s : Registry α} (hnames : r.names = s.names)
    (hget : ∀ name, r.get? name = s.get? name) : r = s := by
  apply ext_fields
  have hfun : r.get? = s.get? := funext hget
  rw [fields_eq_filterMap r, fields_eq_filterMap s, hnames, hfun]

theorem put_of_get? {r : Registry α} {f : EnergyField α} (h : r.get? f.name = some f) :
    r.put f = r := by
  apply ext_get?
  · rw [names_put, if_pos (mem_names_of_get? h)]
  · intro name
    rw [get?_put]
    split
    · next hname => rw [hname, h]
    · rfl

theorem mem_names_put (r : Registry α) (f : EnergyField α) (name : String) :
    name ∈ (r.put f).names ↔ name ∈ r.names ∨ name = f.name := by
  rw [names_put]
  split
  · next h =>
    constructor
    · exact Or.inl
    · rintro (hname | rfl)
      · exact hname
      · exact h
  · simp

/-! ## New names in the order in which they come first -/

theorem eraseDups_of_nodup {names : List String} (h : names.Nodup) : names.eraseDups = names := by
  induction names with
  | nil => rfl
  | cons name rest ih =>
      obtain ⟨hname, hrest⟩ := List.nodup_cons.mp h
      have hothers : rest.filter (fun other => !other == name) = rest := by
        rw [List.filter_eq_self]
        intro other hother
        simpa using fun e : other = name => hname (e ▸ hother)
      rw [List.eraseDups_cons, hothers, ih hrest]

/-- A loop that stores one field in each round, under a name that only depends on the round. -/
theorem names_foldl {β : Type} {store : Registry α → β → Registry α} (name : β → String)
    (hstore : ∀ r b, (store r b).names =
      if name b ∈ r.names then r.names else r.names ++ [name b])
    (rounds : List β) (r : Registry α) :
    (rounds.foldl store r).names =
      r.names ++ ((rounds.map name).filter (· ∉ r.names)).eraseDups := by
  induction rounds generalizing r with
  | nil => simp
  | cons b rest ih =>
      rw [List.foldl_cons, ih, hstore, List.map_cons]
      by_cases hb : name b ∈ r.names
      · rw [if_pos hb, List.filter_cons_of_neg (by simpa using hb)]
      · rw [if_neg hb, List.filter_cons_of_pos (by simpa using hb), List.eraseDups_cons,
          List.filter_filter, List.append_assoc]
        have hlater : ∀ other, (decide (other ∉ r.names ++ [name b])) =
            (!other == name b && decide (other ∉ r.names)) := by
          intro other
          by_cases hother : other = name b <;> simp [hother]
        simp only [hlater, List.singleton_append]

theorem names_commit (r : Registry α) (fields : List (EnergyField α)) :
    (r.commit fields).names =
      r.names ++ ((fields.map EnergyField.name).filter (· ∉ r.names)).eraseDups :=
  names_foldl EnergyField.name names_put fields r

theorem mem_names_commit {r : Registry α} {fields : List (EnergyField α)} {name : String} :
    name ∈ (r.commit fields).names ↔ name ∈ r.names ∨ ∃ f ∈ fields, f.name = name := by
  rw [names_commit, List.mem_append, List.mem_eraseDups, List.mem_filter, List.mem_map]
  by_cases hname : name ∈ r.names <;> simp [hname]

section

variable (r : Registry α) {f g : EnergyField α} {name : String}

theorem get?_commit_single (hf : f.name = name) : (r.commit [f]).get? name = some f := by
  rw [← hf]
  exact r.get?_put_self f

theorem get?_commit_second (f : EnergyField α) (hg : g.name = name) :
    (r.commit [f, g]).get? name = some g :=
  (r.put f).get?_commit_single hg

theorem get?_commit_first (hf : f.name = name) (hg : name ≠ g.name) :
    (r.commit [f, g]).get? name = some f := by
  rw [commit_cons, commit_cons, commit_nil, get?_put_of_ne _ g hg]
  exact r.get?_commit_single hf

/-- A pair stored under one name may be the same field twice. -/
theorem get?_commit_first_of_same (hf : f.name = name) (hsame : name = g.name → f = g) :
    (r.commit [f, g]).get? name = some f := by
  by_cases hg : name = g.name
  · rw [r.get?_commit_second f hg.symm, hsame hg]
  · exact r.get?_commit_first hf hg

end

/-! ## Committing a registry into another -/

private theorem get?_commit_list (fields : List (EnergyField α)) :
    ∀ (r : Registry α), (fields.map EnergyField.name).Nodup → ∀ name,
      (r.commit fields).get? name = (fields.find? (·.name = name)).or (r.get? name) := by
  induction fields with
  | nil =>
      intro r _ name
      rfl
  | cons f rest ih =>
      intro r hnodup name
      obtain ⟨hfresh, hrest⟩ := List.nodup_cons.mp hnodup
      rw [commit_cons, ih (r.put f) hrest name, get?_put]
      by_cases hname : f.name = name
      · subst hname
        -- no later field has this name, so the one just stored is still there
        have hnone : rest.find? (·.name = f.name) = none := by
          rw [List.find?_eq_none]
          intro g hg hgf
          exact hfresh (List.mem_map.mpr ⟨g, hg, of_decide_eq_true hgf⟩)
        simp [hnone]
      · have hne : ¬ name = f.name := fun e => hname e.symm
        simp [hname, hne]

theorem get?_commit_fields (r s : Registry α) (name : String) :
    (r.commit s.fields).get? name = (s.get? name).or (r.get? name) :=
  get?_commit_list s.fields r s.nodup name

theorem names_commit_fields (r s : Registry α) :
    (r.commit s.fields).names = r.names ++ s.names.filter (· ∉ r.names) := by
  have hnodup : s.names.Nodup := s.nodup
  rw [names_commit, ← names, eraseDups_of_nodup (hnodup.filter _)]

/-- Storing a field before a commit or after it makes no difference. -/
theorem commit_put (r s : Registry α) (f : EnergyField α) :
    r.commit (s.put f).fields = (r.commit s.fields).put f := by
  apply ext_get?
  · rw [names_commit_fields, names_put, names_put, names_commit_fields]
    by_cases hs : f.name ∈ s.names <;> by_cases hr : f.name ∈ r.names <;> simp [hs, hr]
  · intro name
    rw [get?_commit_fields, get?_put, get?_put, get?_commit_fields]
    split <;> rfl

end FieldCalculus.Registry
