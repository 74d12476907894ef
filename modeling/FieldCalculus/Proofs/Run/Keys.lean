import FieldCalculus.Proofs.Run.Verdicts
import Mathlib.Data.List.Induction
import Mathlib.Data.List.Nodup
/-!
# Keys of a result log

A key ends in the number of outcomes before it, so no two entries of a log share a key and
storing an entry never takes the place of an earlier one.
-/

namespace FieldCalculus

variable {α : Type}

namespace Outcome

/-- The word that the keys of each type of outcomes begin with. -/
def keyWords : List (String × String) :=
  [("field_created", "creation"), ("bidirectional", "interaction"),
   ("regenerative", "regenerate"), ("decay", "decay"), ("symbiotic", "symbiosis"),
   ("quantum_entanglement", "quantum"), ("resonance", "resonance"),
   ("phase_transition", "phase"), ("fractal_generation", "fractal"),
   ("spatial_gradient_flow", "spatial"), ("multi_field_network", "network"),
   ("unknown", "unknown"), ("conservation_violation", "error"), ("execution_error", "error")]

theorem lookup_keyWords (o : Outcome α) : keyWords.lookup o.typeName = some o.keyWord := by
  cases o <;> rfl

theorem underscore_not_mem_keyWord (o : Outcome α) : '_' ∉ o.keyWord.toList := by
  cases o <;> simp [keyWord]

theorem underscore_not_mem_number (n : Nat) : '_' ∉ (toString n).toList := by
  rw [Nat.toString_eq_ofList_toDigits, String.toList_ofList]
  exact Nat.underscore_not_in_toDigits

theorem toString_inj {m n : Nat} : toString m = toString n ↔ m = n := by
  refine ⟨fun h => ?_, fun h => by rw [h]⟩
  have hnumber := congrArg (fun text => Nat.ofDigitChars 10 text.toList 0) h
  simpa [Nat.toString_eq_ofList_toDigits] using hnumber

theorem toList_key (o : Outcome α) (n : Nat) :
    (o.key n).toList = o.keyWord.toList ++ '_' :: (toString n).toList := by
  rw [key, String.toList_append, String.toList_append, List.append_assoc]
  rfl

theorem key_ne_empty (o : Outcome α) (n : Nat) : o.key n ≠ "" := by
  intro h
  have hlist := congrArg String.toList h
  rw [toList_key] at hlist
  exact List.append_ne_nil_of_right_ne_nil _ (List.cons_ne_nil _ _) hlist

/-- The word of a key holds no underscore, so the first underscore begins the number. -/
theorem eq_of_key_eq {o o' : Outcome α} {m n : Nat} (h : o.key m = o'.key n) : m = n := by
  have hlist := congrArg String.toList h
  rw [toList_key, toList_key, List.append_cons_inj_of_notMem (underscore_not_mem_keyWord o)
    (underscore_not_mem_number m)] at hlist
  exact toString_inj.mp (String.toList_inj.mp hlist.2.2)

end Outcome

namespace ResultLog

theorem numbered_eq_mapIdx (n : Nat) (outcomes : List (Outcome α)) :
    numbered n outcomes = outcomes.mapIdx fun number o => (o.key (n + number), o) := by
  induction outcomes generalizing n with
  | nil => rfl
  | cons o rest ih =>
      have hshift : ∀ number, n + 1 + number = n + (number + 1) := by omega
      simp only [numbered, ih, List.mapIdx_cons, Nat.add_zero, hshift]

theorem map_snd_numbered (n : Nat) (outcomes : List (Outcome α)) :
    (numbered n outcomes).map Prod.snd = outcomes := by
  induction outcomes generalizing n with
  | nil => rfl
  | cons o rest ih => rw [numbered, List.map_cons, ih]

theorem exists_key_of_mem_numbered {n : Nat} {outcomes : List (Outcome α)} {key : String}
    (h : key ∈ (numbered n outcomes).map Prod.fst) :
    ∃ (o : Outcome α) (m : Nat), n ≤ m ∧ key = o.key m := by
  induction outcomes generalizing n with
  | nil => exact absurd h List.not_mem_nil
  | cons o rest ih =>
      rw [numbered, List.map_cons, List.mem_cons] at h
      rcases h with rfl | h
      · exact ⟨o, n, Nat.le_refl n, rfl⟩
      · obtain ⟨o', m, hm, rfl⟩ := ih h
        exact ⟨o', m, by omega, rfl⟩

theorem nodup_keys_numbered (n : Nat) (outcomes : List (Outcome α)) :
    ((numbered n outcomes).map Prod.fst).Nodup := by
  induction outcomes generalizing n with
  | nil => exact List.nodup_nil
  | cons o rest ih =>
      rw [numbered, List.map_cons, List.nodup_cons]
      refine ⟨?_, ih (n + 1)⟩
      intro hmem
      obtain ⟨o', m, hm, hkey⟩ := exists_key_of_mem_numbered hmem
      have hnumber : n = m := Outcome.eq_of_key_eq hkey
      omega

end ResultLog

namespace KeyOrder

variable {β : Type}

theorem insert_of_not_mem {key : β → String} {entry : β} {entries : List β}
    (h : key entry ∉ entries.map key) : insert key entry entries = entries ++ [entry] := by
  induction entries with
  | nil => rfl
  | cons first rest ih =>
      rw [List.map_cons, List.mem_cons, not_or] at h
      rw [insert, if_neg fun e => h.1 e.symm, ih h.2, List.cons_append]

/-- Entries with keys of their own are all kept, in order. -/
theorem distinct_of_nodup {key : β → String} {entries : List β}
    (h : (entries.map key).Nodup) : distinct key entries = entries := by
  induction entries using List.reverseRecOn with
  | nil => rfl
  | append_singleton entries entry ih =>
      rw [List.map_append, List.nodup_append] at h
      obtain ⟨hfirst, -, hdisjoint⟩ := h
      have hnew : key entry ∉ entries.map key := fun hmem =>
        hdisjoint _ hmem _ (List.mem_singleton_self _) rfl
      have hstep : distinct key (entries ++ [entry]) = insert key entry (distinct key entries) :=
        List.foldl_append
      rw [hstep, ih hfirst, insert_of_not_mem hnew]

end KeyOrder

end FieldCalculus
