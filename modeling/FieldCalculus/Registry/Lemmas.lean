import FieldCalculus.Registry
/-!
# What registry operations do to the views

`names` lists a registry and `get?` looks a name up.  Each operation is described by
what it does to these two, and two registries with the same fields are equal.
-/

namespace FieldCalculus

variable {α : Type}

namespace EnergyField

theorem find?_upsert_self (f : EnergyField α) (fields : List (EnergyField α)) :
    (f.upsert fields).find? (·.name = f.name) = some f := by
  induction fields with
  | nil => simp [upsert]
  | cons g rest ih =>
    by_cases h : g.name = f.name
    · simp [upsert, h]
    · simp [upsert, h, ih]

theorem find?_upsert_of_ne (f : EnergyField α) (fields : List (EnergyField α)) {name : String}
    (h : name ≠ f.name) :
    (f.upsert fields).find? (·.name = name) = fields.find? (·.name = name) := by
  have hf : ¬ f.name = name := fun e => h e.symm
  induction fields with
  | nil => simp [upsert, hf]
  | cons g rest ih =>
    by_cases hg : g.name = f.name
    · simp [upsert, hg, hf]
    · by_cases hgn : g.name = name
      · simp [upsert, hgn, h]
      · simp [upsert, hg, hgn, ih]

end EnergyField

namespace Registry

@[ext] theorem ext_fields {r s : Registry α} (h : r.fields = s.fields) : r = s := by
  cases r
  cases s
  cases h
  rfl

@[simp] theorem names_empty : (empty : Registry α).names = [] := rfl

@[simp] theorem get?_empty (name : String) : (empty : Registry α).get? name = none := rfl

@[simp] theorem length_names (r : Registry α) : r.names.length = r.size := by
  simp [names, size]

theorem names_put (r : Registry α) (f : EnergyField α) :
    (r.put f).names = if f.name ∈ r.names then r.names else r.names ++ [f.name] :=
  EnergyField.map_name_upsert f r.fields

@[simp] theorem get?_put_self (r : Registry α) (f : EnergyField α) :
    (r.put f).get? f.name = some f :=
  EnergyField.find?_upsert_self f r.fields

theorem get?_put_of_ne (r : Registry α) (f : EnergyField α) {name : String}
    (h : name ≠ f.name) : (r.put f).get? name = r.get? name :=
  EnergyField.find?_upsert_of_ne f r.fields h

theorem get?_put (r : Registry α) (f : EnergyField α) (name : String) :
    (r.put f).get? name = if name = f.name then some f else r.get? name := by
  split
  · next h => rw [h, get?_put_self]
  · next h => exact get?_put_of_ne r f h

@[simp] theorem commit_nil (r : Registry α) : r.commit [] = r := rfl

@[simp] theorem commit_cons (r : Registry α) (f : EnergyField α)
    (fields : List (EnergyField α)) : r.commit (f :: fields) = (r.put f).commit fields := rfl

theorem name_of_get? {r : Registry α} {name : String} {f : EnergyField α}
    (h : r.get? name = some f) : f.name = name := by
  simpa using List.find?_some h

theorem mem_fields_of_get? {r : Registry α} {name : String} {f : EnergyField α}
    (h : r.get? name = some f) : f ∈ r.fields :=
  List.mem_of_find?_eq_some h

theorem contains_iff_mem_names (r : Registry α) (name : String) :
    r.contains name = true ↔ name ∈ r.names := by
  simp [contains, get?, names, List.find?_isSome]

end Registry

end FieldCalculus
