import FieldCalculus.EnergyField
/-!
# The registry

The fields of a system under their names, in the order in which the names were first
registered.  Storing a field under a registered name replaces it in place; removing a
name and storing it again moves it to the end.
-/

namespace FieldCalculus

variable {α : Type}

/-- Stores a field in a list of fields, in the place of its namesake if there is one. -/
def EnergyField.upsert (f : EnergyField α) : List (EnergyField α) → List (EnergyField α)
  | [] => [f]
  | g :: rest => if g.name = f.name then f :: rest else g :: f.upsert rest

namespace EnergyField

theorem map_name_upsert (f : EnergyField α) (fields : List (EnergyField α)) :
    (f.upsert fields).map EnergyField.name =
      if f.name ∈ fields.map EnergyField.name then fields.map EnergyField.name
      else fields.map EnergyField.name ++ [f.name] := by
  induction fields with
  | nil => rfl
  | cons g rest ih =>
    by_cases h : g.name = f.name
    · simp [upsert, h]
    · have h' : ¬ f.name = g.name := fun e => h e.symm
      simp only [upsert, h, if_false, List.map_cons, ih, List.mem_cons, h', false_or]
      split <;> rfl

theorem nodup_upsert (f : EnergyField α) {fields : List (EnergyField α)}
    (h : (fields.map EnergyField.name).Nodup) : ((f.upsert fields).map EnergyField.name).Nodup := by
  rw [map_name_upsert]
  split
  · exact h
  · next hf =>
    rw [List.nodup_append]
    refine ⟨h, by simp, ?_⟩
    intro a ha b hb
    rw [List.mem_singleton] at hb
    exact fun e => hf (hb ▸ e ▸ ha)

end EnergyField

/-- The registered fields.  No two of them share a name. -/
structure Registry (α : Type) where
  fields : List (EnergyField α)
  nodup : (fields.map EnergyField.name).Nodup

namespace Registry

/-- The registry without fields. -/
def empty : Registry α := ⟨[], List.nodup_nil⟩

/-- The number of fields. -/
def size (r : Registry α) : Nat := r.fields.length

/-- The registered names in order. -/
def names (r : Registry α) : List String := r.fields.map EnergyField.name

/-- The field with a name. -/
def get? (r : Registry α) (name : String) : Option (EnergyField α) :=
  r.fields.find? (·.name = name)

/-- Whether a name is registered. -/
def contains (r : Registry α) (name : String) : Bool :=
  (r.get? name).isSome

/-- Stores a field under its name. -/
def put (r : Registry α) (f : EnergyField α) : Registry α :=
  ⟨f.upsert r.fields, f.nodup_upsert r.nodup⟩

/-- Stores some fields one after the other. -/
def commit (r : Registry α) (fields : List (EnergyField α)) : Registry α :=
  fields.foldl put r

/-- The registry without a name. -/
def remove (r : Registry α) (name : String) : Registry α where
  fields := r.fields.filter (·.name ≠ name)
  nodup := r.nodup.sublist (List.filter_sublist.map EnergyField.name)

/-- The field with a name, or a new one with the given energy, which is not stored yet. -/
def resolve [Scalar α] (r : Registry α) (name : String) (energy : α) : EnergyField α :=
  (r.get? name).getD (EnergyField.create name energy)

/-- The entangled partner of a field.  A partner that is not registered counts as none, and
so does the empty name. -/
def partner? (r : Registry α) (name : String) : Option (EnergyField α) :=
  match (r.get? name).bind EnergyField.partner with
  | none => none
  | some partner => if partner = "" then none else r.get? partner

end Registry

end FieldCalculus
