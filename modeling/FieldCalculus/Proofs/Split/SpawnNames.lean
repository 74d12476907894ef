import FieldCalculus.Proofs.Binary64.WholeNumbers
import FieldCalculus.Proofs.Operation.Names
import FieldCalculus.Proofs.Run.Keys
import FieldCalculus.Proofs.Text.Cuts
/-!
# Names of spawns

The name of a spawn is read from its end.  Its number and the depth of the split hold no
underscore, so the last two underscores set them apart from the name of the parent, whatever that
is: it may be the name of a spawn itself.
-/

namespace FieldCalculus

open Binary64

namespace EnergyField

section

variable {α : Type} [Scalar α]

theorem toList_spawnName (parent : String) (depth : α) (i : ℕ) :
    (spawnName parent depth i).toList =
      (parent.toList ++ "_fractal".toList ++ '_' :: (Scalar.text depth).toList) ++
        '_' :: (toString i).toList := by
  simp [spawnName]

theorem spawnName_eq_iff {parent other : String} {depth depth' : α} {i j : ℕ}
    (hdepth : '_' ∉ (Scalar.text depth).toList) (hdepth' : '_' ∉ (Scalar.text depth').toList) :
    spawnName parent depth i = spawnName other depth' j ↔
      parent = other ∧ Scalar.text depth = Scalar.text depth' ∧ i = j := by
  rw [← String.toList_inj, toList_spawnName, toList_spawnName,
    Text.append_cons_inj (Outcome.underscore_not_mem_number i)
      (Outcome.underscore_not_mem_number j),
    Text.append_cons_inj hdepth hdepth', List.append_left_inj, String.toList_inj,
    String.toList_inj, String.toList_inj, Outcome.toString_inj, and_assoc]

end

/-- The depths at which there are spawns are written in digits. -/
theorem text_depth {x : Float} {depth : ℕ} (hx : HasValue x depth) (hdepth : depth ≤ 31) :
    Scalar.text x = toString depth := by
  have hdigits : ∀ depth : ℕ, depth ≤ 31 → Notation.shortest (depth : Float) = toString depth := by
    decide +kernel
  calc
    Scalar.text x = Notation.shortest (depth : Float) :=
      hx.shortest_eq hx.natCast (Nat.cast_nonneg depth)
    _ = toString depth := hdigits depth hdepth

theorem spawnName_eq_iff_of_hasValue {parent other : String} {x y : Float} {d e i j : ℕ}
    (hx : HasValue x d) (hy : HasValue y e) (hd : d ≤ 31) (he : e ≤ 31) :
    spawnName parent x i = spawnName other y j ↔ parent = other ∧ d = e ∧ i = j := by
  have hsolid : ∀ {z : Float} {depth : ℕ}, HasValue z depth → depth ≤ 31 →
      '_' ∉ (Scalar.text z).toList := by
    intro z depth hz hdepth
    rw [text_depth hz hdepth]
    exact Outcome.underscore_not_mem_number depth
  have htext : Scalar.text x = Scalar.text y ↔ d = e := by
    rw [text_depth hx hd, text_depth hy he, Outcome.toString_inj]
  rw [spawnName_eq_iff (hsolid hx hd) (hsolid hy he), htext]

end EnergyField

open EnergyField in
/-- Two spawns have the same name only if their parents do, they come from splits to the same
depth, and they have the same place.  So no name is among the spawns of two fields of different
names, nor among those of splits to different depths, however many there are. -/
theorem spawn_names_unambiguous (f g : EnergyField Float) {x y : Float} {d e : ℕ}
    (hx : HasValue x d) (hy : HasValue y e) (hd : d ≤ 31) (he : e ≤ 31) :
    (∀ (count count' : Float) (i j : ℕ), (f.spawn x count i).name = (g.spawn y count' j).name ↔
      f.name = g.name ∧ d = e ∧ i = j) ∧
    (f.name ≠ g.name ∨ d ≠ e →
      (∀ m n : ℕ, List.Disjoint ((List.range m).map (spawnName f.name x))
        ((List.range n).map (spawnName g.name y))) ∧
      ∀ parts ∈ f.spawns? x, ∀ parts' ∈ g.spawns? y,
        List.Disjoint (parts.map (·.name)) (parts'.map (·.name))) := by
  have hnames : ∀ i j : ℕ, spawnName f.name x i = spawnName g.name y j ↔
      f.name = g.name ∧ d = e ∧ i = j := fun _ _ => spawnName_eq_iff_of_hasValue hx hy hd he
  refine ⟨fun _ _ => hnames, fun hapart => ?_⟩
  have hdisjoint : ∀ m n : ℕ, List.Disjoint ((List.range m).map (spawnName f.name x))
      ((List.range n).map (spawnName g.name y)) := by
    intro m n name hname hname'
    obtain ⟨i, _, rfl⟩ := List.mem_map.mp hname
    obtain ⟨j, _, hequal⟩ := List.mem_map.mp hname'
    obtain ⟨hparent, hdepth, _⟩ := (hnames i j).mp hequal.symm
    exact hapart.elim (fun hne => hne hparent) fun hne => hne hdepth
  refine ⟨hdisjoint, fun parts hparts parts' hparts' => ?_⟩
  obtain ⟨m, _, rfl⟩ := Option.map_eq_some_iff.mp hparts
  obtain ⟨n, _, rfl⟩ := Option.map_eq_some_iff.mp hparts'
  rw [List.map_map, List.map_map]
  exact hdisjoint m n

/-- A field, and one with the name of a spawn of it that is split to the same depth. -/
theorem spawn_names_unambiguous_of_spawn :
    let f : EnergyField Float := EnergyField.create "a_1"
    let g : EnergyField Float := EnergyField.create "a_1_fractal_3_1"
    let depth : Float := (3 : ℕ)
    HasValue depth (3 : ℕ) ∧ 3 ≤ 31 ∧ (f.name ≠ g.name ∨ 3 ≠ 3) ∧
      List.Disjoint ((List.range 8).map (EnergyField.spawnName f.name depth))
        ((List.range 8).map (EnergyField.spawnName g.name depth)) := by
  intro f g depth
  have hvalue : HasValue depth (3 : ℕ) := hasValue_natCast (by norm_num)
  have hdepth : 3 ≤ 31 := by decide
  have hapart : f.name ≠ g.name ∨ 3 ≠ 3 := Or.inl (by decide +kernel)
  have hnames := spawn_names_unambiguous f g hvalue hvalue hdepth hdepth
  exact ⟨hvalue, hdepth, hapart, (hnames.2 hapart).1 8 8⟩

end FieldCalculus
