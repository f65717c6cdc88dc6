import Mathlib.Data.List.Nodup
import SheetTables.Grid.Sheet
import SheetTables.Layout.Table

/-! # Settled fields

What it means that a description is accepted: each field is settled by itself, under a name that
none of those before it beside it has, and its children and its later siblings are accepted in
turn. So the fields of a table are numbered in the order in which they are listed, and fields that
stand side by side have different numbers and different paths.
-/

namespace SheetTables
namespace Forest

variable {α : Type}

theorem roots_sublist (f : Forest α) : f.roots.Sublist f.toList := by
  induction f with
  | nil => exact .refl _
  | node a children siblings _ ihs =>
    exact .cons_cons a (ihs.trans (List.sublist_append_right _ _))

end Forest

theorem FieldSpec.settle_eq_ok_iff {f : FieldSpec} {around : Option Surroundings} {id : Nat}
    {children : Forest FieldSpec} {g : Field} :
    f.settle around id children = .ok g ↔ ∃ direction body,
      f.direction.or (around.map (·.direction)) = some direction ∧ f.distance ≠ 0 ∧
      f.body children = .ok body ∧
      g = { id, parent := around.map (·.id), path := f.path around, name := f.name,
            matcher := f.matcher, necessity := f.necessity, direction,
            distance := f.distance, body } := by
  unfold settle
  cases hd : f.direction.or (around.map (·.direction)) with
  | none => simp
  | some direction =>
    by_cases hz : f.distance = 0
    · simp [hz]
    · cases hb : f.body children with
      | error e => simp [hz, Except.map]
      | ok body => simp [hz, Except.map, eq_comm]

theorem settleFields_node_eq_ok_iff {around : Option Surroundings} {id : Nat}
    {seen : List String} {f : FieldSpec} {children siblings : Forest FieldSpec}
    {G : Forest Field} :
    settleFields around id seen (.node f children siblings) = .ok G ↔
      ∃ field inner rest, f.name ∉ seen ∧ f.settle around id children = .ok field ∧
        settleFields (some ⟨id, field.path, field.direction⟩) (id + 1) [] children = .ok inner ∧
        settleFields around (id + 1 + children.size) (f.name :: seen) siblings = .ok rest ∧
        G = .node field inner rest := by
  rw [settleFields]
  by_cases hs : f.name ∈ seen
  · simp [hs]
  · cases hf : f.settle around id children with
    | error e => simp [hs]
    | ok field =>
      cases hi : settleFields (some ⟨id, field.path, field.direction⟩) (id + 1) [] children with
      | error e => simp [hs, hi]
      | ok inner =>
        cases hr : settleFields around (id + 1 + children.size) (f.name :: seen) siblings with
        | error e => simp [hs, hi]
        | ok rest => simp [hs, hi, eq_comm]

theorem settleFields_ids {around : Option Surroundings} {id : Nat} {seen : List String}
    {F : Forest FieldSpec} {G : Forest Field} (h : settleFields around id seen F = .ok G) :
    G.toList.map (·.id) = List.range' id F.size := by
  induction F generalizing around id seen G with
  | nil =>
    cases h
    rfl
  | node f children siblings ihc ihs =>
    obtain ⟨field, inner, rest, _, hf, hi, hr, rfl⟩ := settleFields_node_eq_ok_iff.mp h
    obtain ⟨_, _, _, _, _, rfl⟩ := FieldSpec.settle_eq_ok_iff.mp hf
    simp only [Forest.toList, Forest.size, List.map_cons, List.map_append, ihc hi, ihs hr]
    rw [List.range'_succ, List.range'_append_1]

theorem settleFields_names {around : Option Surroundings} {id : Nat} {seen : List String}
    {F : Forest FieldSpec} {G : Forest Field} (h : settleFields around id seen F = .ok G) :
    (G.roots.map (·.name)).Nodup ∧ ∀ g ∈ G.roots, g.name ∉ seen := by
  induction F generalizing around id seen G with
  | nil =>
    cases h
    simp [Forest.roots]
  | node f children siblings _ ihs =>
    obtain ⟨field, inner, rest, hseen, hf, _, hr, rfl⟩ := settleFields_node_eq_ok_iff.mp h
    obtain ⟨_, _, _, _, _, rfl⟩ := FieldSpec.settle_eq_ok_iff.mp hf
    obtain ⟨hnodup, hrest⟩ := ihs hr
    refine ⟨List.nodup_cons.mpr ⟨?_, hnodup⟩, ?_⟩
    · intro hm
      obtain ⟨g, hg, hname⟩ := List.mem_map.mp hm
      exact hrest g hg (hname ▸ List.mem_cons_self)
    · intro g hg
      rcases List.mem_cons.mp hg with rfl | hg
      · exact hseen
      · exact fun hm => hrest g hg (List.mem_cons_of_mem _ hm)

theorem settleFields_paths {around : Option Surroundings} {id : Nat} {seen : List String}
    {F : Forest FieldSpec} {G : Forest Field} (h : settleFields around id seen F = .ok G) :
    ∀ g ∈ G.roots, ∃ f : FieldSpec, f.name = g.name ∧ g.path = f.path around := by
  induction F generalizing id seen G with
  | nil =>
    cases h
    simp [Forest.roots]
  | node f children siblings _ ihs =>
    obtain ⟨field, inner, rest, _, hf, _, hr, rfl⟩ := settleFields_node_eq_ok_iff.mp h
    obtain ⟨_, _, _, _, _, rfl⟩ := FieldSpec.settle_eq_ok_iff.mp hf
    intro g hg
    rcases List.mem_cons.mp hg with rfl | hg
    · exact ⟨f, rfl, rfl⟩
    · exact ihs hr g hg

theorem settleFields_families {around : Option Surroundings} {id : Nat} {seen : List String}
    {F : Forest FieldSpec} {G : Forest Field} (h : settleFields around id seen F = .ok G) :
    ∀ f kids, (f, kids) ∈ G.families →
      (kids.map (·.name)).Nodup ∧ ∀ k ∈ kids, k.path = f.path ++ "." ++ k.name := by
  induction F generalizing around id seen G with
  | nil =>
    cases h
    simp [Forest.families]
  | node f children siblings ihc ihs =>
    obtain ⟨field, inner, rest, _, _, hi, hr, rfl⟩ := settleFields_node_eq_ok_iff.mp h
    intro g kids hg
    simp only [Forest.families, List.mem_cons, List.mem_append, Prod.mk.injEq] at hg
    rcases hg with ⟨rfl, rfl⟩ | hg | hg
    · refine ⟨(settleFields_names hi).1, fun k hk => ?_⟩
      obtain ⟨spec, hname, hpath⟩ := settleFields_paths hi k hk
      rw [hpath, ← hname]
      rfl
    · exact ihc hi g kids hg
    · exact ihs hr g kids hg

theorem settleFields_distances {around : Option Surroundings} {id : Nat} {seen : List String}
    {F : Forest FieldSpec} {G : Forest Field} (h : settleFields around id seen F = .ok G) :
    ∀ g ∈ G.toList, 0 < g.distance := by
  induction F generalizing around id seen G with
  | nil =>
    cases h
    simp [Forest.toList]
  | node f children siblings ihc ihs =>
    obtain ⟨field, inner, rest, _, hf, hi, hr, rfl⟩ := settleFields_node_eq_ok_iff.mp h
    obtain ⟨_, _, _, hdistance, _, rfl⟩ := FieldSpec.settle_eq_ok_iff.mp hf
    intro g hg
    simp only [Forest.toList, List.mem_cons, List.mem_append] at hg
    rcases hg with rfl | hg | hg
    · exact Nat.pos_of_ne_zero hdistance
    · exact ihc hi g hg
    · exact ihs hr g hg

namespace TableLayout

variable {spec : TableSpec} {layout : TableLayout}

theorem settleFields_of_build (h : spec.build = .ok layout) :
    settleFields none 0 [] spec.fields = .ok layout.forest := by
  unfold TableSpec.build at h
  split at h
  · cases h
  · cases h
  · rename_i hs
    cases h
    exact hs

theorem fields_ids (h : spec.build = .ok layout) :
    layout.fields.map (·.id) = List.range layout.fields.length := by
  have hids := settleFields_ids (settleFields_of_build h)
  have hlen := congrArg List.length hids
  rw [List.length_map, List.length_range'] at hlen
  rw [fields, hids, hlen, List.range_eq_range']

theorem fields_nodup (h : spec.build = .ok layout) : layout.fields.Nodup :=
  List.Nodup.of_map _ (fields_ids h ▸ List.nodup_range)

theorem fields_sorted (h : spec.build = .ok layout) :
    layout.fields.Pairwise fun f g => f.id < g.id := by
  have hids : (layout.fields.map (·.id)).Pairwise (· < ·) := by
    rw [fields_ids h]
    exact List.pairwise_lt_range
  exact List.pairwise_map.mp hids

theorem roots_sorted (h : spec.build = .ok layout) :
    layout.roots.Pairwise fun f g => f.id < g.id :=
  (fields_sorted h).sublist layout.forest.roots_sublist

theorem roots_paths (h : spec.build = .ok layout) : (layout.roots.map (·.path)).Nodup := by
  have hs := settleFields_of_build h
  have hpath : layout.roots.map (·.path) = layout.roots.map (·.name) := by
    refine List.map_congr_left fun g hg => ?_
    obtain ⟨spec, hname, hpath⟩ := settleFields_paths hs g hg
    exact hpath.trans hname
  rw [hpath]
  exact (settleFields_names hs).1

theorem child_path (h : spec.build = .ok layout) {f k : Field} {kids : List Field}
    (hf : (f, kids) ∈ layout.forest.families) (hk : k ∈ kids) :
    k.path = f.path ++ "." ++ k.name :=
  (settleFields_families (settleFields_of_build h) f kids hf).2 k hk

theorem children_paths (h : spec.build = .ok layout) {f : Field} {kids : List Field}
    (hf : (f, kids) ∈ layout.forest.families) : (kids.map (·.path)).Nodup := by
  have hnames := (settleFields_families (settleFields_of_build h) f kids hf).1
  refine List.pairwise_map.mpr ((List.pairwise_map.mp hnames).imp_of_mem ?_)
  intro k l hk hl hne he
  rw [child_path h hf hk, child_path h hf hl] at he
  exact hne (by simpa using he)

theorem distance_pos (h : spec.build = .ok layout) {f : Field} (hf : f ∈ layout.fields) :
    0 < f.distance :=
  settleFields_distances (settleFields_of_build h) f hf

theorem id_ne_anchor (h : spec.build = .ok layout) {f : Field} (hf : f ∈ layout.others.roots) :
    f.id ≠ layout.anchor.id :=
  Nat.ne_of_gt ((List.pairwise_cons.mp (roots_sorted h)).1 f hf)

end TableLayout

def labelled (text : String) : Matcher Cell :=
  ⟨.and, none, .leaf (fun c => c.value == .text text) none .nil⟩

def keyedSpec : TableSpec where
  name := "People"
  fields :=
    let keyed := fun name : String =>
      { name, matcher := labelled name, role := .leaf, direction := some .right,
        data := some { layout := .fixed 1 } : FieldSpec }
    .node (keyed "Age") .nil (.node (keyed "Name") .nil .nil)

def keyedField (id : Nat) (name : String) : Field :=
  { id, parent := none, path := name, name, matcher := labelled name, necessity := .required,
    direction := .right, distance := 1, body := .leaf { layout := .fixed 1 } }

def keyedLayout : TableLayout where
  name := "People"
  necessity := .required
  anchor := keyedField 0 "Age"
  anchorChildren := .nil
  others := .node (keyedField 1 "Name") .nil .nil
  validators := []

theorem keyedSpec_build : keyedSpec.build = .ok keyedLayout := rfl

def keyedColumn (ages names : List Nat) : Sheet :=
  .ofEdits "Sheet1"
    (ages.map (fun row => .push row 0 (.text "Age")) ++
      names.map fun row => .push row 0 (.text "Name"))

end SheetTables
