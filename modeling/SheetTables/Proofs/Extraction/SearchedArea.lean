import SheetTables.Proofs.Extraction.HeadersApart
import SheetTables.Proofs.Layout.Lineages

/-! # The searched area

The roots of a table are looked for in the area, and open runs end at its edge. The children of a
group are looked for wherever the group leads to, so a group at the edge of the area may have
children outside it. That happens exactly where the first match for some child lies outside.
-/

namespace SheetTables

theorem Grid.Shows.meets {g : Grid} (ht : g.Tiled) {area : Range} {c : Cell}
    (h : g.Shows area.Inside c) : area.intersects c.range :=
  Range.intersects_of_contains h.inside (ht.contains_self h.holds)

/-- What of a table keeps to the area in which it was looked for. -/
structure KeepsTo (layout : TableLayout) (g : Grid) (area : Range) (t : Table) : Prop where
  roots : ∀ h ∈ t.headers.roots, area.intersects h.cell.range
  data : ∀ h ∈ t.headers.toList, ∀ data, h.field.body = .leaf data →
    data.layout = .unfixed ∨ data.layout = .mixed → ∀ c ∈ h.data, area.intersects c.range
  headers : (∀ h ∈ t.headers.toList, area.intersects h.cell.range) ↔
    ∀ h ∈ t.headers.toList, h.field.body = .group →
      ∀ fields, (h.field, fields) ∈ layout.forest.families → ∀ f ∈ fields, ∀ k,
        (g.probeAll h.cell h.field.direction h.field.distance).find? (fun k => f.matcher.test k) =
          some k → area.intersects k.range

theorem Forest.family_unique {α : Type} {F : Forest α} (hnodup : F.toList.Nodup) {a : α}
    {kids kids' : List α} (h : (a, kids) ∈ F.families) (h' : (a, kids') ∈ F.families) :
    kids = kids' := by
  rw [← F.families_fst] at hnodup
  exact congrArg Prod.snd (List.inj_on_of_nodup_map hnodup h h' rfl)

namespace Search

variable (s : Search)

theorem Heads.exists_kid_iff {h : Header} {kids : List Header} {fields : List Field}
    (hh : s.Heads h kids fields) {f : Field} {c : Cell} :
    (∃ k ∈ kids, k.field = f ∧ k.cell = c) ↔
      f ∈ fields ∧ s.locateChild h.field h.cell f = some c := by
  have hmem : (f, c) ∈ kids.map (fun k => (k.field, k.cell)) ↔
      f ∈ fields ∧ s.locateChild h.field h.cell f = some c := by
    simp [hh.kids]
  simpa using hmem

theorem roots_meet (ht : s.grid.Tiled) {t : Table} (htable : t ∈ s.tables) {h : Header}
    (hh : h ∈ t.headers.roots) : s.area.intersects h.cell.range := by
  obtain ⟨a, ha, occurrence, rfl⟩ := s.mem_tables htable
  have hmem := List.mem_map_of_mem (f := fun h : Header => (h.field, h.cell)) hh
  rw [s.table_roots] at hmem
  obtain ⟨f, _, hf⟩ := List.mem_filterMap.mp hmem
  obtain ⟨c, hc, he⟩ := Option.map_eq_some_iff.mp hf
  obtain ⟨_, rfl⟩ := Prod.mk.inj he
  have hcandidate := s.locateRoot_mem (s.mem_anchors.mp ha).1 hc
  exact ((Grid.mem_cellsIn ht).mp hcandidate).meets ht

theorem keepsTo {spec : TableSpec} (hb : spec.build = .ok s.layout) (ht : s.grid.Tiled) {t : Table}
    (htable : t ∈ s.tables) : KeepsTo s.layout s.grid s.area t := by
  have hheads := fun h kids (hk : (h, kids) ∈ t.headers.families) =>
    (s.heads_of_mem hb htable hk).2
  constructor
  · exact fun h hh => s.roots_meet ht htable hh
  · intro h hh data hbody hlayout c hc
    obtain ⟨hcell, _, missing, he⟩ := s.header_of_mem ht htable hh
    rw [he] at hc
    exact (s.header_data_admits ht hbody (DataLayout.ne_fixed hlayout) hcell hc).2.area
  · constructor
    · intro hall h hh hbody fields hfields f hf k hk
      obtain ⟨kids, hkids⟩ := Forest.exists_family hh
      obtain ⟨fields', hfields', hheads⟩ := hheads h kids hkids
      obtain rfl := Forest.family_unique (TableLayout.fields_nodup hb) hfields hfields'
      -- The first match is where the child is bound.
      rw [← s.childRegion_group hbody] at hk
      obtain ⟨kid, hkid, _, rfl⟩ := hheads.exists_kid_iff.mpr ⟨hf, hk⟩
      exact hall kid (Forest.mem_toList_of_mem_kids hkids hkid)
    · intro hfirst h hh
      rcases Forest.mem_roots_or_kids hh with hroot | ⟨p, kids, hkids, hh⟩
      · exact s.roots_meet ht htable hroot
      · obtain ⟨fields, hfields, hheads⟩ := hheads p kids hkids
        obtain ⟨hf, hk⟩ := hheads.exists_kid_iff.mp ⟨h, hh, rfl, rfl⟩
        have hp := Forest.mem_toList_of_mem_families hkids
        cases hbody : p.field.body with
        | leaf data => simp [s.locateChild_leaf hbody] at hk
        | group =>
          rw [locateChild, s.childRegion_group hbody] at hk
          exact hfirst p hp hbody fields hfields h.field hf h.cell hk

end Search

/-- The roots of every table and the cells of its open runs meet the area; its other headers do
exactly if the first match for each child of a group does. -/
theorem recognize_keepsTo {spec : TableSpec} {layout : TableLayout} (hb : spec.build = .ok layout)
    (s : Sheet) (criteria : Criteria) : ∀ t ∈ (recognize layout s.grid criteria).1,
      ∃ area, searchArea? s.grid criteria = some area ∧
        KeepsTo layout (criteria.view s.grid) area t := by
  intro t ht
  obtain ⟨area, harea, ht⟩ := mem_recognize ht
  exact ⟨area, harea, (searchIn layout s.grid criteria area).keepsTo hb
    (criteria.tiled_view s.tiled) ht⟩

def pairSpec : TableSpec where
  name := "People"
  fields :=
    let column := fun (name : String) (necessity : Necessity) =>
      { name, matcher := labelled name, role := .leaf, necessity,
        data := some { layout := .fixed 1 } : FieldSpec }
    .node
      { name := "Person", matcher := labelled "Person", role := .group, direction := some .down }
      (.node (column "Name" .required) .nil (.node (column "Age" .optional) .nil .nil)) .nil

def pairLayout : TableLayout :=
  { personLayout with
    anchorChildren :=
      .node (personField 1 "Name" (.fixed 1)) .nil
        (.node { personField 2 "Age" (.fixed 1) with necessity := .optional } .nil .nil) }

theorem pairSpec_build : pairSpec.build = .ok pairLayout := rfl

def pairSheet : Sheet :=
  .ofEdits "Sheet1"
    [.push 0 0 (.text "Person"), .push 1 0 (.text "Name"), .push 1 1 (.text "Age"),
      .push 2 0 (.text "Ann"), .push 2 1 (.text "30"), .merge (.ofCorners 0 0 0 1)]

def firstColumn : Criteria := { range := some (.ofCorners 0 0 2 0) }

/-- Where only the first column is searched, the group still leads to a header in the second. -/
theorem pairSheet_strays :
    pairSpec.build = .ok pairLayout ∧ firstColumn.range = some (.ofCorners 0 0 2 0) ∧
      searchArea? pairSheet.grid firstColumn = some (.ofCorners 0 0 2 0) ∧
      ¬ ∀ t ∈ (recognize pairLayout pairSheet.grid firstColumn).1, ∀ h ∈ t.headers.toList,
        (Range.ofCorners 0 0 2 0).intersects h.cell.range :=
  ⟨pairSpec_build, rfl, by decide, by decide⟩

/-- Where both columns are searched, the first matches for both children lie in the area, and all
headers meet it. -/
theorem recognize_keepsTo_pair :
    pairSpec.build = .ok pairLayout ∧ ∃ area, searchArea? pairSheet.grid {} = some area ∧
      ∃ t ∈ (recognize pairLayout pairSheet.grid {}).1, t.headers.size = 3 ∧
        KeepsTo pairLayout (Criteria.view {} pairSheet.grid) area t := by
  have hsize : (recognize pairLayout pairSheet.grid {}).1.map (·.headers.size) = [3] := by decide
  obtain ⟨t, ht, hthree⟩ := List.mem_map.mp (hsize ▸ List.mem_singleton_self 3)
  obtain ⟨area, harea, hkeeps⟩ := recognize_keepsTo pairSpec_build pairSheet {} t ht
  exact ⟨pairSpec_build, area, harea, t, ht, hthree, hkeeps⟩

end SheetTables
