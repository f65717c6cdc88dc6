import SheetTables.Proofs.Extraction.Headers
import SheetTables.Proofs.Extraction.Walks
import SheetTables.Proofs.Layout.Settling

/-! # Trees of headers

The headers of a table make a forest like that of its fields, less what is not found. At each
group it is settled by the cells that the group leads to alone which of its children are bound
and which are missed; what hangs off one of them has no part in it.
-/

namespace SheetTables

/-- A group with the headers found in its region. -/
structure GroupBound (region : List Cell) (h : Header) (kids : List Header) (fields : List Field) :
    Prop where
  dataless : h.data = []
  paths : ∀ f ∈ fields, f.path = h.path ++ "." ++ f.name
  nowhere : region = [] → kids = [] ∧ h.problems = [.inconsistentGeometry h.cell.reference
    (.noCell h.cell.reference h.field.direction h.field.distance)]
  bound : region ≠ [] → kids.map (fun k => (k.field, k.cell)) =
    fields.filterMap fun f => (region.find? fun c => f.matcher.test c).map fun c => (f, c)
  missed : region ≠ [] → h.problems =
    (fields.filter fun f => f.necessity.isRequired && !region.any fun c => f.matcher.test c).map
      fun f => .headerNotFound f.path
  once : region ≠ [] → ∀ f ∈ fields, h.problems.count (.headerNotFound f.path) =
    if f.necessity = .required ∧ ∀ c ∈ region, ¬ f.matcher.test c then 1 else 0

/-- A leaf, which has data unless its origin cannot be told. -/
structure LeafBound (g : Grid) (h : Header) (kids : List Header) : Prop where
  childless : kids = []
  single : h.problems.length ≤ 1
  astray : ∀ e, g.probe h.cell h.field.direction h.field.distance = .error e →
    h.data = [] ∧ h.problems = [.inconsistentGeometry h.cell.reference e]

theorem Necessity.isRequired_iff {n : Necessity} : n.isRequired ↔ n = .required := by
  cases n <;> simp [isRequired]

namespace Search

variable (s : Search)

theorem childRegion_group {f : Field} (hf : f.body = .group) (c : Cell) :
    s.childRegion f c = s.grid.probeAll c f.direction f.distance := by
  simp [childRegion, hf]

theorem locateChild_leaf {f : Field} {data : DataSpec} (hf : f.body = .leaf data) (c : Cell)
    (child : Field) : s.locateChild f c child = none := by
  simp [locateChild, childRegion, hf]

theorem locateChild_eq_none_iff {f child : Field} {c : Cell} :
    s.locateChild f c child = none ↔ ∀ k ∈ s.childRegion f c, ¬ child.matcher.test k :=
  List.find?_eq_none

theorem locateChild_matches {f child : Field} {c k : Cell}
    (h : s.locateChild f c child = some k) : child.matcher.test k := by
  unfold locateChild at h
  exact List.find?_some h

theorem locateRoot_matches {candidates anchors : List Cell} {occurrence : Nat} {a c : Cell}
    {f : Field} (hf : f.id ≠ s.layout.anchor.id)
    (h : s.locateRoot candidates anchors occurrence a f = some c) : f.matcher.test c := by
  rw [locateRoot, if_neg hf] at h
  obtain ⟨i, hi⟩ := leastBy_eq_some_iff.mp h
  have hmem := (List.mem_filter.mp (List.mem_of_getElem? hi.mem)).2
  exact (Bool.and_eq_true_iff.mp hmem).1

theorem header_leaf_problems {f : Field} {data : DataSpec} (hf : f.body = .leaf data) (c : Cell)
    (missing : List Problem) : (s.header f c missing).problems.length ≤ 1 := by
  cases hp : s.grid.probe c f.direction f.distance with
  | error e => simp [(s.header_astray hf hp missing).2]
  | ok origin =>
    rw [(s.header_run hf hp missing).2]
    exact (s.run_walks f.direction data origin).single

theorem filterMap_absence {locate : Field → Option Cell} (fields : List Field) :
    fields.filterMap (absence locate) =
      (fields.filter fun f => (locate f).isNone && f.necessity.isRequired).map
        fun f => .headerNotFound f.path := by
  rw [← List.filterMap_eq_map, List.filterMap_filter]
  refine List.filterMap_congr fun f _ => ?_
  simp [absence]

variable {s} {h : Header} {kids : List Header} {fields : List Field}

theorem Heads.leafBound (hh : s.Heads h kids fields) {data : DataSpec}
    (hf : h.field.body = .leaf data) : LeafBound s.grid h kids := by
  have hkids := hh.kids
  constructor
  · simpa [s.locateChild_leaf hf] using hkids
  · rw [hh.header]
    exact s.header_leaf_problems hf _ _
  · intro e he
    have hastray := s.header_astray hf he
      (fields.filterMap (absence (s.locateChild h.field h.cell)))
    rwa [← hh.header] at hastray

theorem Heads.groupBound (hh : s.Heads h kids fields) (hf : h.field.body = .group)
    (hpath : ∀ f ∈ fields, f.path = h.path ++ "." ++ f.name)
    (hpaths : (fields.map (·.path)).Nodup) :
    GroupBound (s.grid.probeAll h.cell h.field.direction h.field.distance) h kids fields := by
  have hkids := hh.kids
  obtain ⟨hdata, hproblems⟩ := s.header_group hf h.cell
    (fields.filterMap (absence (s.locateChild h.field h.cell)))
  rw [← hh.header] at hdata hproblems
  rw [← s.childRegion_group hf]
  constructor
  · exact hdata
  · exact hpath
  · intro hnil
    have hnone : ∀ f, s.locateChild h.field h.cell f = none := by
      simp [locateChild, hnil]
    refine ⟨by simpa [hnone] using hkids, ?_⟩
    simpa [hnil] using hproblems
  · intro _
    exact hkids
  · intro hne
    rw [hproblems, if_neg (by simpa using hne), filterMap_absence]
    refine congrArg (List.map _) (List.filter_congr fun f _ => ?_)
    rw [Bool.and_comm, locateChild, ← Option.not_isSome, List.isSome_find?]
  · intro hne f hf
    rw [hproblems, if_neg (by simpa using hne), count_absence hpaths _ hf]
    simp only [locateChild_eq_none_iff, Necessity.isRequired_iff, and_comm]

variable (s) {spec : TableSpec} {t : Table} (hb : spec.build = .ok s.layout) (ht : t ∈ s.tables)
include hb ht

theorem headers_sorted : t.headers.toList.Pairwise fun h k => h.field.id < k.field.id := by
  obtain ⟨a, _, occurrence, rfl⟩ := s.mem_tables ht
  have hsorted := (TableLayout.fields_sorted hb).sublist
    (s.bind_fields_sublist (s.locateRoot s.candidates s.anchors occurrence a) s.layout.forest)
  rw [List.pairwise_map] at hsorted
  exact hsorted

theorem heads_of_mem (hk : (h, kids) ∈ t.headers.families) :
    h.field.matcher.test h.cell ∧
      ∃ fields, (h.field, fields) ∈ s.layout.forest.families ∧ s.Heads h kids fields := by
  obtain ⟨a, ha, occurrence, rfl⟩ := s.mem_tables ht
  have hroots : ∀ f ∈ s.layout.forest.roots, ∀ c,
      s.locateRoot s.candidates s.anchors occurrence a f = some c → f.matcher.test c := by
    intro f hf c hc
    rcases List.mem_cons.mp hf with rfl | hf
    · rw [locateRoot_anchor] at hc
      exact Option.some.inj hc ▸ (s.mem_anchors.mp ha).2
    · exact s.locateRoot_matches (TableLayout.id_ne_anchor hb hf) hc
  exact s.mem_families_bind (P := fun f c => f.matcher.test c)
    (fun f c _ child k => s.locateChild_matches) hroots hk

end Search

/-- Every table has each field at most once, at a cell that the field matches; below a header
are the headers of those of its children that are found, and none below a leaf. -/
theorem recognize_headerTrees {spec : TableSpec} {layout : TableLayout}
    (hb : spec.build = .ok layout) (s : Sheet) (criteria : Criteria) :
    let g := criteria.view s.grid
    ∀ t ∈ (recognize layout s.grid criteria).1,
      (t.headers.toList.Pairwise fun h k => h.field.id < k.field.id) ∧
      (∀ h ∈ t.headers.toList, h.field.matcher.test h.cell) ∧
      ∀ h kids, (h, kids) ∈ t.headers.families →
        ∃ fields, (h.field, fields) ∈ layout.forest.families ∧
          match h.field.body with
          | .group => GroupBound (g.probeAll h.cell h.field.direction h.field.distance) h kids fields
          | .leaf _ => LeafBound g h kids := by
  intro g t ht
  obtain ⟨area, _, ht⟩ := mem_recognize ht
  let search := searchIn layout s.grid criteria area
  -- What a group or a leaf has is read off its own family; no other header is looked at.
  have hheads := fun h kids (hk : (h, kids) ∈ t.headers.families) =>
    search.heads_of_mem hb ht hk
  refine ⟨search.headers_sorted hb ht, ?_, ?_⟩
  · intro h hh
    obtain ⟨kids, hk⟩ := Forest.exists_family hh
    exact (hheads h kids hk).1
  · intro h kids hk
    obtain ⟨_, fields, hf, hh⟩ := hheads h kids hk
    refine ⟨fields, hf, ?_⟩
    cases hbody : h.field.body with
    | group =>
      exact hh.groupBound hbody (fun f hk => TableLayout.child_path hb hf hk)
        (TableLayout.children_paths hb hf)
    | leaf data => exact hh.leafBound hbody

def personSpec : TableSpec where
  name := "People"
  fields :=
    let column := fun (name : String) (layout : DataLayout) =>
      { name, matcher := labelled name, role := .leaf, data := some { layout } : FieldSpec }
    .node { name := "Person", matcher := labelled "Person", role := .group, direction := some .down }
      (.node (column "Name" (.fixed 1)) .nil
        (.node (column "Email" .unfixed) .nil (.node (column "Age" .unfixed) .nil .nil)))
      .nil

def personField (id : Nat) (name : String) (layout : DataLayout) : Field :=
  { id, parent := some 0, path := "Person" ++ "." ++ name, name, matcher := labelled name,
    necessity := .required, direction := .down, distance := 1, body := .leaf { layout } }

def personLayout : TableLayout where
  name := "People"
  necessity := .required
  anchor :=
    { id := 0, parent := none, path := "Person", name := "Person", matcher := labelled "Person",
      necessity := .required, direction := .down, distance := 1, body := .group }
  anchorChildren :=
    .node (personField 1 "Name" (.fixed 1)) .nil
      (.node (personField 2 "Email" .unfixed) .nil (.node (personField 3 "Age" .unfixed) .nil .nil))
  others := .nil
  validators := []

theorem personSpec_build : personSpec.build = .ok personLayout := rfl

/-- A header over two columns, of which the second has no value in its second row. -/
def personSheet : Sheet :=
  .ofEdits "Sheet1"
    [.merge (.ofCorners 0 0 0 1), .push 0 0 (.text "Person"), .push 1 0 (.text "Name"),
      .push 1 1 (.text "Age"), .push 2 0 (.text "Ann"), .push 2 1 (.text "30"),
      .push 4 1 (.text "25")]

def personHeader : Header :=
  { field := personLayout.anchor, cell := personSheet.grid.cellAt 0 0
    problems := [.headerNotFound "Person.Email"] }

def nameHeader : Header :=
  { field := personField 1 "Name" (.fixed 1), cell := personSheet.grid.cellAt 1 0
    data := [personSheet.grid.cellAt 2 0] }

def ageHeader : Header :=
  { field := personField 3 "Age" .unfixed, cell := personSheet.grid.cellAt 1 1
    data := [2, 3, 4].map fun row => personSheet.grid.cellAt row 1 }

theorem personHeaders : (recognize personLayout personSheet.grid {}).1.map (·.headers) =
    [.node personHeader (.node nameHeader .nil (.node ageHeader .nil .nil)) .nil] := rfl

/-- The child that is missed takes nothing from those before and after it. -/
theorem recognize_headerTrees_person :
    let g := ({} : Criteria).view personSheet.grid
    let kids := [nameHeader, ageHeader]
    personSpec.build = .ok personLayout ∧ g.probeAll personHeader.cell .down 1 ≠ [] ∧
      ∃ t ∈ (recognize personLayout personSheet.grid {}).1,
        t.headers.toList = personHeader :: kids ∧
        (t.headers.toList.Pairwise fun h k => h.field.id < k.field.id) ∧
        (∃ fields, GroupBound (g.probeAll personHeader.cell .down 1) personHeader kids fields) ∧
        LeafBound g ageHeader [] := by
  intro g kids
  obtain ⟨t, hmem, ht⟩ := List.mem_map.mp (personHeaders ▸ List.mem_singleton_self _)
  obtain ⟨hsorted, _, hfamilies⟩ := recognize_headerTrees personSpec_build personSheet {} t hmem
  have hfamily : t.headers.families = [(personHeader, kids), (nameHeader, []), (ageHeader, [])] :=
    congrArg Forest.families ht
  obtain ⟨fields, _, hgroup⟩ := hfamilies personHeader kids (by simp [hfamily])
  obtain ⟨_, _, hleaf⟩ := hfamilies ageHeader [] (by simp [hfamily])
  have hlist : t.headers.toList = personHeader :: kids := congrArg Forest.toList ht
  exact ⟨personSpec_build, by decide, t, hmem, hlist, hsorted, ⟨fields, hgroup⟩, hleaf⟩

end SheetTables
