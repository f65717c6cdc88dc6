import SheetTables.Proofs.Extraction.MovedResults

/-! # Relocation

The tables of a moved sheet are the tables of the sheet, moved. What is found depends on where
cells lie to each other, and not on where they lie, if the layout leads down and to the right only
and looks at values; and what lies past the used area is the same everywhere, up to the last row
and column.
-/

namespace SheetTables

variable {m : Offset}

/-- None of the steps that lead from a header to its data or children, or along data of fixed
length, is cut off by the last row or column once it is moved. Open runs stay within the area. -/
structure Header.Keeps (m : Offset) (g : Grid) (h : Header) : Prop where
  steps : ∀ n < h.field.distance, ∀ c ∈ g.probeAll h.cell h.field.direction n,
    h.field.direction.Keeps m c.range
  data : ∀ data count, h.field.body = .leaf data → data.layout = .fixed count →
    ∀ c ∈ h.data.take (count - 1), h.field.direction.Keeps m c.range

theorem Grid.probe_moved {g g' : Grid} (h : g.MovesTo m g') {d : Direction} (hd : d.Forward)
    {c : Cell} {n : Nat} (hc : ∀ i < n, ∀ k ∈ g.probeAll c d i, d.Keeps m k.range) :
    (∃ k, g.probe c d n = .ok k ∧ g'.probe (c.moved m) d n = .ok (k.moved m)) ∨
      ∃ e e', g.probe c d n = .error e ∧ g'.probe (c.moved m) d n = .error e' ∧ e.Moved m e' := by
  unfold probe
  rw [probeAll_moved h hd hc]
  rcases g.probeAll c d n with _ | ⟨a, _ | ⟨b, rest⟩⟩
  · exact Or.inr ⟨_, _, rfl, rfl, .noCell c.range d n⟩
  · exact Or.inl ⟨a, rfl, rfl⟩
  · refine Or.inr ⟨_, _, rfl, rfl, ?_⟩
    simp only [List.map_cons, List.length_cons, List.length_map]
    exact .ambiguous c.range d n _

namespace Search

def moved (m : Offset) (s : Search) (g : Grid) : Search where
  grid := g
  area := s.area.moved m
  criteria := s.criteria.moved m
  layout := s.layout

@[simp] theorem moved_grid (s : Search) (g : Grid) : (s.moved m g).grid = g := rfl

variable {s : Search} {g : Grid} (h : s.grid.MovesTo m g)
include h

theorem stepsAlike_moved {d : Direction} (hd : d.Forward) {c : Cell} (hc : d.Keeps m c.range) :
    StepsAlike s (s.moved m g) (.moved m) (Problem.Moved m) d c := by
  have hfirst : ∀ i < 1, ∀ k ∈ s.grid.probeAll c d i, d.Keeps m k.range := by
    intro i hi k hk
    obtain rfl := Nat.lt_one_iff.mp hi
    exact List.mem_singleton.mp hk ▸ hc
  rcases Grid.probe_moved h hd hfirst with ⟨k, hp, hp'⟩ | ⟨e, e', hp, hp', he⟩
  · exact .ok hp hp'
  · exact .error hp hp' (.inconsistentGeometry c.range he)

theorem childRegion_moved {f : Field} (hf : f.direction.Forward) {c : Cell}
    (hc : ∀ n < f.distance, ∀ k ∈ s.grid.probeAll c f.direction n, f.direction.Keeps m k.range) :
    (s.moved m g).childRegion f (c.moved m) = (s.childRegion f c).map (.moved m) := by
  unfold childRegion
  cases f.body with
  | group => exact Grid.probeAll_moved h hf hc
  | leaf data => rfl

variable (hl : s.layout.Relative)
include hl

theorem mirrors_moved
    (hkeeps : ∀ P ∈ s.placements, ∀ p ∈ P.1.toList, (s.headerAt p).Keeps m s.grid) :
    s.Mirrors (s.moved m g) id (.moved m) where
  forest := (Forest.map_id' _).symm
  number _ := rfl
  candidates := Grid.cellsIn_moved h s.area
  test f hf _ := hl.matcher f hf rfl
  distance a c := a.range.cornerDistance_moved c.range
  region P hP p hp := by
    have hsteps := (hkeeps P hP p hp).steps
    rw [headerAt_field, headerAt_cell] at hsteps
    exact childRegion_moved h (hl.forward _ (s.field_of_mem_placements hP p hp)) hsteps

omit h in
theorem boundsAlike_moved : BoundsAlike s (s.moved m g) (.moved m) where
  maxRun := rfl
  endAtEmptyCell := rfl
  isEmpty _ := rfl
  isHeader := isHeader_map (List.map_id _).symm fun f hf _ => hl.matcher f hf rfl
  meets c := s.area.intersects_moved c.range
  border d c := d.isBorder_moved c.range s.area
  room d c := by
    cases d <;> simp only [room, moved, Range.moved, Cell.moved_range, Nat.add_sub_add_right]

-- Of the steps that are made here, those of open runs stay in the area, which is addressed.
variable (harea : (s.area.moved m).Addressed)
include harea

theorem run_moved {f : Field} (hf : f ∈ s.layout.fields) {data : DataSpec}
    (hbody : f.body = .leaf data) {c : Cell}
    (hfixed : ∀ count, data.layout = .fixed count →
      ∀ k ∈ (s.run f.direction data c).1.take (count - 1), f.direction.Keeps m k.range) :
    RunsAlike (.moved m) (Problem.Moved m) (s.run f.direction data c)
      ((s.moved m g).run f.direction data (c.moved m)) := by
  have hd := hl.forward f hf
  refine run_alike (boundsAlike_moved hl) rfl (fun k => ?_) ?_ ?_
  · cases hb : data.boundary with
    | none => rfl
    | some b => exact hl.boundary f hf data hbody b hb rfl
  · exact fun count hcount k hk => stepsAlike_moved h hd (hfixed count hcount k hk)
  · exact fun k _ hborder =>
      stepsAlike_moved h hd (Direction.keeps_of_not_isBorder harea hborder)

theorem header_moved {f : Field} (hf : f ∈ s.layout.fields) {c : Cell} {missing : List Problem}
    (hmissing : List.Forall₂ (Problem.Moved m) missing missing)
    (hkeeps : (s.header f c missing).Keeps m s.grid) :
    (s.header f c missing).Moved m ((s.moved m g).header f (c.moved m) missing) := by
  have hsteps := hkeeps.steps
  have hdata := hkeeps.data
  rw [header_field, header_cell] at hsteps
  rw [header_field] at hdata
  cases hb : f.body with
  | group =>
    have hregion := childRegion_moved h (hl.forward f hf) hsteps
    unfold header
    simp only [hb, hregion, List.isEmpty_map]
    refine ⟨rfl, rfl, rfl, ?_, fun _ => .none⟩
    split
    · exact .cons (.inconsistentGeometry c.range (.noCell c.range _ _)) .nil
    · exact hmissing
  | leaf data =>
    unfold header at hdata ⊢
    simp only [hb, leafHeader] at hdata ⊢
    rcases Grid.probe_moved h (hl.forward f hf) hsteps with
      ⟨origin, hp, hp'⟩ | ⟨e, e', hp, hp', he⟩
    · simp only [hp] at hdata
      simp only [hp, moved_grid, hp']
      have hrun := run_moved h hl harea hf hb (c := origin) fun count => hdata data count rfl
      refine ⟨rfl, rfl, hrun.cells, hrun.problems, fun i => ?_⟩
      simp only [Header.mismatch?, hrun.cells]
      exact mismatches_moved data _ i
    · simp only [hp, moved_grid, hp']
      exact ⟨rfl, rfl, rfl, .cons (.inconsistentGeometry c.range he) .nil, fun _ => .none⟩

theorem tables_moved (hkeeps : ∀ t ∈ s.tables, ∀ h ∈ t.headers.toList, h.Keeps m s.grid) :
    List.Forall₂ (Table.Moved m) s.tables (s.moved m g).tables := by
  have hplaced : ∀ P ∈ s.placements, ∀ p ∈ P.1.toList, (s.headerAt p).Keeps m s.grid := by
    intro P hP p hp
    refine hkeeps (s.tableOf P) ?_ _ (mem_tableOf_headers.mpr ⟨p, hp, rfl⟩)
    rw [tables_eq_placements]
    exact List.mem_map_of_mem hP
  rw [tables_eq_placements, tables_eq_placements, (mirrors_moved h hl hplaced).placements,
    List.map_map]
  refine forall₂_map_same fun P hP => ?_
  have hfields := s.field_of_mem_placements hP
  simp only [Function.comp_apply, tableOf, Forest.map_map, List.map_id]
  refine assemble_moved hl (Forest.forall₂_map_map fun p hp => ?_) ?_ (lacks_moved _)
  · have hheader := header_moved h hl harea (hfields p hp) (lacks_moved p.absent)
      (hplaced P hP p hp)
    simpa only [headerAt, Placed.map, id_eq, List.map_id] using hheader
  · intro k hk
    obtain ⟨p, hp, rfl⟩ := mem_tableOf_headers.mp hk
    rw [headerAt_field]
    exact hfields p hp

end Search

section Reading

variable {g g' : Grid} (h : g.MovesTo m g')
include h

theorem searchArea?_moved (criteria : Criteria) :
    searchArea? g' (criteria.moved m) = (searchArea? g criteria).map (.moved m) := by
  unfold searchArea?
  rw [h.extent]
  cases g.extent? with
  | none => rfl
  | some extent =>
    cases hr : criteria.range with
    | none => simp [Criteria.moved, hr]
    | some range => simp [Criteria.moved, hr, Range.intersection?_moved]

variable {criteria : Criteria}
  (harea : ∀ area, searchArea? g' (criteria.moved m) = some area → area.Addressed)
include harea

theorem recognize_moved {layout : TableLayout} (hl : layout.Relative)
    (hkeeps : ∀ t ∈ (recognize layout g criteria).1, ∀ h ∈ t.headers.toList,
      h.Keeps m (criteria.view g)) :
    List.Forall₂ (Table.Moved m) (recognize layout g criteria).1
        (recognize layout g' (criteria.moved m)).1 ∧
      List.Forall₂ (Problem.Moved m) (recognize layout g criteria).2
        (recognize layout g' (criteria.moved m)).2 := by
  have htables : List.Forall₂ (Table.Moved m) (recognize layout g criteria).1
      (recognize layout g' (criteria.moved m)).1 := by
    rw [searchArea?_moved h] at harea
    rw [recognize_fst] at hkeeps
    rw [recognize_fst, recognize_fst, searchArea?_moved h]
    cases ha : searchArea? g criteria with
    | none => exact .nil
    | some area =>
      rw [ha] at hkeeps harea
      exact Search.tables_moved (s := searchIn layout g criteria area) (h.view criteria) hl
        (harea _ rfl) hkeeps
  refine ⟨htables, ?_⟩
  have hnil : (recognize layout g' (criteria.moved m)).1 = [] ↔
      (recognize layout g criteria).1 = [] := by
    rw [← List.isEmpty_iff, isEmpty_alike htables, List.isEmpty_iff]
  have hproblems : (recognize layout g' (criteria.moved m)).2 =
      (recognize layout g criteria).2 := by
    simp only [recognize_snd, ← recognize_fst_eq_nil, hnil, h.extent, Option.isSome_map]
  rw [hproblems, List.forall₂_same, recognize_snd]
  intro p hp
  split at hp
  · unfold Search.missingAnchor at hp
    split at hp
    · exact List.mem_singleton.mp hp ▸ .headerNotFound _
    · cases hp
  · cases hp

theorem readTables_moved {layout : TableLayout} (hl : layout.Relative)
    (hkeeps : ∀ t ∈ (recognize layout g criteria).1, ∀ h ∈ t.headers.toList,
      h.Keeps m (criteria.view g)) :
    List.Forall₂ (Table.Moved m) (readTables g criteria layout).1
        (readTables g' (criteria.moved m) layout).1 ∧
      List.Forall₂ (Problem.Moved m) (readTables g criteria layout).2
        (readTables g' (criteria.moved m) layout).2 := by
  obtain ⟨htables, hproblems⟩ := recognize_moved h harea hl hkeeps
  refine ⟨htables, ?_⟩
  simp only [readTables, isEmpty_alike htables, isEmpty_alike hproblems]
  refine List.rel_append (List.rel_append ?_ (prefixed_moved _ hproblems)) ?_
  · split
    · exact .cons (.tableNotFound _) .nil
    · exact .nil
  · exact List.rel_flatMap htables fun t t' ht => prefixed_moved _ ht.problems

end Reading

/-- A sheet that is moved as a whole, with the range of the criteria, is read as it was, with cells
and references moved. All that may get in the way is the last row and column. -/
theorem readSheet_moved (m : Offset) {layout : SheetLayout} (hl : ∀ t ∈ layout.tables, t.Relative)
    (name : String) {edits : List Sheet.Edit} (hedits : ∀ e ∈ edits, (e.moved m).Addressed)
    (criteria : Criteria) :
    let g := (Sheet.ofEdits name edits).grid
    let g' := (Sheet.ofEdits name (edits.map (.moved m))).grid
    (∀ t ∈ (readSheet layout g criteria).tables, ∀ h ∈ t.headers.toList,
      h.Keeps m (criteria.view g)) →
    (readSheet layout g criteria).Moved m (readSheet layout g' (criteria.moved m)) := by
  intro g g' hkeeps
  have h : g.MovesTo m g' := (Sheet.movesTo_ofEdits m name edits).grid
  have harea : ∀ area, searchArea? g' (criteria.moved m) = some area → area.Addressed := by
    have haddressed : (Sheet.ofEdits name (edits.map (.moved m))).Addressed :=
      Sheet.addressed_ofEdits name (List.forall_mem_map.mpr hedits)
    exact fun area ha => searchArea?_addressed haddressed ha
  unfold readSheet at hkeeps ⊢
  rw [h.extent, Option.isNone_map]
  cases hnone : g.extent?.isNone with
  | true =>
    refine ⟨rfl, h.name, .nil, ?_⟩
    simp only [if_true]
    split
    · exact .cons .emptySheet .nil
    · exact .nil
  | false =>
    simp only [hnone, Bool.false_eq_true, if_false, List.flatMap_map] at hkeeps ⊢
    have hread := fun t ht => readTables_moved h harea (hl t ht) fun k hk =>
      hkeeps k (List.mem_flatMap.mpr ⟨t, ht, hk⟩)
    exact ⟨rfl, h.name, forall₂_flatMap_same fun t ht => (hread t ht).1,
      forall₂_flatMap_same fun t ht => (hread t ht).2⟩

theorem relative_columnLayout : columnLayout.Relative := by
  have hlabelled : ∀ text, (labelled text).test.FactorsThrough Cell.value := by
    intro text a b hab
    simp only [labelled, Matcher.test, Matcher.mismatch?, Conditions.failure, hab]
    split <;> rfl
  have hfields : ∀ f ∈ columnLayout.fields, f = columnLayout.anchor :=
    fun f hf => List.mem_singleton.mp hf
  constructor
  · intro f hf
    exact hfields f hf ▸ Or.inl rfl
  · intro f hf
    exact hfields f hf ▸ hlabelled "Age"
  · intro f hf data hdata b hb
    cases hfields f hf ▸ hdata
    cases hb
    exact hlabelled "Total"
  · intro f hf data hdata v hv
    cases hfields f hf ▸ hdata
    cases hv
  · intro v hv
    cases hv

/-- Two rows down and a column to the right, the wide value is as wide, and ends the run there. -/
theorem readSheet_moved_column :
    let m : Offset := ⟨2, 1⟩
    let layout : SheetLayout :=
      { name := "Column", patterns := [], necessity := .required, tables := [columnLayout] }
    let result := readSheet layout forkedColumn.grid {}
    let cell := forkedColumn.grid.cellAt 2 0
    (∀ t ∈ layout.tables, t.Relative) ∧ (∀ e ∈ forkedEdits, (e.moved m).Addressed) ∧
      (∀ t ∈ result.tables, ∀ h ∈ t.headers.toList,
        h.Keeps m (Criteria.view {} forkedColumn.grid)) ∧
      result.problems = [.within "Ages" (.within "Age"
        (geometryProblem cell (.ambiguous cell.reference .down 1 2)))] ∧
      result.Moved m
        (readSheet layout (Sheet.ofEdits "Sheet1" (forkedEdits.map (.moved m))).grid {}) := by
  intro m layout result cell
  have hl : ∀ t ∈ layout.tables, t.Relative :=
    fun t ht => List.mem_singleton.mp ht ▸ relative_columnLayout
  have hedits : ∀ e ∈ forkedEdits, (e.moved m).Addressed := by
    simp [forkedEdits, Sheet.Edit.moved, Sheet.Edit.Addressed, Range.Addressed, Range.ofCorners,
      Range.moved, maxIndex, m]
  have hkeeps : ∀ t ∈ result.tables, ∀ h ∈ t.headers.toList,
      h.Keeps m (Criteria.view {} forkedColumn.grid) := by
    have hheaders : result.tables.map (·.headers.toList) = [[forkedHeader]] := rfl
    intro t ht h hh
    have htoList : t.headers.toList = [forkedHeader] :=
      List.mem_singleton.mp (hheaders ▸ List.mem_map_of_mem ht)
    obtain rfl := List.mem_singleton.mp (htoList ▸ hh)
    constructor
    · intro n hn c hc
      obtain rfl := Nat.lt_one_iff.mp hn
      obtain rfl := List.mem_singleton.mp hc
      exact fun _ => rfl
    · intro data count hdata hcount
      cases hdata
      cases hcount
  exact ⟨hl, hedits, hkeeps, rfl, readSheet_moved m hl "Sheet1" hedits {} hkeeps⟩

end SheetTables
