import SheetTables.Proofs.Extraction.Binding
import SheetTables.Proofs.Grid.Scan

/-! # Occurrences of a table

A layout has one table for each cell that its anchor matches and that shows in the searched part
of the sheet, row by row. Where there is none, a required anchor of a required table is missed.
-/

namespace SheetTables

/-- The positions that are searched: those of the extent that lie in the range of the criteria,
if there is one. -/
def Searched (g : Grid) (criteria : Criteria) (row col : Nat) : Prop :=
  (∃ extent, g.extent? = some extent ∧ extent.contains row col) ∧
    ∀ range, criteria.range = some range → range.contains row col

theorem searched_of_searchArea? {g : Grid} {criteria : Criteria} {area : Range}
    (h : searchArea? g criteria = some area) : Searched g criteria = area.Inside := by
  funext row col
  unfold searchArea? at h
  cases he : g.extent? with
  | none => simp [he] at h
  | some extent =>
    cases hr : criteria.range with
    | none =>
      simp only [he, hr, Option.some.injEq] at h
      simp [Searched, he, hr, h]
    | some range =>
      simp only [he, hr] at h
      simp [Searched, he, hr, Range.contains_of_intersection? h, and_comm]

theorem not_searched_of_searchArea? {g : Grid} {criteria : Criteria}
    (h : searchArea? g criteria = none) (row col : Nat) : ¬ Searched g criteria row col := by
  rintro ⟨⟨extent, he, hp⟩, hrange⟩
  unfold searchArea? at h
  cases hr : criteria.range with
  | none => simp [he, hr] at h
  | some range =>
    simp only [he, hr] at h
    exact Range.intersection?_eq_none h row col ⟨hrange range hr, hp⟩

/-- The cells among which headers are looked for. -/
def Candidate (g : Grid) (criteria : Criteria) (c : Cell) : Prop :=
  (criteria.view g).Shows (Searched g criteria) c

namespace Search

variable (s : Search)

def candidates : List Cell := s.grid.cellsIn s.area

/-- The candidates that open a table. -/
def anchors : List Cell := s.candidates.filter fun c => s.layout.anchor.matcher.test c

theorem mem_anchors {c : Cell} :
    c ∈ s.anchors ↔ c ∈ s.candidates ∧ s.layout.anchor.matcher.test c :=
  List.mem_filter

theorem tables_eq :
    s.tables = s.anchors.zipIdx.map fun p => s.table s.candidates s.anchors p.1 p.2 :=
  rfl

theorem tables_eq_single {a : Cell} (h : s.anchors = [a]) :
    s.tables = [s.table s.candidates s.anchors a 0] := by
  rw [tables_eq, h]
  rfl

theorem tables_getElem? (t : Nat) :
    s.tables[t]? = s.anchors[t]?.map fun a => s.table s.candidates s.anchors a t := by
  change (s.anchors.zipIdx.map fun p => s.table s.candidates s.anchors p.1 p.2)[t]? = _
  cases h : s.anchors[t]? <;> simp [List.getElem?_zipIdx, h]

theorem table_roots (candidates anchors : List Cell) (a : Cell) (t : Nat) :
    (s.table candidates anchors a t).headers.roots.map (fun h => (h.field, h.cell)) =
      s.layout.roots.filterMap fun f =>
        (s.locateRoot candidates anchors t a f).map fun c => (f, c) :=
  s.bind_roots (s.locateRoot candidates anchors t a) s.layout.forest

@[simp] theorem locateRoot_anchor (candidates anchors : List Cell) (t : Nat) (a : Cell) :
    s.locateRoot candidates anchors t a s.layout.anchor = some a := by
  simp [locateRoot]

theorem table_head (candidates anchors : List Cell) (a : Cell) (t : Nat) :
    (s.table candidates anchors a t).headers.roots.head?.map (fun h => (h.field, h.cell)) =
      some (s.layout.anchor, a) := by
  rw [← List.head?_map, table_roots]
  simp [TableLayout.roots, TableLayout.forest, Forest.roots]

theorem tables_heads :
    s.tables.map (fun t => t.headers.roots.head?.map fun h => (h.field, h.cell)) =
      s.anchors.map fun a => some (s.layout.anchor, a) := by
  apply List.ext_getElem?
  intro t
  rw [List.getElem?_map, List.getElem?_map, tables_getElem?, Option.map_map]
  exact congrArg (fun f => s.anchors[t]?.map f)
    (funext fun a => s.table_head s.candidates s.anchors a t)

end Search

def searchIn (layout : TableLayout) (g : Grid) (criteria : Criteria) (area : Range) : Search :=
  { grid := criteria.view g, area, criteria, layout }

theorem recognize_fst (layout : TableLayout) (g : Grid) (criteria : Criteria) :
    (recognize layout g criteria).1 =
      match searchArea? g criteria with
      | some area => (searchIn layout g criteria area).tables
      | none => [] := by
  unfold recognize searchArea?
  cases he : g.extent? with
  | none => rfl
  | some extent => cases hr : criteria.range <;> rfl

def anchorsOf (layout : TableLayout) (g : Grid) (criteria : Criteria) : List Cell :=
  match searchArea? g criteria with
  | some area => (searchIn layout g criteria area).anchors
  | none => []

theorem recognize_heads (layout : TableLayout) (g : Grid) (criteria : Criteria) :
    (recognize layout g criteria).1.map
        (fun t => t.headers.roots.head?.map fun h => (h.field, h.cell)) =
      (anchorsOf layout g criteria).map fun a => some (layout.anchor, a) := by
  rw [recognize_fst, anchorsOf]
  cases searchArea? g criteria with
  | none => rfl
  | some area => exact (searchIn layout g criteria area).tables_heads

theorem recognize_fst_eq_nil {layout : TableLayout} {g : Grid} {criteria : Criteria} :
    (recognize layout g criteria).1 = [] ↔ anchorsOf layout g criteria = [] := by
  rw [← List.map_eq_nil_iff, recognize_heads, List.map_eq_nil_iff]

/-- The anchor is missed only where there is something to search. -/
theorem recognize_snd (layout : TableLayout) (g : Grid) (criteria : Criteria) :
    (recognize layout g criteria).2 =
      if g.extent?.isSome ∧ anchorsOf layout g criteria = [] then Search.missingAnchor layout
      else [] := by
  simp only [← recognize_fst_eq_nil]
  unfold recognize
  cases he : g.extent? <;> simp

theorem mem_candidates {g : Grid} (ht : g.Tiled) {layout : TableLayout} {criteria : Criteria}
    {area : Range} (ha : searchArea? g criteria = some area) {c : Cell} :
    c ∈ (searchIn layout g criteria area).candidates ↔ Candidate g criteria c := by
  unfold Candidate
  rw [searched_of_searchArea? ha]
  exact Grid.mem_cellsIn (criteria.tiled_view ht)

theorem mem_anchorsOf {g : Grid} (ht : g.Tiled) {layout : TableLayout} {criteria : Criteria}
    {c : Cell} : c ∈ anchorsOf layout g criteria ↔
      Candidate g criteria c ∧ layout.anchor.matcher.test c := by
  unfold anchorsOf
  cases h : searchArea? g criteria with
  | none =>
    constructor
    · intro hc
      simp at hc
    · intro hc
      exact absurd hc.1.inside (not_searched_of_searchArea? h _ _)
  | some area => exact (Search.mem_anchors _).trans (and_congr_left' (mem_candidates ht h))

theorem anchorsOf_pairwise {R : Cell → Cell → Prop} {layout : TableLayout} {g : Grid}
    {criteria : Criteria} (h : ∀ r, ((criteria.view g).cellsIn r).Pairwise R) :
    (anchorsOf layout g criteria).Pairwise R := by
  unfold anchorsOf
  cases searchArea? g criteria with
  | none => exact .nil
  | some area => exact (h area).filter _

/-- Every table is an occurrence of the anchor, and every occurrence has one table. A cell that
covers several of the searched positions shows at the first of them only, and so opens one table
at most; the tables stand in the order of those positions. -/
theorem recognize_occurrences (name : String) (edits : List Sheet.Edit) (layout : TableLayout)
    (criteria : Criteria) :
    let g := (Sheet.ofEdits name edits).grid
    let found := recognize layout g criteria
    let Occurs := fun c => Candidate g criteria c ∧ layout.anchor.matcher.test c
    (∃ anchors : List Cell,
      found.1.map (fun t => t.headers.roots.head?.map fun h => (h.field, h.cell)) =
        anchors.map (fun a => some (layout.anchor, a)) ∧
      (∀ c, c ∈ anchors ↔ Occurs c) ∧
      anchors.Pairwise Cell.Before ∧
      anchors.Pairwise fun a b => a.range ≠ b.range) ∧
    (∀ row col, Searched g criteria row col →
      ∃! c, Candidate g criteria c ∧ c.range = g.coverAt row col) ∧
    ((∃ c, Occurs c) ∨ g.extent? = none ∨ layout.anchor.necessity = .optional ∨
      layout.necessity = .optional → found.2 = []) ∧
    ((¬ ∃ c, Occurs c) → g.extent? ≠ none → layout.anchor.necessity = .required →
      layout.necessity = .required → found.2 = [.headerNotFound layout.anchor.path]) := by
  intro g found Occurs
  have ht : g.Tiled := Sheet.tiled _
  have hv := criteria.tiled_view ht
  have hmem : ∀ c, c ∈ anchorsOf layout g criteria ↔ Occurs c := fun c => mem_anchorsOf ht
  have hnil : anchorsOf layout g criteria = [] ↔ ¬ ∃ c, Occurs c := by
    simp only [List.eq_nil_iff_forall_not_mem, hmem, not_exists]
  have hsnd := recognize_snd layout g criteria
  refine ⟨⟨anchorsOf layout g criteria, recognize_heads layout g criteria, hmem, ?_, ?_⟩, ?_, ?_, ?_⟩
  · exact anchorsOf_pairwise fun r => Grid.cellsIn_sorted _ r
  · exact anchorsOf_pairwise fun r => Grid.cellsIn_distinct hv r
  · intro row col hp
    cases ha : searchArea? g criteria with
    | none => exact absurd hp (not_searched_of_searchArea? ha row col)
    | some area =>
      unfold Candidate
      rw [searched_of_searchArea? ha] at hp ⊢
      exact Grid.existsUnique_shows hv hp
  · intro h
    rw [hsnd]
    rcases h with ho | he | hc | hl
    · rw [if_neg fun h => hnil.mp h.2 ho]
    · simp [he]
    · simp [Search.missingAnchor, hc, Necessity.isRequired]
    · simp [Search.missingAnchor, hl, Necessity.isRequired]
  · intro ho he hc hl
    rw [hsnd, if_pos ⟨Option.isSome_iff_ne_none.mpr he, hnil.mpr ho⟩]
    simp [Search.missingAnchor, hc, hl, Necessity.isRequired]

end SheetTables
