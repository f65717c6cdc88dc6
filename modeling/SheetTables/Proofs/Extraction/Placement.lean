import SheetTables.Proofs.Extraction.Occurrences
import SheetTables.Proofs.Layout.Forests

/-! # Placement of fields

Where the fields of a table lie is settled before any of their data are read, and without regard
to what a missing field means. A table is its placement filled in: each placed field with the
run of its data, each absent one with its problem. So two searches that place their fields alike
can be compared header by header.
-/

namespace SheetTables

/-- A field at the cell of its header, with those of its children that have none. -/
structure Placed where
  field : Field
  cell : Cell
  absent : List Field

def lack (f : Field) : Option Problem :=
  if f.necessity.isRequired then some (.headerNotFound f.path) else none

namespace Search

def place (s : Search) (locate : Field → Option Cell) :
    Forest Field → Forest Placed × List Field
  | .nil => (.nil, [])
  | .node f children siblings =>
    let (placed, absent) := s.place locate siblings
    match locate f with
    | some c =>
      let (inner, lacking) := s.place (s.locateChild f c) children
      (.node ⟨f, c, lacking⟩ inner placed, absent)
    | none => (placed, f :: absent)

def placements (s : Search) : List (Forest Placed × List Field) :=
  s.anchors.zipIdx.map fun (a, occurrence) =>
    s.place (s.locateRoot s.candidates s.anchors occurrence a) s.layout.forest

def headerAt (s : Search) (p : Placed) : Header :=
  s.header p.field p.cell (p.absent.filterMap lack)

def tableOf (s : Search) (P : Forest Placed × List Field) : Table :=
  .assemble s.layout (P.1.map s.headerAt) (P.2.filterMap lack)

variable (s : Search)

@[simp] theorem headerAt_field (p : Placed) : (s.headerAt p).field = p.field :=
  s.header_field _ _ _

@[simp] theorem headerAt_cell (p : Placed) : (s.headerAt p).cell = p.cell :=
  s.header_cell _ _ _

section Place

variable {locate : Field → Option Cell} {f : Field}

theorem place_some {c : Cell} (h : locate f = some c) (children siblings : Forest Field) :
    s.place locate (.node f children siblings) =
      (.node ⟨f, c, (s.place (s.locateChild f c) children).2⟩
          (s.place (s.locateChild f c) children).1 (s.place locate siblings).1,
        (s.place locate siblings).2) := by
  simp [place, h]

theorem place_none (h : locate f = none) (children siblings : Forest Field) :
    s.place locate (.node f children siblings) =
      ((s.place locate siblings).1, f :: (s.place locate siblings).2) := by
  simp [place, h]

end Place

theorem field_of_mem_place {locate : Field → Option Cell} {F : Forest Field} :
    ∀ p ∈ (s.place locate F).1.toList, p.field ∈ F.toList := by
  induction F generalizing locate with
  | nil => simp [place, Forest.toList]
  | node f children siblings ihc ihs =>
    simp only [Forest.toList]
    cases h : locate f with
    | none =>
      rw [s.place_none h]
      exact fun p hp => List.mem_cons_of_mem f (List.mem_append_right _ (ihs p hp))
    | some c =>
      rw [s.place_some h]
      simp only [Forest.toList, List.forall_mem_cons, List.forall_mem_append]
      refine ⟨List.mem_cons_self, fun p hp => ?_, fun p hp => ?_⟩
      · exact List.mem_cons_of_mem f (List.mem_append_left _ (ihc p hp))
      · exact List.mem_cons_of_mem f (List.mem_append_right _ (ihs p hp))

theorem field_of_mem_placements {P : Forest Placed × List Field} (hP : P ∈ s.placements) :
    ∀ p ∈ P.1.toList, p.field ∈ s.layout.fields := by
  obtain ⟨a, _, rfl⟩ := List.mem_map.mp hP
  exact s.field_of_mem_place

theorem absence_of_eq_none {locate : Field → Option Cell} {f : Field} (h : locate f = none) :
    absence locate f = lack f := by
  simp [absence, lack, h]

/-- To bind fields is to place them and then to fill in what is placed. -/
theorem bind_eq_place (locate : Field → Option Cell) (F : Forest Field) :
    s.bind locate F =
      ((s.place locate F).1.map s.headerAt, (s.place locate F).2.filterMap lack) := by
  induction F generalizing locate with
  | nil => rfl
  | node f children siblings ihc ihs =>
    cases h : locate f with
    | some c =>
      rw [s.bind_some h, s.place_some h, ihc, ihs]
      rfl
    | none =>
      rw [s.bind_none h, s.place_none h, ihs, absence_of_eq_none h]
      cases hl : lack f <;> simp [hl]

theorem tables_eq_placements : s.tables = s.placements.map s.tableOf := by
  unfold tables placements
  rw [List.map_map]
  refine List.map_congr_left fun p _ => ?_
  simp only [table, Function.comp_apply, tableOf, candidates, anchors]
  rw [bind_eq_place]

end Search

theorem mem_tableOf_headers {s : Search} {P : Forest Placed × List Field} {h : Header} :
    h ∈ (s.tableOf P).headers.toList ↔ ∃ p ∈ P.1.toList, s.headerAt p = h := by
  simp [Search.tableOf, Table.assemble]

end SheetTables
