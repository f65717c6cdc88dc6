import SheetTables.Proofs.Extraction.Mirroring
import SheetTables.Proofs.Extraction.TableProblems

/-! # Diagnostics

What is required, which values are accepted and what validators say decides what is reported, and
nothing else. Layouts with one outline find the same tables, with the same headers, data and
records, whatever each of them has to say about these.
-/

namespace SheetTables

/-- How a run of data is found, without a word on its values. -/
def DataSpec.outline (data : DataSpec) : DataSpec :=
  { layout := data.layout, boundary := data.boundary }

def FieldBody.outline : FieldBody → FieldBody
  | .group => .group
  | .leaf data => .leaf data.outline

def Field.outline (f : Field) : Field :=
  { f with necessity := .required, body := f.body.outline }

/-- A layout without its diagnostics: the necessities of the table and of its fields, the value
matchers, and the validators of fields and records. -/
def TableLayout.outline (t : TableLayout) : TableLayout :=
  { t with
    necessity := .required
    anchor := t.anchor.outline
    anchorChildren := t.anchorChildren.map Field.outline
    others := t.others.map Field.outline
    validators := [] }

def Header.finding (h : Header) : Field × Cell × List Cell :=
  (h.field.outline, h.cell, h.data)

/-- A table without its problems. -/
structure Findings where
  headers : Forest (Field × Cell × List Cell)
  records : List Record

def Table.findings (t : Table) : Findings where
  headers := t.headers.map Header.finding
  records := t.records

@[simp] theorem Field.outline_isLeaf (f : Field) : f.outline.isLeaf = f.isLeaf := by
  unfold isLeaf role outline
  cases f.body <;> rfl

@[simp] theorem Field.outline_outline (f : Field) : f.outline.outline = f.outline := by
  unfold outline
  cases f.body <;> rfl

namespace Search

def outlined (s : Search) : Search := { s with layout := s.layout.outline }

variable (s : Search)

theorem mirrors_outlined : s.Mirrors s.outlined Field.outline id where
  forest := rfl
  number _ := rfl
  candidates := (List.map_id _).symm
  test _ _ _ := rfl
  distance _ _ := rfl
  region P _ p _ := by
    rw [List.map_id]
    unfold childRegion Field.outline
    cases p.field.body <;> rfl

theorem boundsAlike_outlined : BoundsAlike s s.outlined id where
  maxRun := rfl
  endAtEmptyCell := rfl
  isEmpty _ := rfl
  isHeader := s.mirrors_outlined.isHeader
  meets _ := rfl
  border _ _ := rfl
  room _ _ := rfl

theorem run_outlined (d : Direction) (data : DataSpec) (c : Cell) :
    (s.outlined.run d data.outline c).1 = (s.run d data c).1 := by
  have hstep : ∀ k, StepsAlike s s.outlined id (fun _ _ => True) d k :=
    fun k => stepsAlike_of_probe_eq rfl fun _ => trivial
  have hrun : RunsAlike id (fun _ _ => True) (s.run d data c) (s.outlined.run d data.outline c) :=
    run_alike s.boundsAlike_outlined rfl (fun _ => rfl) (fun _ _ k _ => hstep k)
      (fun k _ _ => hstep k)
  rw [hrun.cells, List.map_id]

theorem header_outlined (f : Field) (c : Cell) (missing missing' : List Problem) :
    (s.outlined.header f.outline c missing').data = (s.header f c missing).data := by
  unfold header leafHeader
  cases hf : f.body with
  | group => simp [Field.outline, FieldBody.outline, hf]
  | leaf data =>
    simp only [Field.outline, FieldBody.outline, hf, outlined]
    cases s.grid.probe c f.direction f.distance with
    | error e => rfl
    | ok origin => exact s.run_outlined f.direction data origin

def outlinePlaced (p : Placed) : Placed := p.map Field.outline id

theorem headerAt_outlined (p : Placed) :
    (s.outlined.headerAt (outlinePlaced p)).data = (s.headerAt p).data :=
  s.header_outlined p.field p.cell _ _

theorem finding_outlined (p : Placed) :
    (s.outlined.headerAt (outlinePlaced p)).finding = (s.headerAt p).finding := by
  simp only [Header.finding, headerAt_field, headerAt_cell, headerAt_outlined]
  simp [outlinePlaced, Placed.map]

theorem feeds_outlined (p : Placed) :
    FeedsAlike id (s.headerAt p) (s.outlined.headerAt (outlinePlaced p)) where
  leaf := by simp [outlinePlaced, Placed.map]
  id := by simp [outlinePlaced, Placed.map, Field.outline]
  path := by simp [Header.path, outlinePlaced, Placed.map, Field.outline]
  data := by rw [headerAt_outlined, List.map_id]

theorem tableOf_outlined (P : Forest Placed × List Field) :
    (s.outlined.tableOf (P.1.map outlinePlaced, P.2.map Field.outline)).findings =
      (s.tableOf P).findings := by
  have hheaders : (P.1.map outlinePlaced).map s.outlined.headerAt =
      P.1.map fun p => s.outlined.headerAt (outlinePlaced p) := Forest.map_map _ _ _
  have hrecords := records_eq
    (Forest.forall₂_map_map fun p (_ : p ∈ P.1.toList) => s.feeds_outlined p)
  simp only [Table.findings, tableOf, Table.assemble, hheaders, hrecords, Forest.map_map,
    finding_outlined]

theorem tables_outlined : s.outlined.tables.map Table.findings = s.tables.map Table.findings := by
  rw [tables_eq_placements, tables_eq_placements, s.mirrors_outlined.placements]
  simp only [List.map_map]
  exact List.map_congr_left fun P _ => s.tableOf_outlined P

end Search

theorem findings_outline (t : TableLayout) (g : Grid) (criteria : Criteria) :
    (recognize t.outline g criteria).1.map Table.findings =
      (recognize t g criteria).1.map Table.findings := by
  rw [recognize_fst, recognize_fst]
  cases searchArea? g criteria with
  | none => rfl
  | some area => exact (searchIn t g criteria area).tables_outlined

/-- Layouts that differ in their diagnostics only find the same. -/
theorem recognize_findings {t t' : TableLayout} (h : t.outline = t'.outline) (g : Grid)
    (criteria : Criteria) :
    (recognize t g criteria).1.map Table.findings =
      (recognize t' g criteria).1.map Table.findings := by
  rw [← findings_outline t, ← findings_outline t', h]

def lenientLayout : TableLayout :=
  { rosterLayout.outline with
    necessity := .optional
    others := rosterLayout.outline.others.map fun f => { f with necessity := .optional } }

/-- A name without an age is found by both, and only one of them objects to it. -/
theorem recognize_findings_lenient :
    rosterLayout.outline = lenientLayout.outline ∧
      (recognize rosterLayout rosterSheet.grid {}).1.map (·.problems.length) = [5] ∧
      (recognize lenientLayout rosterSheet.grid {}).1.map (·.problems.length) = [1] ∧
      (recognize rosterLayout rosterSheet.grid {}).1.map Table.findings =
        (recognize lenientLayout rosterSheet.grid {}).1.map Table.findings :=
  ⟨rfl, rfl, rfl, recognize_findings rfl rosterSheet.grid {}⟩

end SheetTables
