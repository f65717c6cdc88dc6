import SheetTables.Extraction.Sheet
import SheetTables.Proofs.Extraction.Mirroring
import SheetTables.Proofs.Grid.Covers
import SheetTables.Proofs.Grid.Edits

/-! # Logical views

Of a sheet only its logical cells are read, with null texts as absent. So two grids that show the
same cells give the same results, and nothing is to be seen of a text that counts as no value, nor
of a value that a merged region covers.
-/

namespace SheetTables
namespace Grid

/-- Two grids that show the same cells, but for the texts that count as no value. -/
structure LooksLike (criteria : Criteria) (g g' : Grid) : Prop where
  name : g.name = g'.name
  extent : g.extent? = g'.extent?
  range : ∀ row col, (g.cellAt row col).range = (g'.cellAt row col).range
  value : ∀ row col, criteria.normalize (g.cellAt row col).value =
    criteria.normalize (g'.cellAt row col).value

theorem LooksLike.cellAt_view {criteria : Criteria} {g g' : Grid} (h : g.LooksLike criteria g')
    (row col : Nat) : (criteria.view g).cellAt row col = (criteria.view g').cellAt row col := by
  have hname := h.name
  have hrange := h.range row col
  have hvalue := h.value row col
  simp only [cellAt, coverAt, Criteria.view] at hname hrange hvalue ⊢
  rw [hname, hvalue, hrange]

section Reads

variable {g g' : Grid} (h : ∀ row col, g.cellAt row col = g'.cellAt row col)
include h

theorem cellsIn_congr (r : Range) : g.cellsIn r = g'.cellsIn r := by
  have hcover : ∀ row col, g.coverAt row col = g'.coverAt row col :=
    fun row col => congrArg Cell.range (h row col)
  simp only [cellsIn, hcover, h]

theorem steps_congr (d : Direction) (n : Nat) (cells : List Cell) :
    g.steps d n cells = g'.steps d n cells := by
  have hbeside : g.beside d = g'.beside d := by
    funext c
    simp only [beside, cellsIn_congr h]
  induction n generalizing cells with
  | zero => rfl
  | succ n ih => simp only [steps, step, hbeside, ih]

theorem probe_congr (c : Cell) (d : Direction) (n : Nat) : g.probe c d n = g'.probe c d n := by
  simp only [probe, probeAll, steps_congr h]

end Reads
end Grid

namespace Search

/-- A search of the same area for the same, on another grid. -/
def onGrid (s : Search) (g : Grid) : Search := { s with grid := g }

section SameCells

variable (s : Search) {g : Grid} (h : ∀ row col, s.grid.cellAt row col = g.cellAt row col)
include h

theorem mirrors_onGrid : s.Mirrors (s.onGrid g) id id where
  forest := (Forest.map_id' _).symm
  number _ := rfl
  candidates := by
    rw [List.map_id]
    exact (Grid.cellsIn_congr h s.area).symm
  test _ _ _ := rfl
  distance _ _ := rfl
  region P _ p _ := by
    rw [List.map_id]
    simp only [childRegion, onGrid, Grid.probeAll, Grid.steps_congr h, Function.id_def]

theorem boundsAlike_onGrid : BoundsAlike s (s.onGrid g) id where
  maxRun := rfl
  endAtEmptyCell := rfl
  isEmpty _ := rfl
  isHeader := (s.mirrors_onGrid h).isHeader
  meets _ := rfl
  border _ _ := rfl
  room _ _ := rfl

theorem run_onGrid (d : Direction) (data : DataSpec) (c : Cell) :
    (s.onGrid g).run d data c = s.run d data c := by
  have hstep : ∀ k, StepsAlike s (s.onGrid g) id Eq d k :=
    fun k => stepsAlike_of_probe_eq (Grid.probe_congr h k d 1).symm fun _ => rfl
  have hrun : RunsAlike id Eq (s.run d data c) ((s.onGrid g).run d data c) :=
    run_alike (s.boundsAlike_onGrid h) rfl (fun _ => rfl) (fun _ _ k _ => hstep k)
      (fun k _ _ => hstep k)
  have hproblems := hrun.problems
  rw [List.forall₂_eq_eq_eq] at hproblems
  exact Prod.ext (hrun.cells.trans (List.map_id _)) hproblems.symm

theorem header_onGrid (f : Field) (c : Cell) (missing : List Problem) :
    (s.onGrid g).header f c missing = s.header f c missing := by
  have hprobe : (s.onGrid g).grid.probe c f.direction f.distance =
      s.grid.probe c f.direction f.distance := (Grid.probe_congr h c _ _).symm
  have hregion : (s.onGrid g).childRegion f c = s.childRegion f c := by
    simp only [childRegion, onGrid, Grid.probeAll, Grid.steps_congr h]
  simp only [header, leafHeader, hprobe, hregion, run_onGrid s h]

theorem tables_onGrid : (s.onGrid g).tables = s.tables := by
  rw [tables_eq_placements, tables_eq_placements, (s.mirrors_onGrid h).placements_eq]
  refine List.map_congr_left fun P _ => ?_
  have hheader : (s.onGrid g).headerAt = s.headerAt :=
    funext fun p => s.header_onGrid h p.field p.cell _
  simp only [tableOf, hheader]
  rfl

end SameCells
end Search

section Reading

variable {g g' : Grid} {criteria : Criteria} (h : g.LooksLike criteria g')
include h

theorem recognize_congr (layout : TableLayout) :
    recognize layout g criteria = recognize layout g' criteria := by
  have harea : searchArea? g' criteria = searchArea? g criteria := by
    simp only [searchArea?, h.extent]
  have htables : (recognize layout g criteria).1 = (recognize layout g' criteria).1 := by
    rw [recognize_fst, recognize_fst, harea]
    cases searchArea? g criteria with
    | none => rfl
    | some area => exact ((searchIn layout g criteria area).tables_onGrid h.cellAt_view).symm
  have hproblems : (recognize layout g criteria).2 = (recognize layout g' criteria).2 := by
    simp only [recognize_snd, ← recognize_fst_eq_nil, htables, h.extent]
  exact Prod.ext htables hproblems

theorem readSheet_congr (layout : SheetLayout) :
    readSheet layout g criteria = readSheet layout g' criteria := by
  have htables : readTables g criteria = readTables g' criteria := by
    funext t
    simp only [readTables, recognize_congr h]
  simp only [readSheet, h.name, h.extent, htables]

end Reading

namespace Sheet

variable {s : Sheet} {criteria : Criteria}

@[simp] theorem coverAt_push (row col : Nat) (v : Value) :
    (s.push row col v).grid.coverAt = s.grid.coverAt := by
  funext row' col'
  simp only [Grid.coverAt, grid, mergedAt?, push_merged]

theorem looksLike_null {extent : Range} {row col : Nat} {v : Value} (hv : criteria.isNull v)
    (he : s.extent? = some extent) (h : extent.contains row col) :
    (s.push row col v).grid.LooksLike criteria (s.push row col .empty).grid where
  name := by simp [grid]
  extent := (push_extent he h v).trans (push_extent he h .empty).symm
  range row' col' := by simp [Grid.cellAt]
  value row' col' := by
    simp only [Grid.cellAt, coverAt_push]
    simp only [grid, valueAt_push]
    split
    · simp [Criteria.normalize, hv]
    · rfl

/-- A value that a merged region covers away from its corner is not seen. -/
theorem looksLike_covered (hs : s.Enclosed) {row col : Nat} {m : Range}
    (hm : s.mergedAt? row col = some m) (hcorner : (row, col) ≠ (m.top, m.left)) (v : Value) :
    (s.push row col v).grid.LooksLike criteria s.grid where
  name := by simp [grid]
  extent := by
    obtain ⟨hmem, hcontains⟩ := mem_merged_of_mergedAt? hm
    obtain ⟨extent, he, hwithin⟩ := hs m hmem
    exact (push_extent he (hwithin _ _ hcontains) v).trans he.symm
  range row' col' := by simp [Grid.cellAt]
  value row' col' := by
    have hcover : s.grid.coverAt row col = m := by simp [Grid.coverAt, grid, hm]
    have hother : ((s.grid.coverAt row' col').top, (s.grid.coverAt row' col').left) ≠
        (row, col) := by
      intro hp
      obtain ⟨htop, hleft⟩ := Prod.mk.inj hp
      have hagree := s.tiled.agree (Range.contains_corner (s.grid.coverAt row' col'))
      rw [htop, hleft, hcover] at hagree
      exact hcorner (by rw [hagree, htop, hleft])
    simp only [Grid.cellAt, coverAt_push]
    simp only [grid, valueAt_push]
    exact congrArg _ (if_neg hother)

end Sheet

/-- Sheets are seen through their logical cells only: sheets that show the same are read alike, a
text that counts as no value is read as none, and what a merged region covers is not read. -/
theorem readSheet_logical (layout : SheetLayout) (criteria : Criteria) :
    (∀ g g' : Grid, g.LooksLike criteria g' →
      readSheet layout g criteria = readSheet layout g' criteria) ∧
    (∀ (s : Sheet) (extent : Range) (row col : Nat) (v : Value), s.extent? = some extent →
      extent.contains row col → criteria.isNull v →
      readSheet layout (s.push row col v).grid criteria =
        readSheet layout (s.push row col .empty).grid criteria) ∧
    (∀ (name : String) (edits : List Sheet.Edit) (row col : Nat) (m : Range) (v : Value),
      let s := Sheet.ofEdits name edits
      s.mergedAt? row col = some m → (row, col) ≠ (m.top, m.left) →
      readSheet layout (s.push row col v).grid criteria = readSheet layout s.grid criteria) := by
  refine ⟨fun g g' h => readSheet_congr h layout, ?_, ?_⟩
  · intro s extent row col v he h hv
    exact readSheet_congr (Sheet.looksLike_null hv he h) layout
  · intro name edits row col m v s hm hcorner
    exact readSheet_congr
      (Sheet.looksLike_covered (Sheet.enclosed_ofEdits name edits) hm hcorner v) layout

def columnSheet : SheetLayout where
  name := "Column"
  patterns := []
  necessity := .required
  tables := [columnLayout]

/-- A second title under the wide value makes no second table, and a dash stands for no value, in
the first place as in the last. -/
theorem readSheet_logical_column :
    let criteria : Criteria := { nulls := ["-"] }
    let read := fun s : Sheet => readSheet columnSheet s.grid criteria
    let titled := forkedColumn.push 2 1 (.text "Age")
    let dashed := titled.push 1 0 (.text "-")
    let cleared := titled.push 1 0 .empty
    (read forkedColumn).tables.map (·.name) = ["Ages"] ∧
      titled.grid.valueAt 2 1 = .text "Age" ∧ read titled = read forkedColumn ∧
      dashed.grid.LooksLike criteria cleared.grid ∧ read dashed = read cleared ∧
      read (forkedColumn.push 3 0 (.text "-")) = read (forkedColumn.push 3 0 .empty) := by
  intro criteria read titled dashed cleared
  obtain ⟨hgrids, hnull, hcovered⟩ := readSheet_logical columnSheet criteria
  have hlooks : dashed.grid.LooksLike criteria cleared.grid :=
    Sheet.looksLike_null rfl (show titled.extent? = some (.ofCorners 0 0 3 1) from rfl) rfl
  have hread : (readSheet columnSheet forkedColumn.grid { nulls := ["-"] }).tables.map (·.name) =
      ["Ages"] := rfl
  refine ⟨hread, rfl, ?_, hlooks, ?_, ?_⟩
  · exact hcovered "Sheet1" forkedEdits 2 1 (.ofCorners 2 0 2 1) _ rfl (by decide)
  · exact hgrids dashed.grid cleared.grid hlooks
  · exact hnull forkedColumn (.ofCorners 0 0 3 1) 3 0 _ rfl rfl rfl

end SheetTables
