import SheetTables.Proofs.Extraction.LogicalView
import SheetTables.Proofs.Extraction.OpenRun
import SheetTables.Proofs.Extraction.Walks
import SheetTables.Proofs.Grid.Probes

/-! # Runs of fixed length

A run of fixed length goes on as long as single steps tell the next cell, and no further than its
length. Each of its cells is also what a probe of so many steps from the origin finds. Nothing but
the cells of the grid has a part in it, so that only merged regions and the end of the grid itself
leave such a run short.
-/

namespace SheetTables

theorem Range.positions_single (row col : Nat) : (single row col).positions = [(row, col)] := by
  simp [positions, single]

namespace Direction

theorem exists_single_of_shift? {d : Direction} {row col n : Nat} {strip : Range}
    (h : d.shift? (.single row col) n = some strip) : ∃ row' col', strip = .single row' col' := by
  cases d <;> simp only [shift?, Option.ite_none_right_eq_some, Option.some.injEq] at h <;>
    obtain ⟨_, rfl⟩ := h <;> exact ⟨_, _, rfl⟩

theorem shift?_isSome_succ {d : Direction} {r : Range} {n : Nat}
    (h : (d.shift? r (n + 1)).isSome) :
    ∃ strip, d.shift? r 1 = some strip ∧ (d.shift? strip n).isSome := by
  cases d <;> simp only [shift?, Option.isSome_ite] at h <;>
    simp only [shift?, Option.ite_none_right_eq_some, Option.some.injEq] <;>
    refine ⟨_, ⟨by omega, rfl⟩, ?_⟩ <;> simp only [Option.isSome_ite] <;> omega

end Direction

namespace Grid

def Unmerged (g : Grid) : Prop := ∀ row col, g.mergedAt? row col = none

variable {g : Grid} (hg : g.Unmerged)
include hg

theorem Unmerged.coverAt (row col : Nat) : g.coverAt row col = .single row col := by
  unfold Grid.coverAt
  rw [hg row col]
  rfl

theorem Unmerged.cellsIn_single (row col : Nat) :
    g.cellsIn (.single row col) = [g.cellAt row col] := by
  rw [cellsIn, Range.positions_single]
  simp [isFirstIn, hg.coverAt, Range.single]

theorem Unmerged.probe {c : Cell} (hc : g.Holds c) {d : Direction} {strip : Range}
    (h : d.shift? c.range 1 = some strip) :
    ∃ k, g.probe c d 1 = .ok k ∧ g.Holds k ∧ k.range = strip := by
  have hrange : c.range = .single c.row c.col := hc.range_eq.trans (hg.coverAt c.row c.col)
  obtain ⟨row, col, rfl⟩ := Direction.exists_single_of_shift? (hrange ▸ h)
  refine ⟨g.cellAt row col, probe_eq_ok_iff.mpr ?_, g.holds_cellAt row col, hg.coverAt row col⟩
  simp [probeAll, steps, step, beside, h, hg.cellsIn_single, List.eraseDups_cons]

end Grid

/-- A run of fixed length, as probes from its origin tell it: all its cells without a problem, or
fewer with the one problem of the step from the last of them. -/
structure IsFixedRun (g : Grid) (d : Direction) (count : Nat) (origin : Cell) (cells : List Cell)
    (problems : List Problem) : Prop where
  outcome : cells.length = count ∧ problems = [] ∨
    0 < cells.length ∧ cells.length < count ∧ ∃ last e, cells.getLast? = some last ∧
      g.probe last d 1 = .error e ∧ problems = [.inconsistentGeometry last.reference e]
  probed : ∀ i c, cells[i]? = some c → g.probe origin d i = .ok c
  longest : cells.length < count → ∀ c, g.probe origin d cells.length ≠ .ok c

namespace IsFixedRun

variable {g : Grid} {d : Direction} {c k : Cell} {count : Nat} {cells : List Cell}
  {problems : List Problem}

theorem single (g : Grid) (d : Direction) (c : Cell) : IsFixedRun g d 1 c [c] [] where
  outcome := Or.inl ⟨rfl, rfl⟩
  probed i k hk := by
    cases i with
    | zero =>
      cases hk
      exact Grid.probe_eq_ok_iff.mpr rfl
    | succ i => cases hk
  longest h := absurd h (Nat.lt_irrefl 1)

theorem broken {e : ProbeError} (h : g.probe c d 1 = .error e) (hcount : 1 < count) :
    IsFixedRun g d count c [c] [geometryProblem c e] where
  outcome := Or.inr ⟨Nat.one_pos, hcount, c, e, rfl, h, rfl⟩
  probed := (single g d c).probed
  longest _ k := by
    rw [List.length_singleton, h]
    exact nofun

theorem cons (hc : g.Probed c d) (h : g.probe c d 1 = .ok k)
    (hrun : IsFixedRun g d count k cells problems) :
    IsFixedRun g d (count + 1) c (c :: cells) problems := by
  have honward : ∀ i l, g.probe c d (i + 1) = .ok l ↔ g.probe k d i = .ok l := by
    intro i l
    rw [Nat.add_comm]
    exact (hc.onward 1 k h i).2 l
  constructor
  · rcases hrun.outcome with ⟨hlen, hp⟩ | ⟨hpos, hlt, last, e, hlast, he, hp⟩
    · exact Or.inl ⟨congrArg (· + 1) hlen, hp⟩
    · refine Or.inr ⟨Nat.succ_pos _, Nat.succ_lt_succ hlt, last, e, ?_, he, hp⟩
      rw [List.getLast?_cons, hlast, Option.getD_some]
  · intro i l hl
    cases i with
    | zero =>
      cases hl
      exact (single g d c).probed 0 c rfl
    | succ i => exact (honward i l).mpr (hrun.probed i l hl)
  · intro hlt l hl
    exact hrun.longest (Nat.lt_of_succ_lt_succ hlt) l ((honward _ l).mp hl)

end IsFixedRun

namespace Search

variable (s : Search) {d : Direction} {c : Cell} {more : Nat}

theorem isFixedRun (ht : s.grid.Tiled) (d : Direction) (more : Nat) (hc : s.grid.Holds c) :
    IsFixedRun s.grid d (more + 1) c (s.fixedRun d more c).1 (s.fixedRun d more c).2 := by
  induction more generalizing c with
  | zero => exact .single s.grid d c
  | succ more ih =>
    cases hp : s.grid.probe c d 1 with
    | error e =>
      rw [s.fixedRun_error hp]
      exact .broken hp (Nat.succ_lt_succ (Nat.succ_pos more))
    | ok k =>
      rw [s.fixedRun_ok hp]
      exact (ih (Grid.probe_holds ht hc hp)).cons (Grid.probed ht hc d) hp

/-- Without merged regions a run goes on to the end of the grid. -/
theorem length_fixedRun (hg : s.grid.Unmerged) (hc : s.grid.Holds c)
    (h : (d.shift? c.range more).isSome) : (s.fixedRun d more c).1.length = more + 1 := by
  induction more generalizing c with
  | zero => rfl
  | succ more ih =>
    obtain ⟨strip, hstrip, hrest⟩ := Direction.shift?_isSome_succ h
    obtain ⟨k, hk, hholds, hrange⟩ := hg.probe hc hstrip
    rw [s.fixedRun_ok hk, List.length_cons, ih hholds (hrange ▸ hrest)]

end Search

theorem Sheet.unmerged_view {s : Sheet} (h : s.merged = []) (criteria : Criteria) :
    (criteria.view s.grid).Unmerged := by
  intro row col
  change s.merged.find? _ = none
  rw [h, List.find?_nil]

/-- The data of every leaf of fixed length that has an origin are a run of that length from there.
Another search that sees the same cells has the same run, whatever it looks for and wherever its
limits are. Without merged regions a run down or to the right is whole, as far as rows and columns
fit in a machine word. -/
theorem recognize_fixedRuns (layout : TableLayout) (s : Sheet) (criteria : Criteria) :
    let g := criteria.view s.grid
    ∀ t ∈ (recognize layout s.grid criteria).1, ∀ h ∈ t.headers.toList,
      ∀ data count, h.field.body = .leaf data → data.layout = .fixed count → 1 ≤ count →
        ∀ origin, g.probe h.cell h.field.direction h.field.distance = .ok origin →
          IsFixedRun g h.field.direction count origin h.data h.problems ∧
          (∀ search : Search, (∀ row col, search.grid.cellAt row col = g.cellAt row col) →
            search.run h.field.direction data origin = (h.data, h.problems)) ∧
          (s.merged = [] →
            h.field.direction = .down ∧ origin.row + (count - 1) ≤ maxIndex ∨
              h.field.direction = .right ∧ origin.col + (count - 1) ≤ maxIndex →
            h.data.length = count) := by
  intro g t ht h hh data count hbody hlayout hcount origin ho
  obtain ⟨area, _, ht⟩ := mem_recognize ht
  let search := searchIn layout s.grid criteria area
  have hview : g.Tiled := criteria.tiled_view s.tiled
  obtain ⟨hcell, _, missing, he⟩ := search.header_of_mem hview ht hh
  have horigin : g.Holds origin := Grid.probe_holds hview hcell ho
  obtain ⟨more, rfl⟩ : ∃ more, count = more + 1 := ⟨count - 1, by omega⟩
  have hrun := search.header_run hbody ho missing
  rw [← he, search.run_eq_fixedRun hlayout, Nat.add_sub_cancel] at hrun
  rw [hrun.1, hrun.2]
  refine ⟨search.isFixedRun hview _ more horigin, ?_, ?_⟩
  · intro s' hs'
    rw [s'.run_eq_fixedRun hlayout]
    exact search.fixedRun_congr s' (fun k => Grid.probe_congr hs' k _ 1) more origin
  · intro hmerged hroom
    have hg : g.Unmerged := Sheet.unmerged_view hmerged criteria
    refine search.length_fixedRun hg horigin ?_
    have hrange : origin.range = .single origin.row origin.col :=
      horigin.range_eq.trans (hg.coverAt _ _)
    rw [hrange]
    rcases hroom with ⟨hd, hle⟩ | ⟨hd, hle⟩ <;> rw [hd] <;>
      exact Option.isSome_ite.mpr hle

def threeLayout : TableLayout :=
  { columnLayout with
    anchor := { keyedField 0 "Age" with direction := .down, body := .leaf { layout := .fixed 3 } } }

def bareColumn : Sheet := .ofEdits "Sheet1" [.push 0 0 (.text "Age")]

def brokenHeader : Header := { forkedHeader with field := threeLayout.anchor }

def bareHeader : Header :=
  { field := threeLayout.anchor, cell := bareColumn.grid.cellAt 0 0
    data := [1, 2, 3].map fun row => bareColumn.grid.cellAt row 0 }

/-- The step from a wide value breaks a run off, the last row of the sheet does not. -/
theorem recognize_fixedRuns_three :
    (∃ t ∈ (recognize threeLayout forkedColumn.grid {}).1, t.headers.toList = [brokenHeader] ∧
      IsFixedRun (Criteria.view {} forkedColumn.grid) .down 3 (forkedColumn.grid.cellAt 1 0)
        brokenHeader.data brokenHeader.problems) ∧
      bareColumn.merged = [] ∧ 1 + (3 - 1) ≤ maxIndex ∧
      ∃ t ∈ (recognize threeLayout bareColumn.grid {}).1, t.headers.toList = [bareHeader] ∧
        bareHeader.data.length = 3 := by
  have hforked : (recognize threeLayout forkedColumn.grid {}).1.map (·.headers.toList) =
      [[brokenHeader]] := rfl
  have hbare : (recognize threeLayout bareColumn.grid {}).1.map (·.headers.toList) =
      [[bareHeader]] := rfl
  have hroom : 1 + (3 - 1) ≤ maxIndex := by simp [maxIndex]
  refine ⟨?_, rfl, hroom, ?_⟩
  · obtain ⟨t, hmem, ht⟩ := List.mem_map.mp (hforked ▸ List.mem_singleton_self _)
    have hrun := recognize_fixedRuns threeLayout forkedColumn {} t hmem brokenHeader
      (ht ▸ List.mem_singleton_self _) _ 3 rfl rfl (by decide) (forkedColumn.grid.cellAt 1 0) rfl
    exact ⟨t, hmem, ht, hrun.1⟩
  · obtain ⟨t, hmem, ht⟩ := List.mem_map.mp (hbare ▸ List.mem_singleton_self _)
    have hrun := recognize_fixedRuns threeLayout bareColumn {} t hmem bareHeader
      (ht ▸ List.mem_singleton_self _) _ 3 rfl rfl (by decide) (bareColumn.grid.cellAt 1 0) rfl
    exact ⟨t, hmem, ht, hrun.2.2 rfl (Or.inl ⟨rfl, hroom⟩)⟩

end SheetTables
