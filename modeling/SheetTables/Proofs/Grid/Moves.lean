import Mathlib.Data.List.Basic
import SheetTables.Grid.Probe
import SheetTables.Layout.Criteria
import SheetTables.Proofs.Grid.Edits
import SheetTables.Proofs.Grid.Steps

/-! # Moved sheets

A sheet whose edits are all moved down and to the right by some rows and columns shows its cells
there. Reads follow it: the cells of a moved range are the moved cells, and steps down or to the
right lead to moved cells as long as the last row and column do not get in the way.
-/

namespace SheetTables

structure Offset where
  rows : Nat
  cols : Nat

def Range.moved (m : Offset) (r : Range) : Range where
  top := r.top + m.rows
  left := r.left + m.cols
  bottom := r.bottom + m.rows
  right := r.right + m.cols
  top_le_bottom := Nat.add_le_add_right r.top_le_bottom _
  left_le_right := Nat.add_le_add_right r.left_le_right _

def Cell.moved (m : Offset) (c : Cell) : Cell :=
  { c with row := c.row + m.rows, col := c.col + m.cols, range := c.range.moved m }

def Sheet.Edit.moved (m : Offset) : Sheet.Edit → Sheet.Edit
  | .push row col v => .push (row + m.rows) (col + m.cols) v
  | .merge r => .merge (r.moved m)

def Criteria.moved (m : Offset) (criteria : Criteria) : Criteria :=
  { criteria with range := criteria.range.map (.moved m) }

variable {m : Offset}

namespace Range

@[simp] theorem contains_moved (r : Range) (row col : Nat) :
    (r.moved m).contains (row + m.rows) (col + m.cols) = r.contains row col := by
  simp [contains, moved]

@[simp] theorem intersects_moved (r s : Range) :
    (r.moved m).intersects (s.moved m) = r.intersects s := by
  simp [intersects, moved]

@[simp] theorem including_moved (r : Range) (row col : Nat) :
    (r.moved m).including (row + m.rows) (col + m.cols) = (r.including row col).moved m := by
  simp [including, moved, Nat.add_min_add_right, Nat.add_max_add_right]

@[simp] theorem cornerDistance_moved (r s : Range) :
    (r.moved m).cornerDistance (s.moved m) = r.cornerDistance s := by
  simp [cornerDistance, cornerSteps, moved, Nat.add_sub_add_right]

theorem moved_injective (m : Offset) : Function.Injective (Range.moved m) := by
  intro r s h
  simp only [moved, mk.injEq, Nat.add_right_cancel_iff] at h
  cases r
  cases s
  simp_all

theorem intersection?_moved (r s : Range) :
    (r.moved m).intersection? (s.moved m) = (r.intersection? s).map (.moved m) := by
  unfold intersection?
  simp only [moved, Nat.add_max_add_right, Nat.add_min_add_right, Nat.add_le_add_iff_right]
  split <;> rfl

theorem positions_moved (r : Range) :
    (r.moved m).positions = r.positions.map fun p => (p.1 + m.rows, p.2 + m.cols) := by
  have hshift : ∀ first last n : Nat, List.range' (first + n) (last + n + 1 - (first + n)) =
      (List.range' first (last + 1 - first)).map (· + n) := by
    intro first last n
    have hlength : last + n + 1 - (first + n) = last + 1 - first := by omega
    rw [hlength, Nat.add_comm first n, ← List.map_add_range']
    exact List.map_congr_left fun k _ => Nat.add_comm n k
  simp only [positions, moved, hshift, List.flatMap_map, List.map_flatMap, List.map_map]
  rfl

end Range

namespace Cell

@[simp] theorem moved_value (c : Cell) : (c.moved m).value = c.value := rfl

@[simp] theorem moved_range (c : Cell) : (c.moved m).range = c.range.moved m := rfl

@[simp] theorem moved_isEmpty (c : Cell) : (c.moved m).isEmpty = c.isEmpty := rfl

theorem moved_beq (a b : Cell) : (a.moved m == b.moved m) = (a == b) := by
  change (a.sheet == b.sheet && a.range.moved m == b.range.moved m) =
    (a.sheet == b.sheet && a.range == b.range)
  rw [(Range.moved_injective m).beq_eq]

end Cell

namespace Direction

def Forward (d : Direction) : Prop := d = .down ∨ d = .right

/-- The strip next to a range, if there is one, is still there after the move. -/
def Keeps (m : Offset) (d : Direction) (r : Range) : Prop :=
  (d.shift? r 1).isSome → (d.shift? (r.moved m) 1).isSome

theorem isBorder_moved (d : Direction) (r area : Range) :
    d.isBorder (r.moved m) (area.moved m) = d.isBorder r area := by
  cases d <;> simp [isBorder, Range.moved]

theorem shift?_moved {d : Direction} (hd : d.Forward) {r : Range} (h : d.Keeps m r) :
    d.shift? (r.moved m) 1 = (d.shift? r 1).map (.moved m) := by
  have hbottom : (r.moved m).bottom + 1 = r.bottom + 1 + m.rows := Nat.add_right_comm _ _ _
  have hright : (r.moved m).right + 1 = r.right + 1 + m.cols := Nat.add_right_comm _ _ _
  rcases hd with rfl | rfl
  · by_cases hr : r.bottom + 1 ≤ maxIndex
    · have hm : r.bottom + 1 + m.rows ≤ maxIndex := by simpa [Keeps, shift?, hbottom, hr] using h
      simp only [shift?, hbottom, if_pos hr, if_pos hm]
      rfl
    · have hm : ¬ r.bottom + 1 + m.rows ≤ maxIndex := by omega
      simp only [shift?, hbottom, if_neg hr, if_neg hm]
      rfl
  · by_cases hr : r.right + 1 ≤ maxIndex
    · have hm : r.right + 1 + m.cols ≤ maxIndex := by simpa [Keeps, shift?, hright, hr] using h
      simp only [shift?, hright, if_pos hr, if_pos hm]
      rfl
    · have hm : ¬ r.right + 1 + m.cols ≤ maxIndex := by omega
      simp only [shift?, hright, if_neg hr, if_neg hm]
      rfl

theorem keeps_of_not_isBorder {d : Direction} {r area : Range} (ha : (area.moved m).Addressed)
    (hb : ¬ d.isBorder r area) : d.Keeps m r := by
  intro _
  rw [← isBorder_moved] at hb
  obtain ⟨strip, hstrip⟩ := shift?_of_not_isBorder ha hb
  rw [hstrip, Option.isSome_some]

end Direction

namespace Grid

/-- One grid shows what another shows, moved. -/
structure MovesTo (m : Offset) (g g' : Grid) : Prop where
  name : g'.name = g.name
  extent : g'.extent? = g.extent?.map (.moved m)
  cover : ∀ row col, g'.coverAt (row + m.rows) (col + m.cols) = (g.coverAt row col).moved m
  value : ∀ row col, g'.valueAt (row + m.rows) (col + m.cols) = g.valueAt row col

theorem MovesTo.view {g g' : Grid} (h : g.MovesTo m g') (criteria : Criteria) :
    (criteria.view g).MovesTo m ((criteria.moved m).view g') where
  name := h.name
  extent := h.extent
  cover := h.cover
  value row col := congrArg criteria.normalize (h.value row col)

theorem eraseDups_moved (cells : List Cell) :
    (cells.map (Cell.moved m)).eraseDups = cells.eraseDups.map (Cell.moved m) := by
  match cells with
  | [] => rfl
  | c :: cells =>
    rw [List.map_cons, List.eraseDups_cons, List.eraseDups_cons, List.map_cons, List.filter_map]
    simp only [Function.comp_def, Cell.moved_beq]
    rw [eraseDups_moved (cells.filter fun k => !k == c)]
termination_by cells.length
decreasing_by exact Nat.lt_succ_of_le (List.length_filter_le _ cells)

section MovesTo

variable {g g' : Grid} (h : g.MovesTo m g')
include h

theorem cellAt_moved (row col : Nat) :
    g'.cellAt (row + m.rows) (col + m.cols) = (g.cellAt row col).moved m := by
  have hvalue := h.value (g.coverAt row col).top (g.coverAt row col).left
  simp only [cellAt, Cell.moved, h.name, h.cover]
  rw [← hvalue]
  rfl

theorem cellsIn_moved (r : Range) : g'.cellsIn (r.moved m) = (g.cellsIn r).map (.moved m) := by
  have hfirst : ∀ p : Nat × Nat,
      isFirstIn (r.moved m) ((g.coverAt p.1 p.2).moved m) (p.1 + m.rows) (p.2 + m.cols) =
        isFirstIn r (g.coverAt p.1 p.2) p.1 p.2 := by
    intro p
    rw [Bool.eq_iff_iff]
    simp only [isFirstIn, Range.moved, Nat.add_max_add_right, Bool.and_eq_true, beq_iff_eq,
      Nat.add_right_cancel_iff]
  simp only [cellsIn, Range.positions_moved, List.filter_map, List.map_map, Function.comp_def,
    h.cover, hfirst, cellAt_moved h]

variable {d : Direction} (hd : d.Forward)
include hd

theorem beside_moved {c : Cell} (hc : d.Keeps m c.range) :
    g'.beside d (c.moved m) = (g.beside d c).map (.moved m) := by
  simp only [beside, Cell.moved_range, Direction.shift?_moved hd hc]
  cases d.shift? c.range 1 with
  | none => rfl
  | some strip => exact cellsIn_moved h strip

theorem step_moved {cells : List Cell} (hcells : ∀ c ∈ cells, d.Keeps m c.range) :
    g'.step d (cells.map (.moved m)) = (g.step d cells).map (.moved m) := by
  have hbeside : (cells.map (.moved m)).flatMap (g'.beside d) =
      (cells.flatMap (g.beside d)).map (.moved m) := by
    rw [List.flatMap_map, List.map_flatMap]
    exact List.flatMap_congr fun c hc => beside_moved h hd (hcells c hc)
  rw [step, hbeside, eraseDups_moved, step]

theorem steps_moved {n : Nat} {cells : List Cell}
    (hcells : ∀ i < n, ∀ c ∈ g.steps d i cells, d.Keeps m c.range) :
    g'.steps d n (cells.map (.moved m)) = (g.steps d n cells).map (.moved m) := by
  induction n generalizing cells with
  | zero => rfl
  | succ n ih =>
    have hstep : g'.step d (cells.map (.moved m)) = (g.step d cells).map (.moved m) :=
      step_moved h hd (hcells 0 n.succ_pos)
    rw [steps, steps, hstep]
    exact ih fun i hi => hcells (i + 1) (Nat.succ_lt_succ hi)

/-- Several steps lead to moved cells if nothing gets in the way of any of them. -/
theorem probeAll_moved {c : Cell} {n : Nat}
    (hc : ∀ i < n, ∀ k ∈ g.probeAll c d i, d.Keeps m k.range) :
    g'.probeAll (c.moved m) d n = (g.probeAll c d n).map (.moved m) :=
  steps_moved h hd hc

end MovesTo
end Grid

namespace Sheet

/-- One sheet holds what another holds, moved. -/
structure MovesTo (m : Offset) (s s' : Sheet) : Prop where
  name : s'.name = s.name
  values : ∀ row col, s'.valueAt (row + m.rows) (col + m.cols) = s.valueAt row col
  merged : s'.merged = s.merged.map (.moved m)
  extent : s'.extent? = s.extent?.map (.moved m)

theorem extended_moved (extent? : Option Range) (row col : Nat) :
    extended (extent?.map (.moved m)) (row + m.rows) (col + m.cols) =
      (extended extent? row col).moved m := by
  cases extent? with
  | none => rfl
  | some r => exact r.including_moved row col

theorem movesTo_apply {s s' : Sheet} (h : s.MovesTo m s') (e : Edit) :
    (s.apply e).MovesTo m (s'.apply (e.moved m)) := by
  cases e with
  | push row col v =>
    refine ⟨?_, fun row' col' => ?_, ?_, ?_⟩ <;> simp only [apply, Edit.moved]
    · rw [push_name, push_name, h.name]
    · rw [valueAt_push, valueAt_push, h.values]
      simp
    · rw [push_merged, push_merged, h.merged]
    · unfold push
      split
      · exact h.extent
      · simp only [h.extent, extended_moved, Option.map_some]
  | merge r =>
    refine ⟨h.name, h.values, ?_, ?_⟩ <;> simp only [apply, Edit.moved, merge]
    · rw [h.merged, List.filter_map, List.map_cons]
      simp [Function.comp_def]
    · rw [h.extent, Option.map_some]
      exact congrArg some <| by
        rw [← Range.including_moved, ← extended_moved]
        rfl

theorem movesTo_ofEdits (m : Offset) (name : String) (edits : List Edit) :
    (ofEdits name edits).MovesTo m (ofEdits name (edits.map (.moved m))) := by
  have hrun : ∀ s s' : Sheet, s.MovesTo m s' →
      (edits.foldl apply s).MovesTo m ((edits.map (.moved m)).foldl apply s') := by
    induction edits with
    | nil => exact fun s s' h => h
    | cons e edits ih => exact fun s s' h => ih _ _ (movesTo_apply h e)
  exact hrun _ _ ⟨rfl, fun _ _ => rfl, rfl, rfl⟩

theorem MovesTo.grid {s s' : Sheet} (h : s.MovesTo m s') : s.grid.MovesTo m s'.grid where
  name := h.name
  extent := h.extent
  cover row col := by
    have hmerged : s'.grid.mergedAt? (row + m.rows) (col + m.cols) =
        (s.grid.mergedAt? row col).map (.moved m) := by
      simp only [Sheet.grid, mergedAt?]
      rw [h.merged, List.find?_map]
      simp only [Function.comp_def, Range.contains_moved]
    rw [Grid.coverAt, Grid.coverAt, hmerged]
    cases s.grid.mergedAt? row col <;> rfl
  value := h.values

end Sheet
end SheetTables
