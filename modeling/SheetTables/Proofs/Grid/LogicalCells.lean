import SheetTables.Proofs.Grid.Covers

/-! # Logical cells

The logical cells of a sheet part its positions among them. Wherever in a merged region a cell is
looked up, it is one cell with one value, and it is another cell than any that is looked up
elsewhere.
-/

namespace SheetTables
namespace Cell

theorem beq_iff {c k : Cell} : c == k ↔ c.sheet = k.sheet ∧ c.range = k.range := by
  change (c.sheet == k.sheet && c.range == k.range) = true ↔ _
  rw [Bool.and_eq_true, beq_iff_eq, beq_iff_eq]

instance : EquivBEq Cell where
  rfl := beq_iff.mpr ⟨rfl, rfl⟩
  symm h := beq_iff.mpr ⟨(beq_iff.mp h).1.symm, (beq_iff.mp h).2.symm⟩
  trans h h' :=
    beq_iff.mpr ⟨(beq_iff.mp h).1.trans (beq_iff.mp h').1, (beq_iff.mp h).2.trans (beq_iff.mp h').2⟩

end Cell

namespace Grid

variable {g : Grid}

theorem Holds.beq_iff {c k : Cell} (hc : g.Holds c) (hk : g.Holds k) :
    c == k ↔ c.range = k.range := by
  have hsheet : c.sheet = k.sheet := (congrArg Cell.sheet hc).trans (congrArg Cell.sheet hk).symm
  rw [Cell.beq_iff, and_iff_right hsheet]

structure Parted (g : Grid) : Prop where
  covered : ∀ row col, (g.cellAt row col).range.contains row col
  apart : ∀ row col row' col', (g.cellAt row col).range = (g.cellAt row' col').range ∨
    ∀ i j, ¬ ((g.cellAt row col).range.contains i j ∧ (g.cellAt row' col').range.contains i j)
  same : ∀ row col row' col', g.cellAt row col == g.cellAt row' col' ↔
    (g.cellAt row col).range.contains row' col'
  alike : ∀ row col row' col', g.cellAt row col == g.cellAt row' col' →
    (g.cellAt row col).value = (g.cellAt row' col').value
  valued : ∀ row col, (g.cellAt row col).value =
    g.valueAt (g.cellAt row col).range.top (g.cellAt row col).range.left

theorem Tiled.parted (ht : g.Tiled) : g.Parted := by
  have hsame : ∀ row col row' col', g.cellAt row col == g.cellAt row' col' ↔
      (g.cellAt row col).range = (g.cellAt row' col').range := fun row col row' col' =>
    (g.holds_cellAt row col).beq_iff (g.holds_cellAt row' col')
  constructor
  · exact ht.covered
  · intro row col row' col'
    by_cases hr : (g.cellAt row col).range = (g.cellAt row' col').range
    · exact Or.inl hr
    · refine Or.inr fun i j hp => hr ?_
      exact ht.range_eq_of_contains (g.holds_cellAt row col) (g.holds_cellAt row' col') hp.1 hp.2
  · intro row col row' col'
    rw [hsame]
    constructor
    · intro h
      rw [h]
      exact ht.covered row' col'
    · exact fun h => (ht.agree h).symm
  · intro row col row' col' h
    have hrange : g.coverAt row col = g.coverAt row' col' := (hsame _ _ _ _).mp h
    dsimp only [cellAt]
    rw [hrange]
  · exact fun _ _ => rfl

end Grid

/-- On a sheet, read with or without its null texts, logical cells part the positions. -/
theorem cells_parted (name : String) (edits : List Sheet.Edit) :
    (Sheet.ofEdits name edits).grid.Parted ∧
      ∀ criteria : Criteria, (criteria.view (Sheet.ofEdits name edits).grid).Parted :=
  ⟨(Sheet.tiled _).parted, fun criteria => (criteria.tiled_view (Sheet.tiled _)).parted⟩

end SheetTables
