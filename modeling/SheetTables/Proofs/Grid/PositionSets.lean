import Mathlib.Data.List.Sort
import SheetTables.Proofs.Grid.Positions

/-! # Ranges as sets of positions

Two ranges share a position exactly if they overlap on both axes, and then the greatest of their
first rows and columns and the least of their last ones bound the range of all that they share. The
positions of a range, row by row, are the only list that holds each of them and is in order.
-/

namespace SheetTables

instance : Std.Irrefl RowMajor where
  irrefl := RowMajor.irrefl

instance : Std.Antisymm RowMajor where
  antisymm p _ h k := absurd (h.trans k) (RowMajor.irrefl p)

namespace Range

variable {r s t : Range}

/-- How the overlap of two ranges comes to the positions that are in both. -/
structure SharesAsSet (r s : Range) : Prop where
  shared : r.intersects s ↔ ∃ row col, r.contains row col ∧ s.contains row col
  found : (r.intersection? s).isSome ↔ ∃ row col, r.contains row col ∧ s.contains row col
  /-- The bounds of the shared part are in order. -/
  bounded : r.intersects s →
    max r.top s.top ≤ min r.bottom s.bottom ∧ max r.left s.left ≤ min r.right s.right
  bounds : ∀ t, r.intersection? s = some t ↔ r.intersects s ∧
    t.top = max r.top s.top ∧ t.left = max r.left s.left ∧
      t.bottom = min r.bottom s.bottom ∧ t.right = min r.right s.right
  contains : ∀ t, r.intersection? s = some t → ∀ row col,
    t.contains row col ↔ r.contains row col ∧ s.contains row col

/-- The list of positions of a range, as the set and the order of its members tell it. -/
structure ListsPositions (r : Range) (positions : List (Nat × Nat)) : Prop where
  mem : ∀ row col, (row, col) ∈ positions ↔ r.contains row col
  once : positions.Nodup
  ordered : positions.Pairwise RowMajor
  only : ∀ others : List (Nat × Nat), (∀ row col, (row, col) ∈ others ↔ r.contains row col) →
    others.Pairwise RowMajor → others = positions

theorem intersects_iff_exists :
    r.intersects s ↔ ∃ row col, r.contains row col ∧ s.contains row col := by
  constructor
  · exact exists_contains_of_intersects
  · rintro ⟨row, col, hr, hs⟩
    exact intersects_of_contains hr hs

theorem bounds_of_intersects (h : r.intersects s) :
    max r.top s.top ≤ min r.bottom s.bottom ∧ max r.left s.left ≤ min r.right s.right := by
  have hr := r.top_le_bottom
  have hr' := r.left_le_right
  have hs := s.top_le_bottom
  have hs' := s.left_le_right
  rw [intersects_iff] at h
  omega

theorem intersection?_eq_some_iff :
    r.intersection? s = some t ↔ r.intersects s ∧
      t.top = max r.top s.top ∧ t.left = max r.left s.left ∧
        t.bottom = min r.bottom s.bottom ∧ t.right = min r.right s.right := by
  constructor
  · intro h
    have hcorner := (contains_of_intersection? h t.top t.left).mp t.contains_corner
    refine ⟨intersects_of_contains hcorner.1 hcorner.2, ?_⟩
    unfold intersection? at h
    split at h
    · cases h
      exact ⟨rfl, rfl, rfl, rfl⟩
    · cases h
  · rintro ⟨h, htop, hleft, hbottom, hright⟩
    cases t
    simp only at htop hleft hbottom hright
    simp [intersection?, bounds_of_intersects h, htop, hleft, hbottom, hright]

theorem isSome_intersection?_iff : (r.intersection? s).isSome ↔ r.intersects s := by
  rw [Option.isSome_iff_exists]
  constructor
  · rintro ⟨t, h⟩
    exact (intersection?_eq_some_iff.mp h).1
  · intro h
    obtain ⟨hrow, hcol⟩ := bounds_of_intersects h
    exact ⟨⟨_, _, _, _, hrow, hcol⟩, intersection?_eq_some_iff.mpr ⟨h, rfl, rfl, rfl, rfl⟩⟩

theorem sharesAsSet (r s : Range) : r.SharesAsSet s where
  shared := intersects_iff_exists
  found := isSome_intersection?_iff.trans intersects_iff_exists
  bounded := bounds_of_intersects
  bounds _ := intersection?_eq_some_iff
  contains _ h := contains_of_intersection? h

theorem listsPositions (r : Range) : r.ListsPositions r.positions where
  mem _ _ := mem_positions
  once := r.positions_sorted.nodup
  ordered := r.positions_sorted
  only _ hmem hsorted :=
    hsorted.eq_of_mem_iff r.positions_sorted fun p => (hmem p.1 p.2).trans mem_positions.symm

end Range

/-- The shared part of two ranges holds the positions that both hold, and there is one if there are
such positions; to list the positions of a range is to go through this set once and in order. -/
theorem ranges_asSets (r s : Range) : r.SharesAsSet s ∧ r.ListsPositions r.positions :=
  ⟨r.sharesAsSet s, r.listsPositions⟩

end SheetTables
