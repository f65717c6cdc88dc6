import SheetTables.Grid.Range

/-! # Positions of ranges

Ranges as the sets of their positions, and the order in which positions are read: row by row,
and from left to right within a row. A range lists exactly its own positions in that order.
-/

namespace SheetTables

def RowMajor (p q : Nat × Nat) : Prop :=
  p.1 < q.1 ∨ p.1 = q.1 ∧ p.2 < q.2

namespace RowMajor

theorem irrefl (p : Nat × Nat) : ¬ RowMajor p p := by
  unfold RowMajor
  omega

theorem trans {p q r : Nat × Nat} (h : RowMajor p q) (k : RowMajor q r) : RowMajor p r := by
  unfold RowMajor at *
  omega

theorem eq_of_not {p q : Nat × Nat} (h : ¬ RowMajor p q) (k : ¬ RowMajor q p) : p = q := by
  unfold RowMajor at *
  exact Prod.ext (by omega) (by omega)

end RowMajor

namespace Range

theorem contains_iff {r : Range} {row col : Nat} :
    r.contains row col ↔ r.top ≤ row ∧ row ≤ r.bottom ∧ r.left ≤ col ∧ col ≤ r.right := by
  simp [contains, and_assoc]

theorem intersects_iff {r s : Range} :
    r.intersects s ↔
      r.top ≤ s.bottom ∧ s.top ≤ r.bottom ∧ r.left ≤ s.right ∧ s.left ≤ r.right := by
  simp [intersects, and_assoc]

theorem intersects_of_contains {r s : Range} {row col : Nat} (hr : r.contains row col)
    (hs : s.contains row col) : r.intersects s := by
  rw [contains_iff] at hr hs
  rw [intersects_iff]
  omega

theorem exists_contains_of_intersects {r s : Range} (h : r.intersects s) :
    ∃ row col, r.contains row col ∧ s.contains row col := by
  have hr := r.top_le_bottom
  have hs := s.top_le_bottom
  have hr' := r.left_le_right
  have hs' := s.left_le_right
  rw [intersects_iff] at h
  refine ⟨max r.top s.top, max r.left s.left, ?_⟩
  simp only [contains_iff]
  omega

theorem contains_corner (r : Range) : r.contains r.top r.left :=
  contains_iff.mpr ⟨Nat.le_refl _, r.top_le_bottom, Nat.le_refl _, r.left_le_right⟩

theorem contains_single {row col row' col' : Nat} :
    (single row col).contains row' col' ↔ row' = row ∧ col' = col := by
  rw [contains_iff]
  dsimp only [single]
  omega

theorem intersection?_eq_none {r s : Range} (h : r.intersection? s = none) (row col : Nat) :
    ¬ (r.contains row col ∧ s.contains row col) := by
  rintro ⟨hr, hs⟩
  rw [contains_iff] at hr hs
  have hne : max r.top s.top ≤ min r.bottom s.bottom ∧
      max r.left s.left ≤ min r.right s.right := by omega
  simp [intersection?, hne] at h

theorem contains_of_intersection? {r s t : Range} (h : r.intersection? s = some t)
    (row col : Nat) : t.contains row col ↔ r.contains row col ∧ s.contains row col := by
  unfold intersection? at h
  split at h
  · cases h
    simp only [contains_iff]
    omega
  · cases h

theorem mem_positions {r : Range} {p : Nat × Nat} : p ∈ r.positions ↔ r.contains p.1 p.2 := by
  have hr := r.top_le_bottom
  have hc := r.left_le_right
  simp only [positions, List.mem_flatMap, List.mem_map, List.mem_range'_1, contains_iff]
  constructor
  · rintro ⟨row, hrow, col, hcol, rfl⟩
    dsimp only
    omega
  · rintro ⟨h₁, h₂, h₃, h₄⟩
    exact ⟨p.1, by omega, p.2, by omega, rfl⟩

theorem positions_sorted (r : Range) : r.positions.Pairwise RowMajor := by
  refine List.pairwise_flatMap.mpr ⟨?_, ?_⟩
  · intro row _
    refine List.pairwise_map.mpr ((List.pairwise_lt_range' 1 Nat.one_pos).imp ?_)
    intro col col' h
    exact Or.inr ⟨rfl, h⟩
  · refine (List.pairwise_lt_range' 1 Nat.one_pos).imp ?_
    intro row row' h p hp q hq
    obtain ⟨_, _, rfl⟩ := List.mem_map.mp hp
    obtain ⟨_, _, rfl⟩ := List.mem_map.mp hq
    exact Or.inl h

end Range
end SheetTables
