import Mathlib.Logic.ExistsUnique
import SheetTables.Proofs.Grid.Covers

/-! # Scanning a range

A scan lists every cell that covers a position of a range, once however many positions it
covers, in the order of the first positions at which the cells show.
-/

namespace SheetTables

abbrev Range.Inside (r : Range) (row col : Nat) : Prop := r.contains row col

/-- The order in which a scan comes to cells. -/
def Cell.Before (c k : Cell) : Prop := RowMajor (c.row, c.col) (k.row, k.col)

theorem Cell.Before.irrefl (c : Cell) : ¬ c.Before c := RowMajor.irrefl _

theorem Cell.Before.trans {c k l : Cell} (h : c.Before k) (h' : k.Before l) : c.Before l :=
  RowMajor.trans h h'

namespace Grid

/-- A cell as it shows in a part of the grid: looked up at the first position there that it
covers. -/
structure Shows (g : Grid) (part : Nat → Nat → Prop) (c : Cell) : Prop where
  holds : g.Holds c
  inside : part c.row c.col
  first : ∀ row col, part row col → c.range.contains row col →
    ¬ RowMajor (row, col) (c.row, c.col)

theorem Shows.eq_of_range_eq {g : Grid} (ht : g.Tiled) {part : Nat → Nat → Prop} {c k : Cell}
    (hc : g.Shows part c) (hk : g.Shows part k) (h : c.range = k.range) : c = k := by
  have hck := hc.first _ _ hk.inside (h ▸ ht.contains_self hk.holds)
  have hkc := hk.first _ _ hc.inside (h ▸ ht.contains_self hc.holds)
  obtain ⟨hrow, hcol⟩ := Prod.mk.inj (RowMajor.eq_of_not hkc hck)
  rw [hc.holds, hk.holds, hrow, hcol]

theorem isFirstIn_iff {r cover : Range} {row col : Nat} (hr : r.contains row col)
    (hc : cover.contains row col) : isFirstIn r cover row col ↔
      ∀ row' col', r.contains row' col' → cover.contains row' col' →
        ¬ RowMajor (row', col') (row, col) := by
  simp only [Range.contains_iff] at hr hc ⊢
  simp only [isFirstIn, Bool.and_eq_true, beq_iff_eq, RowMajor]
  constructor
  · intro h row' col' hr' hc'
    omega
  · intro h
    have hcorner := h (max r.top cover.top) (max r.left cover.left) (by omega) (by omega)
    omega

section Tiled

variable {g : Grid} (ht : g.Tiled)
include ht

theorem mem_cellsIn {r : Range} {c : Cell} :
    c ∈ g.cellsIn r ↔ g.Shows r.Inside c := by
  unfold cellsIn
  rw [List.mem_map]
  constructor
  · rintro ⟨p, hp, rfl⟩
    obtain ⟨hp, hfirst⟩ := List.mem_filter.mp hp
    have hr := Range.mem_positions.mp hp
    exact ⟨g.holds_cellAt _ _, hr, (isFirstIn_iff hr (ht.covered _ _)).mp hfirst⟩
  · intro h
    refine ⟨(c.row, c.col), List.mem_filter.mpr ⟨Range.mem_positions.mpr h.inside, ?_⟩,
      h.holds.symm⟩
    refine (isFirstIn_iff h.inside (ht.covered _ _)).mpr ?_
    rw [← h.holds.range_eq]
    exact h.first

theorem exists_shows {r : Range} {row col : Nat} (h : r.contains row col) :
    ∃ c, g.Shows r.Inside c ∧ c.range = g.coverAt row col := by
  have hc := ht.covered row col
  -- The first shared position of the range and the cover is the corner of their common part.
  have hr : r.contains (max r.top (g.coverAt row col).top)
      (max r.left (g.coverAt row col).left) := by
    rw [Range.contains_iff] at h hc ⊢
    omega
  have hk : (g.coverAt row col).contains (max r.top (g.coverAt row col).top)
      (max r.left (g.coverAt row col).left) := by
    rw [Range.contains_iff] at h hc ⊢
    omega
  have he := ht.agree hk
  refine ⟨g.cellAt _ _, ⟨g.holds_cellAt _ _, hr, ?_⟩, he⟩
  intro row' col' hr' hk'
  have hr' : r.contains row' col' := hr'
  have hk' : (g.coverAt row col).contains row' col' := he ▸ hk'
  rw [Range.contains_iff] at hr' hk'
  dsimp only [cellAt, RowMajor]
  omega

theorem existsUnique_shows {r : Range} {row col : Nat} (h : r.contains row col) :
    ∃! c, g.Shows r.Inside c ∧ c.range = g.coverAt row col := by
  obtain ⟨c, hc, he⟩ := exists_shows ht h
  exact ⟨c, ⟨hc, he⟩, fun k hk => hk.1.eq_of_range_eq ht hc (hk.2.trans he.symm)⟩

theorem cellsIn_ne_nil (r : Range) : g.cellsIn r ≠ [] := by
  obtain ⟨c, hc, _⟩ := exists_shows ht r.contains_corner
  exact List.ne_nil_of_mem ((mem_cellsIn ht).mpr hc)

omit ht in
theorem cellsIn_sorted (g : Grid) (r : Range) :
    (g.cellsIn r).Pairwise Cell.Before :=
  List.pairwise_map.mpr (r.positions_sorted.filter _)

theorem cellsIn_distinct (r : Range) : (g.cellsIn r).Pairwise fun a b => a.range ≠ b.range := by
  refine (cellsIn_sorted g r).imp_of_mem ?_
  intro a b ha hb hab he
  have hab' := Shows.eq_of_range_eq ht ((mem_cellsIn ht).mp ha) ((mem_cellsIn ht).mp hb) he
  subst hab'
  exact Cell.Before.irrefl _ hab

end Tiled
end Grid
end SheetTables
