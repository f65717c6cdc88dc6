import Mathlib.Data.List.Pairwise
import SheetTables.Grid.Sheet
import SheetTables.Layout.Criteria
import SheetTables.Proofs.Grid.Positions

/-! # Covers of positions

On a sheet the ranges that cover its positions are either equal or disjoint, because merged
regions never overlap. All that is said of scans and steps rests on this, and holds as well
where null texts are read as absent, for that changes no cover.
-/

namespace SheetTables
namespace Grid

/-- Covers hold their positions, and a position has the same cover as all others in it. -/
structure Tiled (g : Grid) : Prop where
  covered : ∀ row col, (g.coverAt row col).contains row col
  agree : ∀ {row col row' col'}, (g.coverAt row col).contains row' col' →
    g.coverAt row' col' = g.coverAt row col

/-- What is looked up somewhere on a grid is a cell of it. -/
def Holds (g : Grid) (c : Cell) : Prop :=
  c = g.cellAt c.row c.col

theorem holds_cellAt (g : Grid) (row col : Nat) : g.Holds (g.cellAt row col) := rfl

theorem Holds.range_eq {g : Grid} {c : Cell} (h : g.Holds c) :
    c.range = g.coverAt c.row c.col := congrArg Cell.range h

namespace Tiled

variable {g : Grid} (ht : g.Tiled)
include ht

theorem contains_self {c : Cell} (hc : g.Holds c) : c.range.contains c.row c.col := by
  rw [hc.range_eq]
  exact ht.covered _ _

theorem cover_eq {c : Cell} (hc : g.Holds c) {row col : Nat} (h : c.range.contains row col) :
    g.coverAt row col = c.range := by
  rw [hc.range_eq] at h ⊢
  exact ht.agree h

theorem range_eq_of_contains {c k : Cell} (hc : g.Holds c) (hk : g.Holds k) {row col : Nat}
    (h : c.range.contains row col) (h' : k.range.contains row col) : c.range = k.range :=
  (ht.cover_eq hc h).symm.trans (ht.cover_eq hk h')

end Tiled
end Grid

namespace Sheet

instance : Std.Symm fun r s : Range => r.intersects s = false where
  symm r s h := (Range.intersects_comm s r).trans h

theorem mem_merged_of_mergedAt? {s : Sheet} {row col : Nat} {m : Range}
    (h : s.mergedAt? row col = some m) : m ∈ s.merged ∧ m.contains row col := by
  unfold mergedAt? at h
  exact ⟨List.mem_of_find?_eq_some h, by simpa using List.find?_some h⟩

theorem eq_of_mem_merged (s : Sheet) {m n : Range} (hm : m ∈ s.merged) (hn : n ∈ s.merged)
    {row col : Nat} (hmp : m.contains row col) (hnp : n.contains row col) : m = n := by
  by_cases hne : m = n
  · exact hne
  · have hd := s.disjoint.forall hm hn hne
    have hi := Range.intersects_of_contains hmp hnp
    simp [hd] at hi

theorem mergedAt?_eq_some {s : Sheet} {row col : Nat} {m : Range} (hm : m ∈ s.merged)
    (h : m.contains row col) : s.mergedAt? row col = some m := by
  cases hf : s.mergedAt? row col with
  | none => exact absurd h (List.find?_eq_none.mp hf m hm)
  | some n =>
    obtain ⟨hn, hnp⟩ := mem_merged_of_mergedAt? hf
    rw [s.eq_of_mem_merged hm hn h hnp]

theorem tiled (s : Sheet) : s.grid.Tiled := by
  constructor
  · intro row col
    unfold Grid.coverAt
    cases h : s.grid.mergedAt? row col with
    | none => exact Range.contains_corner _
    | some m => exact (mem_merged_of_mergedAt? h).2
  · intro row col row' col' h
    unfold Grid.coverAt at h ⊢
    cases hm : s.grid.mergedAt? row col with
    | none =>
      rw [hm] at h
      obtain ⟨rfl, rfl⟩ := Range.contains_single.mp h
      rw [hm]
    | some m =>
      rw [hm] at h
      have hat := mergedAt?_eq_some (mem_merged_of_mergedAt? hm).1 h
      exact congrArg (fun o => o.getD (.single row' col')) hat

end Sheet

theorem Criteria.tiled_view (criteria : Criteria) {g : Grid} (h : g.Tiled) :
    (criteria.view g).Tiled := ⟨h.covered, h.agree⟩

end SheetTables
