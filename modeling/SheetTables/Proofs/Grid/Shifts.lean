import Mathlib.Tactic.MkIffOfInductiveProp
import SheetTables.Proofs.Grid.Reversals

/-! # Shifts

A shift leads to a strip of one row or column, as wide as the range that it is made from, and so it
is told by the number of that row or column. Shifts made one after the other add up, a shift in the
opposite direction leads back to the edge, and there is no strip exactly where the number is beyond
what can be addressed.
-/

namespace SheetTables
namespace Direction

/-- The first and last row of a range for a direction that leads from row to row, and otherwise its
first and last column. -/
def along (d : Direction) (r : Range) : Nat × Nat :=
  if d.isVertical then (r.top, r.bottom) else (r.left, r.right)

def across (d : Direction) (r : Range) : Nat × Nat :=
  if d.isVertical then (r.left, r.right) else (r.top, r.bottom)

/-- The row or column so many steps past the leading edge of a range, counted on below zero. -/
def ahead (d : Direction) (r : Range) (n : Nat) : Int :=
  match d with
  | up => r.top - n
  | down => r.bottom + n
  | left => r.left - n
  | right => r.right + n

/-- A strip of one row or column so many steps past the leading edge of a range. -/
@[mk_iff]
structure IsStrip (d : Direction) (r : Range) (n : Nat) (strip : Range) : Prop where
  thin : (d.along strip).1 = (d.along strip).2
  placed : (d.along strip).1 = d.ahead r n
  across : d.across strip = d.across r
  reached : d.ahead r n ≤ maxIndex

/-- The leading edge of a range: those of its positions past which there is no other of them. -/
def IsEdge (d : Direction) (r edge : Range) : Prop :=
  ∀ row col, edge.contains row col ↔ r.contains row col ∧
    ∀ row' col', r.contains row' col' → ¬ d.Past (.single row col) (.single row' col')

/-- What shifts of a range in a direction lead to. -/
structure Shifts (d : Direction) (r : Range) : Prop where
  composed : ∀ a b, (d.shift? r a).bind (fun strip => d.shift? strip b) = d.shift? r (a + b)
  edge : ∃ edge, d.shift? r 0 = some edge ∧ d.IsEdge r edge
  strip : ∀ a strip, d.shift? r a = some strip ↔ d.IsStrip r a strip
  apart : ∀ a strip, 0 < a → d.shift? r a = some strip → ¬ strip.intersects r
  back : ∀ a strip, d.shift? r a = some strip → d.opposite.shift? strip a = d.shift? r 0
  absent : ∀ a, d.shift? r a = none ↔ d.ahead r a < 0 ∨ maxIndex < d.ahead r a

variable {d : Direction} {r s t : Range} {a n : Nat}

theorem shift?_eq_some_iff (hr : r.Addressed) : d.shift? r n = some s ↔ d.IsStrip r n s := by
  obtain ⟨hbottom, hright⟩ := hr
  have hrow := r.top_le_bottom
  have hcol := r.left_le_right
  constructor
  · intro h
    cases d <;> simp only [shift?, Option.ite_none_right_eq_some, Option.some.injEq] at h <;>
      obtain ⟨hin, rfl⟩ := h <;> refine ⟨rfl, ?_, rfl, ?_⟩ <;>
      simp only [along, ahead, isVertical, ite_true, Bool.false_eq_true, ite_false] <;> omega
  · rintro ⟨hthin, hplaced, hacross, hreached⟩
    cases s
    cases d <;>
      simp only [along, Direction.across, ahead, isVertical, ite_true, Bool.false_eq_true, ite_false,
        Prod.mk.injEq] at hthin hplaced hacross hreached <;>
      simp only [shift?, Option.ite_none_right_eq_some, Option.some.injEq, Range.mk.injEq] <;> omega

theorem shift?_eq_none_iff (hr : r.Addressed) :
    d.shift? r n = none ↔ d.ahead r n < 0 ∨ maxIndex < d.ahead r n := by
  obtain ⟨hbottom, hright⟩ := hr
  have hrow := r.top_le_bottom
  have hcol := r.left_le_right
  cases d <;> simp only [shift?, ahead, ite_eq_right_iff, reduceCtorEq, imp_false] <;> omega

theorem isStrip_congr {d' : Direction} {r' : Range} {n' : Nat}
    (hvertical : d'.isVertical = d.isVertical) (hahead : d'.ahead r' n' = d.ahead r n)
    (hacross : d.across r' = d.across r) : d'.IsStrip r' n' t ↔ d.IsStrip r n t := by
  have halong : d'.along t = d.along t := by simp only [along, hvertical]
  have hsides : ∀ u, d'.across u = d.across u := by
    intro u
    simp only [Direction.across, hvertical]
  rw [isStrip_iff, isStrip_iff, halong, hsides, hsides, hacross, hahead]

@[simp] theorem isVertical_opposite (d : Direction) : d.opposite.isVertical = d.isVertical := by
  cases d <;> rfl

namespace IsStrip

variable (h : d.IsStrip r a s)
include h

theorem ahead_eq (b : Nat) : d.ahead s b = d.ahead r (a + b) := by
  obtain ⟨hthin, hplaced, _, _⟩ := h
  cases d <;>
    simp only [along, ahead, isVertical, ite_true, Bool.false_eq_true, ite_false]
      at hthin hplaced ⊢ <;> omega

theorem ahead_opposite : d.opposite.ahead s a = d.ahead r 0 := by
  obtain ⟨hthin, hplaced, _, _⟩ := h
  cases d <;>
    simp only [along, ahead, isVertical, opposite, ite_true, Bool.false_eq_true, ite_false]
      at hthin hplaced ⊢ <;> omega

theorem onward_iff (b : Nat) : d.IsStrip s b t ↔ d.IsStrip r (a + b) t :=
  isStrip_congr rfl (h.ahead_eq b) h.across

theorem back_iff : d.opposite.IsStrip s a t ↔ d.IsStrip r 0 t :=
  isStrip_congr d.isVertical_opposite h.ahead_opposite h.across

end IsStrip

theorem shift?_eq_none_add (h : d.shift? r a = none) (b : Nat) : d.shift? r (a + b) = none := by
  cases d <;> simp only [shift?, ite_eq_right_iff, reduceCtorEq, imp_false] at h ⊢ <;> omega

theorem shift?_shift? (hr : r.Addressed) (a b : Nat) :
    (d.shift? r a).bind (fun strip => d.shift? strip b) = d.shift? r (a + b) := by
  cases h : d.shift? r a with
  | none => exact (shift?_eq_none_add h b).symm
  | some s =>
    have hs : s.Addressed := addressed_of_shift? hr h
    refine Option.ext fun t => ?_
    rw [Option.bind_some, shift?_eq_some_iff hs, shift?_eq_some_iff hr]
    exact ((shift?_eq_some_iff hr).mp h).onward_iff b

theorem shift?_opposite (hr : r.Addressed) (h : d.shift? r a = some s) :
    d.opposite.shift? s a = d.shift? r 0 := by
  have hs : s.Addressed := addressed_of_shift? hr h
  refine Option.ext fun t => ?_
  rw [shift?_eq_some_iff hs, shift?_eq_some_iff hr]
  exact ((shift?_eq_some_iff hr).mp h).back_iff

theorem exists_edge (hr : r.Addressed) (d : Direction) : ∃ edge, d.shift? r 0 = some edge := by
  obtain ⟨hbottom, hright⟩ := hr
  cases d <;> simp [shift?, hbottom, hright]

theorem contains_edge_iff (h : d.shift? r 0 = some s) {row col : Nat} :
    s.contains row col ↔ r.contains row col ∧ d.ahead (.single row col) 0 = d.ahead r 0 := by
  have hrow := r.top_le_bottom
  have hcol := r.left_le_right
  rw [Range.contains_iff, Range.contains_iff]
  cases d <;> simp only [shift?, Option.ite_none_right_eq_some, Option.some.injEq] at h <;>
    obtain ⟨_, rfl⟩ := h <;> simp only [ahead, Range.single] <;> omega

theorem ahead_eq_iff_not_past {row col : Nat} (hin : r.contains row col) :
    d.ahead (.single row col) 0 = d.ahead r 0 ↔
      ∀ row' col', r.contains row' col' → ¬ d.Past (.single row col) (.single row' col') := by
  constructor
  · intro hahead row' col' hin'
    rw [Range.contains_iff] at hin'
    cases d <;> simp only [ahead, Past, Range.single] at hahead ⊢ <;> omega
  · intro hlast
    have hbounds := Range.contains_iff.mp hin
    -- One of the corners is as far on as any position of the range.
    have hfirst := hlast r.top r.left r.contains_corner
    have hfar := hlast r.bottom r.right (Range.contains_iff.mpr (by omega))
    cases d <;> simp only [ahead, Past, Range.single] at hfirst hfar ⊢ <;> omega

theorem isEdge_of_shift? (h : d.shift? r 0 = some s) : d.IsEdge r s := by
  intro row col
  rw [contains_edge_iff h]
  exact and_congr_right ahead_eq_iff_not_past

/-- Shifts add up, start from the leading edge, lead to strips apart from the range, lead back from
there, and fail where there is nothing to be addressed. Rows and columns are taken to fit in a
machine word. -/
theorem shifts_addUp {r : Range} (hr : r.Addressed) (d : Direction) : d.Shifts r where
  composed := shift?_shift? hr
  edge := by
    obtain ⟨edge, hedge⟩ := exists_edge hr d
    exact ⟨edge, hedge, isEdge_of_shift? hedge⟩
  strip _ _ := shift?_eq_some_iff hr
  apart _ _ ha h := not_intersects_of_shift? ha h
  back _ _ h := shift?_opposite hr h
  absent _ := shift?_eq_none_iff hr

def lastRows : Range :=
  ⟨maxIndex - 1, 1, maxIndex, 4, Nat.sub_le _ _, by decide⟩

/-- Nothing lies below the last row, and from the row above both of them a shift leads down to the
first of them. -/
theorem shifts_addUp_lastRows :
    lastRows.Addressed ∧ (∀ d : Direction, d.Shifts lastRows) ∧ down.shift? lastRows 1 = none ∧
      ∃ strip, up.shift? lastRows 1 = some strip ∧
        down.shift? strip 1 = up.shift? lastRows 0 := by
  have haddressed : lastRows.Addressed := ⟨Nat.le_refl _, by decide⟩
  have hdown : down.Shifts lastRows := shifts_addUp haddressed .down
  have hup : up.Shifts lastRows := shifts_addUp haddressed .up
  refine ⟨haddressed, shifts_addUp haddressed, (hdown.absent 1).mpr ?_, ?_⟩
  · exact Or.inr (Int.lt_succ _)
  · exact ⟨_, rfl, hup.back 1 _ rfl⟩

end Direction
end SheetTables
