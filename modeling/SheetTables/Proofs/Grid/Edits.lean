import SheetTables.Grid.Sheet
import SheetTables.Proofs.Grid.Positions

/-! # Edits of a sheet

What a value put at a position changes of a sheet, and what holds of every sheet that edits make:
its merged regions lie within its extent.
-/

namespace SheetTables

section Lookup

variable {α β : Type} [BEq α] [LawfulBEq α] {a b : α}

theorem lookup_filter_ne (h : a ≠ b) (l : List (α × β)) :
    (l.filter fun p => p.1 != b).lookup a = l.lookup a := by
  induction l with
  | nil => rfl
  | cons p l ih =>
    obtain ⟨k, v⟩ := p
    by_cases hk : k = b
    · have ha : (a == b) = false := beq_eq_false_iff_ne.mpr h
      simp [List.lookup_cons, ih, ha, hk]
    · simp [List.lookup_cons, ih, hk]

theorem lookup_filter_self (a : α) (l : List (α × β)) :
    (l.filter fun p => p.1 != a).lookup a = none := by
  rw [List.lookup_eq_none_iff]
  intro p hp
  exact bne_iff_ne.mpr (bne_iff_ne.mp (List.mem_filter.mp hp).2).symm

end Lookup

namespace Range

theorem contains_including_self (r : Range) (row col : Nat) :
    (r.including row col).contains row col := by
  rw [contains_iff]
  simp only [including]
  omega

theorem contains_including {r : Range} {row' col' : Nat} (h : r.contains row' col')
    (row col : Nat) : (r.including row col).contains row' col' := by
  rw [contains_iff] at h ⊢
  simp only [including]
  omega

theorem including_of_contains {r : Range} {row col : Nat} (h : r.contains row col) :
    r.including row col = r := by
  rw [contains_iff] at h
  simp only [including, Nat.min_eq_left h.1, Nat.max_eq_left h.2.1, Nat.min_eq_left h.2.2.1,
    Nat.max_eq_left h.2.2.2]

theorem contains_of_corners {r extent : Range} (hfirst : extent.contains r.top r.left)
    (hlast : extent.contains r.bottom r.right) {row col : Nat} (h : r.contains row col) :
    extent.contains row col := by
  rw [contains_iff] at hfirst hlast h ⊢
  omega

end Range

namespace Sheet

variable {s : Sheet}

@[simp] theorem push_name (row col : Nat) (v : Value) : (s.push row col v).name = s.name := by
  unfold push
  split <;> rfl

@[simp] theorem push_merged (row col : Nat) (v : Value) :
    (s.push row col v).merged = s.merged := by
  unfold push
  split <;> rfl

theorem valueAt_push (row col : Nat) (v : Value) (row' col' : Nat) :
    (s.push row col v).valueAt row' col' =
      if (row', col') = (row, col) then v else s.valueAt row' col' := by
  unfold valueAt push
  by_cases hp : (row', col') = (row, col)
  · rw [if_pos hp, hp]
    cases v <;> simp [Value.isEmpty, lookup_filter_self]
  · have hkey : ((row', col') == (row, col)) = false := beq_eq_false_iff_ne.mpr hp
    rw [if_neg hp]
    split <;> simp only [List.lookup_cons, hkey, lookup_filter_ne hp]

theorem push_extent {extent : Range} {row col : Nat} (he : s.extent? = some extent)
    (h : extent.contains row col) (v : Value) : (s.push row col v).extent? = some extent := by
  unfold push
  split
  · exact he
  · simp only [he, extended, Range.including_of_contains h]

def Enclosed (s : Sheet) : Prop :=
  ∀ m ∈ s.merged, ∃ extent, s.extent? = some extent ∧
    ∀ row col, m.contains row col → extent.contains row col

theorem contains_extended (s : Sheet) (row col : Nat) :
    (extended s.extent? row col).contains row col := by
  unfold extended
  cases s.extent? with
  | none => exact (Range.contains_corner (.single row col))
  | some extent => exact extent.contains_including_self row col

theorem contains_extended_of_extent {extent : Range} (he : s.extent? = some extent)
    {row' col' : Nat} (h : extent.contains row' col') (row col : Nat) :
    (extended s.extent? row col).contains row' col' := by
  rw [he]
  exact Range.contains_including h row col

theorem enclosed_apply (h : s.Enclosed) (e : Edit) : (s.apply e).Enclosed := by
  intro m hm
  cases e with
  | push row col v =>
    rw [apply, push_merged] at hm
    obtain ⟨extent, he, hwithin⟩ := h m hm
    by_cases hv : v.isEmpty
    · exact ⟨extent, by simpa [apply, push, hv] using he, hwithin⟩
    · refine ⟨extended s.extent? row col, by simp [apply, push, hv], ?_⟩
      exact fun _ _ hp => contains_extended_of_extent he (hwithin _ _ hp) row col
  | merge r =>
    refine ⟨_, rfl, fun row col hp => ?_⟩
    rcases List.mem_cons.mp hm with rfl | hm
    · exact Range.contains_of_corners
        (Range.contains_including (s.contains_extended m.top m.left) _ _)
        (Range.contains_including_self _ _ _) hp
    · obtain ⟨extent, he, hwithin⟩ := h m (List.mem_filter.mp hm).1
      exact Range.contains_including (contains_extended_of_extent he (hwithin _ _ hp) _ _) _ _

theorem enclosed_ofEdits (name : String) (edits : List Edit) : (ofEdits name edits).Enclosed := by
  have hrun : ∀ s : Sheet, s.Enclosed → (edits.foldl apply s).Enclosed := by
    induction edits with
    | nil => exact fun s hs => hs
    | cons e edits ih => exact fun s hs => ih _ (enclosed_apply hs e)
  exact hrun _ fun m hm => by cases hm

end Sheet
end SheetTables
