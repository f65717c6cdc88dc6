import Mathlib.Data.List.Induction
import SheetTables.Proofs.Grid.Edits
import SheetTables.Proofs.Grid.Scan

/-! # Histories of sheets

What a sheet shows, read off the edits that made it. An edit stands until a later one undoes it:
a value until another is put at its position, a merged region until another is merged over a part
of it. What stands is what the sheet shows. Its extent is told by all edits, standing or not: it
is the smallest range around the positions that they ever filled or merged.
-/

namespace SheetTables

theorem Value.isEmpty_iff {v : Value} : v.isEmpty ↔ v = .empty := by
  cases v <;> simp [Value.isEmpty]

namespace Range

/-- All positions of a part of the grid lie in the range. -/
def Encloses (r : Range) (part : Nat → Nat → Prop) : Prop :=
  ∀ row col, part row col → r.contains row col

/-- The smallest range around a part of the grid, if there is anything in it. -/
def LeastAround (part : Nat → Nat → Prop) : Option Range → Prop
  | none => ∀ row col, ¬ part row col
  | some r => r.Encloses part ∧ ∀ t : Range, t.Encloses part → t.Encloses r.Inside

variable {part other : Nat → Nat → Prop} {r t : Range} {extent? : Option Range}

theorem encloses_or : t.Encloses (fun row col => part row col ∨ other row col) ↔
    t.Encloses part ∧ t.Encloses other := by
  simp only [Encloses, or_imp, forall_and]

theorem encloses_position {row col : Nat} :
    t.Encloses (fun row' col' => row' = row ∧ col' = col) ↔ t.contains row col := by
  simp [Encloses]

theorem encloses_inside :
    t.Encloses r.Inside ↔ t.contains r.top r.left ∧ t.contains r.bottom r.right := by
  constructor
  · intro h
    refine ⟨h _ _ r.contains_corner, h _ _ ?_⟩
    exact contains_iff.mpr ⟨r.top_le_bottom, Nat.le_refl _, r.left_le_right, Nat.le_refl _⟩
  · exact fun h _ _ => contains_of_corners h.1 h.2

theorem encloses_including {row col : Nat} :
    t.Encloses (r.including row col).Inside ↔ t.Encloses r.Inside ∧ t.contains row col := by
  have hr := r.top_le_bottom
  have hc := r.left_le_right
  rw [encloses_inside, encloses_inside]
  simp only [contains_iff, including]
  omega

/-- Where there is a smallest range there is something to enclose. -/
theorem LeastAround.exists_mem (h : LeastAround part (some r)) : ∃ row col, part row col := by
  by_contra hnone
  push Not at hnone
  have hfar := h.2 (.single (r.bottom + 1) r.left) fun row col hp => absurd hp (hnone row col)
  have hcorner := contains_single.mp (hfar _ _ r.contains_corner)
  have hr := r.top_le_bottom
  omega

theorem LeastAround.congr (h : LeastAround part (some r))
    (he : ∀ t : Range, t.Encloses part ↔ t.Encloses other) : LeastAround other (some r) :=
  ⟨(he r).mp h.1, fun t ht => h.2 t ((he t).mpr ht)⟩

theorem LeastAround.including (h : LeastAround part (some r)) (row col : Nat) :
    LeastAround (fun row' col' => part row' col' ∨ row' = row ∧ col' = col)
      (some (r.including row col)) := by
  constructor
  · rw [encloses_or, encloses_position]
    exact ⟨fun _ _ hp => contains_including (h.1 _ _ hp) _ _, contains_including_self _ _ _⟩
  · intro t ht
    obtain ⟨hpart, hposition⟩ := encloses_or.mp ht
    exact encloses_including.mpr ⟨h.2 t hpart, encloses_position.mp hposition⟩

theorem LeastAround.mono (h : LeastAround part (some r)) (h' : LeastAround other extent?)
    (hp : ∀ row col, part row col → other row col) :
    ∃ extent, extent? = some extent ∧ extent.Encloses r.Inside := by
  cases extent? with
  | none =>
    obtain ⟨row, col, hpart⟩ := h.exists_mem
    exact absurd (hp _ _ hpart) (h' row col)
  | some extent => exact ⟨extent, rfl, h.2 extent fun _ _ hpart => h'.1 _ _ (hp _ _ hpart)⟩

theorem LeastAround.exists_contains (h : LeastAround part extent?) {row col : Nat}
    (hp : part row col) : ∃ extent, extent? = some extent ∧ extent.contains row col := by
  cases extent? with
  | none => exact absurd hp (h row col)
  | some extent => exact ⟨extent, rfl, h.1 _ _ hp⟩

end Range

namespace Sheet

/-- The first edit, made after the second, leaves nothing of it. -/
def Edit.Undoes : Edit → Edit → Prop
  | .push row col _, .push row' col' _ => row = row' ∧ col = col'
  | .merge n, .merge m => n.intersects m
  | _, _ => False

/-- An edit was made, and no later one undoes it. -/
def Stands (edits : List Edit) (e : Edit) : Prop :=
  ∃ before after, edits = before ++ e :: after ∧ ∀ later ∈ after, ¬ later.Undoes e

def Edit.Reaches : Edit → Nat → Nat → Prop
  | .push row col v, row', col' => v ≠ .empty ∧ row' = row ∧ col' = col
  | .merge m, row', col' => m.contains row' col'

def Reached (edits : List Edit) (row col : Nat) : Prop := ∃ e ∈ edits, e.Reaches row col

/-- A sheet shows what its edits left of themselves. -/
structure Recounts (name : String) (edits : List Edit) : Prop where
  value : ∀ row col v, (ofEdits name edits).valueAt row col = v ↔
    Stands edits (.push row col v) ∨ v = .empty ∧ ∀ w, .push row col w ∉ edits
  merged : ∀ row col m, (ofEdits name edits).mergedAt? row col = some m ↔
    Stands edits (.merge m) ∧ m.contains row col
  apart : ∀ m n, Stands edits (.merge m) → Stands edits (.merge n) → m ≠ n →
    ∀ row col, ¬ (m.contains row col ∧ n.contains row col)
  displaced : ∀ m later, ¬ Stands edits (.merge m) → .merge m ∉ later →
    ∀ row col, (ofEdits name (edits ++ later)).mergedAt? row col ≠ some m
  extent : Range.LeastAround (Reached edits) (ofEdits name edits).extent?
  stored : ∀ row col, (ofEdits name edits).valueAt row col ≠ .empty →
    ∃ extent, (ofEdits name edits).extent? = some extent ∧ extent.contains row col
  within : ∀ m, Stands edits (.merge m) →
    ∃ extent, (ofEdits name edits).extent? = some extent ∧ extent.Encloses m.Inside
  grown : ∀ later extent, (ofEdits name edits).extent? = some extent →
    ∃ extent', (ofEdits name (edits ++ later)).extent? = some extent' ∧
      extent'.Encloses extent.Inside

section Stands

variable {edits : List Edit} {e x : Edit}

theorem Stands.mem (h : Stands edits e) : e ∈ edits := by
  obtain ⟨before, after, rfl, _⟩ := h
  exact List.mem_append_right _ List.mem_cons_self

theorem stands_concat : Stands (edits ++ [x]) e ↔ x = e ∨ Stands edits e ∧ ¬ x.Undoes e := by
  constructor
  · rintro ⟨before, after, heq, hafter⟩
    rcases after.eq_nil_or_concat with rfl | ⟨after, y, rfl⟩
    · exact Or.inl (List.singleton_inj.mp (List.append_inj_right' heq rfl))
    · rw [List.concat_eq_append] at heq hafter
      rw [← List.cons_append, ← List.append_assoc] at heq
      obtain ⟨rfl, hxy⟩ := List.append_inj' heq rfl
      obtain rfl := List.singleton_inj.mp hxy
      refine Or.inr ⟨⟨before, after, rfl, fun later hl => ?_⟩, ?_⟩
      · exact hafter later (List.mem_append_left _ hl)
      · exact hafter x (List.mem_append_right _ List.mem_cons_self)
  · rintro (rfl | ⟨⟨before, after, rfl, hafter⟩, hx⟩)
    · exact ⟨edits, [], rfl, fun _ h => by cases h⟩
    · refine ⟨before, after ++ [x], by simp, fun later hl => ?_⟩
      rcases List.mem_append.mp hl with hl | hl
      · exact hafter later hl
      · exact List.mem_singleton.mp hl ▸ hx

/-- What does not stand comes back only if it is done again. -/
theorem stands_append {later : List Edit} (h : Stands (edits ++ later) e) :
    e ∈ later ∨ Stands edits e := by
  induction later using List.reverseRecOn with
  | nil => exact Or.inr (by simpa using h)
  | append_singleton later x ih =>
    rw [← List.append_assoc, stands_concat] at h
    rcases h with rfl | ⟨h, _⟩
    · exact Or.inl (List.mem_append_right _ List.mem_cons_self)
    · exact (ih h).imp_left (List.mem_append_left _)

theorem reached_concat :
    Reached (edits ++ [x]) = fun row col => Reached edits row col ∨ x.Reaches row col := by
  funext row col
  simp [Reached, or_and_right, exists_or]

end Stands

theorem ofEdits_concat (name : String) (edits : List Edit) (e : Edit) :
    ofEdits name (edits ++ [e]) = (ofEdits name edits).apply e := by
  simp [ofEdits]

theorem valueAt_ofEdits (name : String) (edits : List Edit) (row col : Nat) (v : Value) :
    (ofEdits name edits).valueAt row col = v ↔
      Stands edits (.push row col v) ∨ v = .empty ∧ ∀ w, .push row col w ∉ edits := by
  induction edits using List.reverseRecOn generalizing v with
  | nil => simp [ofEdits, ofName, valueAt, Stands, eq_comm (a := Value.empty)]
  | append_singleton edits e ih =>
    rw [ofEdits_concat, stands_concat]
    cases e with
    | merge m =>
      have hsame : ((ofEdits name edits).apply (.merge m)).valueAt row col =
          (ofEdits name edits).valueAt row col := rfl
      rw [hsame, ih]
      simp [Edit.Undoes]
    | push row' col' w =>
      rw [apply, valueAt_push]
      by_cases hp : (row, col) = (row', col')
      · obtain ⟨rfl, rfl⟩ := Prod.mk.inj hp
        have hput : ¬ ∀ u, Edit.push row col u ∉ edits ++ [.push row col w] :=
          fun h => h w (List.mem_append_right _ List.mem_cons_self)
        simp only [Edit.Undoes, hput, and_self, not_true, and_false, or_false, if_true,
          Edit.push.injEq, true_and]
      · have hne : ¬ (row' = row ∧ col' = col) := fun h => hp (by rw [h.1, h.2])
        rw [if_neg hp, ih]
        simp only [Edit.Undoes, hne]
        have hpush : ∀ u, Edit.push row col u ≠ .push row' col' w := by
          intro u hu
          cases hu
          exact hp rfl
        simp [hpush, (hpush _).symm]

theorem mem_merged_ofEdits (name : String) (edits : List Edit) (m : Range) :
    m ∈ (ofEdits name edits).merged ↔ Stands edits (.merge m) := by
  induction edits using List.reverseRecOn with
  | nil => simp [ofEdits, ofName, Stands]
  | append_singleton edits e ih =>
    rw [ofEdits_concat, stands_concat]
    cases e with
    | push row col v => simp [apply, ih, Edit.Undoes]
    | merge n =>
      simp only [apply, merge, List.mem_cons, List.mem_filter, ih, Edit.Undoes, Edit.merge.injEq,
        Range.intersects_comm m n, Bool.not_eq_true', Bool.not_eq_true, eq_comm (a := m)]

theorem leastAround_extended {extent? : Option Range} {part : Nat → Nat → Prop}
    (h : Range.LeastAround part extent?) (row col : Nat) :
    Range.LeastAround (fun row' col' => part row' col' ∨ row' = row ∧ col' = col)
      (some (extended extent? row col)) := by
  cases extent? with
  | none =>
    constructor
    · rintro row' col' (hp | hp)
      · exact absurd hp (h row' col')
      · exact Range.contains_single.mpr hp
    · intro t ht row' col' hp
      exact ht _ _ (Or.inr (Range.contains_single.mp hp))
  | some r => exact h.including row col

theorem extent_ofEdits (name : String) (edits : List Edit) :
    Range.LeastAround (Reached edits) (ofEdits name edits).extent? := by
  induction edits using List.reverseRecOn with
  | nil => simp [ofEdits, ofName, Range.LeastAround, Reached]
  | append_singleton edits e ih =>
    rw [ofEdits_concat, reached_concat]
    cases e with
    | push row col v =>
      by_cases hv : v = .empty
      · simpa [apply, push, hv, Value.isEmpty, Edit.Reaches] using ih
      · have hfull : v.isEmpty = false := Bool.eq_false_iff.mpr (mt Value.isEmpty_iff.mp hv)
        simpa [apply, push, hv, hfull, Edit.Reaches] using leastAround_extended ih row col
    | merge m =>
      -- Two corners of a region are enclosed if and only if the region is.
      refine ((leastAround_extended ih m.top m.left).including m.bottom m.right).congr fun t => ?_
      change _ ↔ t.Encloses fun row col => Reached edits row col ∨ m.Inside row col
      simp only [Range.encloses_or, Range.encloses_position, Range.encloses_inside, and_assoc]

/-- What a sheet shows is told by its edits alone. -/
theorem ofEdits_recounts (name : String) (edits : List Edit) : Recounts name edits := by
  have hextent := extent_ofEdits name edits
  constructor
  · exact valueAt_ofEdits name edits
  · intro row col m
    rw [← mem_merged_ofEdits name]
    exact ⟨mem_merged_of_mergedAt?, fun h => mergedAt?_eq_some h.1 h.2⟩
  · intro m n hm hn hne row col hp
    rw [← mem_merged_ofEdits name] at hm hn
    exact hne (eq_of_mem_merged _ hm hn hp.1 hp.2)
  · intro m later hm hlater row col hat
    have hstands := (mem_merged_ofEdits name _ m).mp (mem_merged_of_mergedAt? hat).1
    exact (stands_append hstands).elim hlater hm
  · exact hextent
  · intro row col hne
    refine hextent.exists_contains ?_
    rcases (valueAt_ofEdits name edits row col _).mp rfl with hput | ⟨hempty, _⟩
    · exact ⟨_, hput.mem, hne, rfl, rfl⟩
    · exact absurd hempty hne
  · intro m hm
    obtain ⟨extent, he, _⟩ := hextent.exists_contains ⟨_, hm.mem, m.contains_corner⟩
    rw [he] at hextent
    exact ⟨extent, he, fun row col hp => hextent.1 row col ⟨_, hm.mem, hp⟩⟩
  · intro later extent he
    rw [he] at hextent
    refine hextent.mono (extent_ofEdits name _) fun row col hp => ?_
    obtain ⟨e, hmem, hreach⟩ := hp
    exact ⟨e, List.mem_append_left _ hmem, hreach⟩

/-- A region does not come back when the one that displaced it is displaced in turn. -/
example :
    let s := ofEdits "Sheet1"
      [.merge (.ofCorners 0 0 0 1), .merge (.ofCorners 0 1 0 2), .merge (.ofCorners 0 2 0 3)]
    s.mergedAt? 0 0 = none ∧ s.mergedAt? 0 1 = none ∧
      s.mergedAt? 0 2 = some (.ofCorners 0 2 0 3) := by
  decide

end Sheet
end SheetTables
