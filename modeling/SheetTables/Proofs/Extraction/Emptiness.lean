import SheetTables.Calendar.Gregorian
import SheetTables.Extraction.Sheet
import SheetTables.Proofs.Grid.Histories

/-! # Empty sheets

A sheet is empty when it shows neither a value nor a merged region, that is when it was never
merged and all that stands on it is cleared. It has no extent when it was never merged and nothing
but clearing was ever done to it, and this is when it is read as empty. The two differ on the
sheets whose values were all cleared again: nothing is left on them, but they keep their extent.
-/

namespace SheetTables

theorem emptySheet_mem_problems {layout : SheetLayout} {g : Grid} {criteria : Criteria} :
    .emptySheet ∈ (readSheet layout g criteria).problems ↔
      layout.necessity.isRequired ∧ g.extent? = none := by
  have htables : ∀ t : TableLayout, .emptySheet ∉ (readTables g criteria t).2 := by
    intro t h
    simp [readTables, prefixed] at h
  cases hextent : g.extent? with
  | none => simp [readSheet, hextent]
  | some extent => simp [readSheet, hextent, htables]

theorem readSheet_tables_of_extent {layout : SheetLayout} {g : Grid} {criteria : Criteria}
    (h : g.extent? = none) : (readSheet layout g criteria).tables = [] := by
  simp [readSheet, h]

namespace Sheet

variable {name : String} {edits : List Edit}

theorem ne_empty_of_mem_values {entry : (Nat × Nat) × Value}
    (h : entry ∈ (ofEdits name edits).values) : entry.2 ≠ .empty := by
  induction edits using List.reverseRecOn with
  | nil => cases h
  | append_singleton edits e ih =>
    rw [ofEdits_concat] at h
    cases e with
    | merge m => exact ih h
    | push row col v =>
      by_cases hv : v.isEmpty
      · rw [apply, push, if_pos hv] at h
        exact ih (List.mem_filter.mp h).1
      · rw [apply, push, if_neg hv] at h
        rcases List.mem_cons.mp h with rfl | h
        · exact mt Value.isEmpty_iff.mpr hv
        · exact ih (List.mem_filter.mp h).1

theorem values_eq_nil_iff : (ofEdits name edits).values = [] ↔
    ∀ row col, (ofEdits name edits).valueAt row col = .empty := by
  constructor
  · intro h row col
    rw [valueAt, h]
    rfl
  · intro h
    cases hvalues : (ofEdits name edits).values with
    | nil => rfl
    | cons entry rest =>
      have hshown := h entry.1.1 entry.1.2
      have hstored : entry.2 ≠ .empty := ne_empty_of_mem_values (hvalues ▸ List.mem_cons_self)
      rw [valueAt, hvalues, List.lookup_cons_self] at hshown
      exact absurd hshown hstored

theorem merged_eq_nil_iff {s : Sheet} : s.merged = [] ↔ ∀ row col, s.mergedAt? row col = none := by
  constructor
  · intro h row col
    rw [mergedAt?, h]
    rfl
  · intro h
    refine List.eq_nil_iff_forall_not_mem.mpr fun m hm => ?_
    have hat := mergedAt?_eq_some hm m.contains_corner
    rw [h] at hat
    cases hat

theorem isEmpty_iff : (ofEdits name edits).isEmpty ↔ ∀ row col,
    (ofEdits name edits).valueAt row col = .empty ∧
      (ofEdits name edits).mergedAt? row col = none := by
  rw [isEmpty, Bool.and_eq_true, List.isEmpty_iff, List.isEmpty_iff, values_eq_nil_iff,
    merged_eq_nil_iff]
  simp only [forall_and]

/-- A merged region gives way only to another. -/
theorem exists_stands_merge {m : Range} (h : .merge m ∈ edits) :
    ∃ n, Stands edits (.merge n) := by
  induction edits using List.reverseRecOn with
  | nil => cases h
  | append_singleton edits e ih =>
    simp only [stands_concat]
    cases e with
    | merge n => exact ⟨n, Or.inl rfl⟩
    | push row col v =>
      rcases List.mem_append.mp h with h | h
      · obtain ⟨n, hn⟩ := ih h
        exact ⟨n, Or.inr ⟨hn, id⟩⟩
      · cases List.mem_singleton.mp h

theorem isEmpty_iff_stands : (ofEdits name edits).isEmpty ↔ (∀ m, .merge m ∉ edits) ∧
    ∀ row col v, Stands edits (.push row col v) → v = .empty := by
  rw [isEmpty_iff]
  constructor
  · intro h
    refine ⟨fun m hm => ?_, fun row col v hv => ?_⟩
    · obtain ⟨n, hn⟩ := exists_stands_merge hm
      rw [← mem_merged_ofEdits name] at hn
      have hat := mergedAt?_eq_some hn n.contains_corner
      rw [(h _ _).2] at hat
      cases hat
    · rw [← (valueAt_ofEdits name edits row col v).mpr (Or.inl hv)]
      exact (h row col).1
  · rintro ⟨hmerge, hput⟩ row col
    constructor
    · rcases (valueAt_ofEdits name edits row col _).mp rfl with hstands | ⟨hempty, _⟩
      · exact hput row col _ hstands
      · exact hempty
    · refine Option.eq_none_iff_forall_ne_some.mpr fun m hm => ?_
      have hstands := (mem_merged_ofEdits name edits m).mp (mem_merged_of_mergedAt? hm).1
      exact hmerge m hstands.mem

theorem extent?_eq_none_iff : (ofEdits name edits).extent? = none ↔ (∀ m, .merge m ∉ edits) ∧
    ∀ row col v, .push row col v ∈ edits → v = .empty := by
  have hextent := extent_ofEdits name edits
  constructor
  · intro h
    rw [h] at hextent
    refine ⟨fun m hm => ?_, fun row col v hv => ?_⟩
    · exact hextent m.top m.left ⟨_, hm, m.contains_corner⟩
    · by_contra hne
      exact hextent row col ⟨_, hv, hne, rfl, rfl⟩
  · rintro ⟨hmerge, hput⟩
    cases he : (ofEdits name edits).extent? with
    | none => rfl
    | some extent =>
      rw [he] at hextent
      obtain ⟨_, _, e, hmem, hreach⟩ := hextent.exists_mem
      cases e with
      | push row col v => exact absurd (hput row col v hmem) hreach.1
      | merge m => exact absurd hmem (hmerge m)

theorem isEmpty_of_extent? (h : (ofEdits name edits).extent? = none) :
    (ofEdits name edits).isEmpty := by
  obtain ⟨hmerge, hput⟩ := extent?_eq_none_iff.mp h
  exact isEmpty_iff_stands.mpr ⟨hmerge, fun row col v hv => hput row col v hv.mem⟩

/-- When a sheet is empty, when it has no extent, and which of the two its reading goes by. -/
structure EmptinessTold (name : String) (edits : List Edit) : Prop where
  shown : (ofEdits name edits).isEmpty ↔ ∀ row col,
    (ofEdits name edits).valueAt row col = .empty ∧ (ofEdits name edits).mergedAt? row col = none
  left : (ofEdits name edits).isEmpty ↔ (∀ m, .merge m ∉ edits) ∧
    ∀ row col v, Stands edits (.push row col v) → v = .empty
  untouched : (ofEdits name edits).extent? = none ↔ (∀ m, .merge m ∉ edits) ∧
    ∀ row col v, .push row col v ∈ edits → v = .empty
  agreed : ((ofEdits name edits).extent? = none ↔ (ofEdits name edits).isEmpty) ↔
    ¬ ((ofEdits name edits).isEmpty ∧ ∃ row col v, .push row col v ∈ edits ∧ v ≠ .empty)
  reported : ∀ layout criteria,
    .emptySheet ∈ (readSheet layout (ofEdits name edits).grid criteria).problems ↔
      layout.necessity.isRequired ∧ (ofEdits name edits).extent? = none
  skipped : ∀ layout criteria, (ofEdits name edits).extent? = none →
    (readSheet layout (ofEdits name edits).grid criteria).tables = []

/-- A sheet without an extent is empty, and an empty sheet has an extent exactly if a value was ever
put on it. -/
theorem ofEdits_emptiness (name : String) (edits : List Edit) : EmptinessTold name edits := by
  refine ⟨isEmpty_iff, isEmpty_iff_stands, extent?_eq_none_iff, ?_,
    fun _ _ => emptySheet_mem_problems, fun _ _ h => readSheet_tables_of_extent h⟩
  constructor
  · rintro hagree ⟨hbare, row, col, v, hv, hne⟩
    exact hne ((extent?_eq_none_iff.mp (hagree.mpr hbare)).2 row col v hv)
  · intro h
    refine ⟨isEmpty_of_extent?, fun hbare =>
      extent?_eq_none_iff.mpr ⟨(isEmpty_iff_stands.mp hbare).1, ?_⟩⟩
    intro row col v hv
    by_contra hne
    exact h ⟨hbare, row, col, v, hv, hne⟩

def clearing : List Edit := [.push 0 0 (.text "a"), .push 0 0 .empty]

/-- Nothing is left on the sheet, and it is not read as empty. -/
theorem cleared_keeps_extent :
    (ofEdits "Sheet1" clearing).isEmpty ∧
      (ofEdits "Sheet1" clearing).extent? = some (.single 0 0) ∧
      ¬ ((ofEdits "Sheet1" clearing).extent? = none ↔ (ofEdits "Sheet1" clearing).isEmpty) ∧
      ∀ layout criteria,
        .emptySheet ∉ (readSheet layout (ofEdits "Sheet1" clearing).grid criteria).problems := by
  have hbare : (ofEdits "Sheet1" clearing).isEmpty := by decide
  have hextent : (ofEdits "Sheet1" clearing).extent? = some (.single 0 0) := by decide
  refine ⟨hbare, hextent, fun h => ?_, fun layout criteria h => ?_⟩
  · cases hextent.symm.trans (h.mpr hbare)
  · cases hextent.symm.trans (emptySheet_mem_problems.mp h).2

end Sheet
end SheetTables
