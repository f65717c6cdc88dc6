import SheetTables.Proofs.Extraction.Closest
import SheetTables.Proofs.Extraction.Occurrences
import SheetTables.Proofs.Grid.Steps

/-! # Headers of tables

Every header of a table, at whatever depth, is the header of a field of the layout at a cell of
the grid: the roots lie among the candidates, and the children where steps lead to.
-/

namespace SheetTables
namespace Search

variable (s : Search)

theorem mem_tables {t : Table} (h : t ∈ s.tables) :
    ∃ a ∈ s.anchors, ∃ occurrence, t = s.table s.candidates s.anchors a occurrence := by
  obtain ⟨occurrence, h⟩ := List.mem_iff_getElem?.mp h
  rw [tables_getElem?] at h
  obtain ⟨a, ha, rfl⟩ := Option.map_eq_some_iff.mp h
  exact ⟨a, List.mem_of_getElem? ha, occurrence, rfl⟩

theorem locateRoot_mem {anchors : List Cell} {a c : Cell} {occurrence : Nat} {f : Field}
    (ha : a ∈ s.candidates) (h : s.locateRoot s.candidates anchors occurrence a f = some c) :
    c ∈ s.candidates := by
  unfold locateRoot at h
  split at h
  · cases h
    exact ha
  · obtain ⟨i, hi⟩ := leastBy_eq_some_iff.mp h
    exact (List.mem_filter.mp (List.mem_of_getElem? hi.mem)).1

theorem childRegion_holds (ht : s.grid.Tiled) (f : Field) {c : Cell} (hc : s.grid.Holds c) :
    ∀ k ∈ s.childRegion f c, s.grid.Holds k := by
  unfold childRegion
  cases f.body with
  | group => exact Grid.probeAll_holds ht hc
  | leaf data => simp

theorem header_of_mem (ht : s.grid.Tiled) {t : Table} (htable : t ∈ s.tables) {h : Header}
    (hh : h ∈ t.headers.toList) :
    s.grid.Holds h.cell ∧ h.field ∈ s.layout.fields ∧
      ∃ missing, h = s.header h.field h.cell missing := by
  obtain ⟨a, ha, occurrence, rfl⟩ := s.mem_tables htable
  have hroots : ∀ f c, s.locateRoot s.candidates s.anchors occurrence a f = some c →
      s.grid.Holds c := by
    intro f c hc
    have hmem := s.locateRoot_mem (s.mem_anchors.mp ha).1 hc
    exact ((Grid.mem_cellsIn ht).mp hmem).holds
  obtain ⟨hcell, f, hf, missing, he⟩ :=
    s.mem_bind (fun f c hc => s.childRegion_holds ht f hc) hroots (F := s.layout.forest) hh
  have hfield : h.field = f := (congrArg Header.field he).trans (s.header_field f h.cell missing)
  exact ⟨hcell, hfield ▸ hf, missing, hfield ▸ he⟩

end Search

theorem mem_recognize {layout : TableLayout} {g : Grid} {criteria : Criteria} {t : Table}
    (h : t ∈ (recognize layout g criteria).1) :
    ∃ area, searchArea? g criteria = some area ∧ t ∈ (searchIn layout g criteria area).tables := by
  rw [recognize_fst] at h
  cases ha : searchArea? g criteria with
  | none => simp [ha] at h
  | some area =>
    rw [ha] at h
    exact ⟨area, rfl, h⟩

end SheetTables
