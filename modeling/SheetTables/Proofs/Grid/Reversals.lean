import SheetTables.Proofs.Grid.Histories
import SheetTables.Proofs.Grid.Probes

/-! # Reversals

Cells of a sheet never overlap, so that a step leads to cells that begin one past the edge it is
made from, however far they reach beyond it or to the sides. Seen from the other side this is the
same contact. So every step can be taken back, and a probe finds a cell if and only if the probe
back from there finds where it was made from.
-/

namespace SheetTables

namespace Direction

/-- The second range begins one past the leading edge of the first, and faces part of it. -/
def Abuts : Direction → Range → Range → Prop
  | up, r, s => s.bottom + 1 = r.top ∧ r.left ≤ s.right ∧ s.left ≤ r.right
  | down, r, s => r.bottom + 1 = s.top ∧ r.left ≤ s.right ∧ s.left ≤ r.right
  | left, r, s => s.right + 1 = r.left ∧ r.top ≤ s.bottom ∧ s.top ≤ r.bottom
  | right, r, s => r.right + 1 = s.left ∧ r.top ≤ s.bottom ∧ s.top ≤ r.bottom

variable {d : Direction} {r s strip : Range}

@[simp] theorem opposite_opposite (d : Direction) : d.opposite.opposite = d := by
  cases d <;> rfl

theorem Abuts.opposite (h : d.Abuts r s) : d.opposite.Abuts s r := by
  cases d <;> simp only [Abuts, Direction.opposite] at h ⊢ <;> omega

theorem abuts_of_shift? (h : d.shift? r 1 = some strip) (hs : strip.intersects s)
    (hd : ¬ r.intersects s) : d.Abuts r s := by
  rw [Range.intersects_iff] at hs hd
  have hr := r.top_le_bottom
  have hc := r.left_le_right
  cases d <;> simp only [shift?, Option.ite_none_right_eq_some, Option.some.injEq] at h <;>
    obtain ⟨_, rfl⟩ := h <;> dsimp only [Abuts] at hs ⊢ <;> omega

theorem Abuts.exists_shift? (h : d.Abuts r s) (hs : s.Addressed) :
    ∃ strip, d.shift? r 1 = some strip ∧ strip.intersects s := by
  obtain ⟨hbottom, hright⟩ := hs
  have hrow := s.top_le_bottom
  have hcol := s.left_le_right
  simp only [Range.intersects_iff]
  cases d <;> simp only [Abuts] at h <;>
    simp only [shift?, Option.ite_none_right_eq_some, Option.some.injEq] <;>
    refine ⟨_, ⟨by omega, rfl⟩, ?_⟩ <;> dsimp only <;> omega

theorem addressed_of_shift? {n : Nat} (hr : r.Addressed) (h : d.shift? r n = some strip) :
    strip.Addressed := by
  obtain ⟨hbottom, hright⟩ := hr
  have hrow := r.top_le_bottom
  have hcol := r.left_le_right
  cases d <;> simp only [shift?, Option.ite_none_right_eq_some, Option.some.injEq] at h <;>
    obtain ⟨_, rfl⟩ := h <;> constructor <;> dsimp only <;> omega

end Direction

namespace Grid

/-- Where a position can be addressed, so can all of the cell that covers it. -/
def Addressed (g : Grid) : Prop :=
  ∀ row col, row ≤ maxIndex → col ≤ maxIndex → (g.coverAt row col).Addressed

variable {g : Grid} {d : Direction} {c k l : Cell} {n : Nat}

theorem Leads.concat (h : g.Leads d n c k) (last : g.Adjoins d k l) : g.Leads d (n + 1) c l := by
  induction h with
  | here c => exact .onward last (.here l)
  | onward first _ ih => exact .onward first (ih last)

section Tiled

variable (ht : g.Tiled)
include ht

theorem Adjoins.abuts (h : g.Adjoins d c k) (hc : g.Holds c) : d.Abuts c.range k.range := by
  obtain ⟨hk, strip, hstrip, row, col, hin, hcover⟩ := h
  have hmeet := Range.intersects_of_contains hin hcover
  exact Direction.abuts_of_shift? hstrip hmeet (ht.apart_of_shift? hc hk hstrip hmeet)

theorem Adjoins.addressed (h : g.Adjoins d c k) (hg : g.Addressed) (hc : c.range.Addressed) :
    k.range.Addressed := by
  obtain ⟨hk, strip, hstrip, row, col, hin, hcover⟩ := h
  obtain ⟨hbottom, hright⟩ := Direction.addressed_of_shift? hc hstrip
  obtain ⟨_, hrow, _, hcol⟩ := Range.contains_iff.mp hin
  rw [← ht.cover_eq hk hcover]
  exact hg row col (Nat.le_trans hrow hbottom) (Nat.le_trans hcol hright)

theorem Adjoins.back (h : g.Adjoins d c k) (hc : g.Holds c) (ha : c.range.Addressed) :
    g.Adjoins d.opposite k c := by
  obtain ⟨strip, hstrip, hmeet⟩ := (h.abuts ht hc).opposite.exists_shift? ha
  exact ⟨hc, strip, hstrip, Range.exists_contains_of_intersects hmeet⟩

theorem Leads.back (h : g.Leads d n c k) (hg : g.Addressed) (hc : g.Holds c)
    (ha : c.range.Addressed) : g.Leads d.opposite n k c := by
  induction h with
  | here c => exact .here c
  | onward first _ ih =>
    -- The rest is taken back to where the first step led, and then the first step.
    exact (ih first.1 (first.addressed ht hg ha)).concat (first.back ht hc ha)

theorem contains_probeAll (hc : g.Holds c) (hk : g.Holds k) :
    (g.probeAll c d n).contains k ↔ ∃ l, g.Leads d n c l ∧ l.range = k.range := by
  have hp := probed ht hc d
  rw [← hp.reached n k.range, List.contains_iff_exists_mem_beq, List.mem_map]
  refine exists_congr fun l => and_congr_right fun hl => ?_
  rw [hk.beq_iff (hp.held n l hl), eq_comm]

theorem contains_probeAll_opposite (hg : g.Addressed) (hc : g.Holds c) (hk : g.Holds k)
    (ha : c.range.Addressed) (h : (g.probeAll c d n).contains k) :
    (g.probeAll k d.opposite n).contains c := by
  obtain ⟨l, hl, hrange⟩ := (contains_probeAll ht hc hk).mp h
  -- The chain may end at the cell looked up elsewhere; what is reached from it is the same.
  exact (contains_probeAll ht hk hc).mpr ((hl.back ht hg hc ha).of_range_eq hrange)

end Tiled
end Grid

theorem Sheet.grid_addressed (name : String) {edits : List Edit} (h : ∀ e ∈ edits, e.Addressed) :
    (ofEdits name edits).grid.Addressed := by
  intro row col hrow hcol
  unfold Grid.coverAt
  cases hm : (ofEdits name edits).grid.mergedAt? row col with
  | none => exact ⟨hrow, hcol⟩
  | some m =>
    have hmerge := (mem_merged_ofEdits name edits m).mp (mem_merged_of_mergedAt? hm).1
    exact h (.merge m) hmerge.mem

/-- From one of two cells the other is found, in so many steps, if and only if it is so the other
way round. Rows and columns are taken to fit in a machine word. -/
theorem probeAll_reversible (name : String) {edits : List Sheet.Edit}
    (hedits : ∀ e ∈ edits, e.Addressed) {row col row' col' : Nat}
    (hc : row ≤ maxIndex ∧ col ≤ maxIndex) (hk : row' ≤ maxIndex ∧ col' ≤ maxIndex)
    (d : Direction) (n : Nat) :
    let g := (Sheet.ofEdits name edits).grid
    (g.probeAll (g.cellAt row col) d n).contains (g.cellAt row' col') ↔
      (g.probeAll (g.cellAt row' col') d.opposite n).contains (g.cellAt row col) := by
  intro g
  have ht : g.Tiled := Sheet.tiled _
  have hg : g.Addressed := Sheet.grid_addressed name hedits
  have hcell := g.holds_cellAt row col
  have hcell' := g.holds_cellAt row' col'
  constructor
  · exact Grid.contains_probeAll_opposite ht hg hcell hcell' (hg row col hc.1 hc.2)
  · intro h
    have hback := Grid.contains_probeAll_opposite ht hg hcell' hcell (hg row' col' hk.1 hk.2) h
    rwa [Direction.opposite_opposite] at hback

/-- A merged region between two rows, which leads from one column to the other. -/
def bridgeEdits : List Sheet.Edit := [.merge (.ofCorners 1 0 2 1)]

theorem probeAll_reversible_bridge :
    let g := (Sheet.ofEdits "Sheet1" bridgeEdits).grid
    (∀ e ∈ bridgeEdits, e.Addressed) ∧ (0 ≤ maxIndex ∧ 3 ≤ maxIndex) ∧
      (g.probeAll (g.cellAt 0 0) .down 2).contains (g.cellAt 3 1) ∧
      (g.probeAll (g.cellAt 3 1) .up 2).contains (g.cellAt 0 0) := by
  intro g
  have hedits : ∀ e ∈ bridgeEdits, e.Addressed := by
    simp [bridgeEdits, Sheet.Edit.Addressed, Range.Addressed, Range.ofCorners, maxIndex]
  have hbound : 0 ≤ maxIndex ∧ 3 ≤ maxIndex := by simp [maxIndex]
  have hdown : (g.probeAll (g.cellAt 0 0) .down 2).contains (g.cellAt 3 1) := by decide
  refine ⟨hedits, hbound, hdown, ?_⟩
  exact (probeAll_reversible "Sheet1" hedits ⟨hbound.1, hbound.1⟩
    ⟨hbound.2, Nat.le_trans (by decide) hbound.2⟩ .down 2).mp hdown

end SheetTables
