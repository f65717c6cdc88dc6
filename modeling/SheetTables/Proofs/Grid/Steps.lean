import SheetTables.Grid.Probe
import SheetTables.Proofs.Grid.Scan

/-! # Steps between cells

A step leads to cells that lie wholly past the one it is made from, whatever the sizes of both.
Where it leads to no cell the strip next to the cell is not on any sheet, for every position is
covered by some cell. So inside an area of a sheet a step fails only by leading to several cells,
and a step from the edge of the area always leaves it.
-/

namespace SheetTables

theorem mem_of_mem_eraseDups {α : Type} [BEq α] {a : α} (as : List α) (h : a ∈ as.eraseDups) :
    a ∈ as := by
  match as with
  | [] => simp at h
  | b :: bs =>
    rw [List.eraseDups_cons, List.mem_cons] at h
    rcases h with rfl | h
    · exact List.mem_cons_self
    · have hbs := mem_of_mem_eraseDups (bs.filter fun c => !c == b) h
      exact List.mem_cons_of_mem b (List.mem_filter.mp hbs).1
termination_by as.length
decreasing_by exact Nat.lt_succ_of_le (List.length_filter_le _ bs)

theorem eraseDups_of_distinct {cells : List Cell}
    (h : cells.Pairwise fun a b => a.range ≠ b.range) : cells.eraseDups = cells := by
  induction h with
  | nil => rfl
  | @cons c cells hc _ ih =>
    have hkept : cells.filter (fun k => !k == c) = cells := by
      refine List.filter_eq_self.mpr fun k hk => ?_
      have hne : (k.range == c.range) = false := beq_false_of_ne (hc k hk).symm
      change (!(k.sheet == c.sheet && k.range == c.range)) = true
      simp [hne]
    rw [List.eraseDups_cons, hkept, ih]

/-- Neither the rows nor the columns of a range go beyond what can be addressed. -/
def Range.Addressed (r : Range) : Prop := r.bottom ≤ maxIndex ∧ r.right ≤ maxIndex

namespace Direction

def Past : Direction → Range → Range → Prop
  | up, r, s => s.bottom < r.top
  | down, r, s => r.bottom < s.top
  | left, r, s => s.right < r.left
  | right, r, s => r.right < s.left

theorem past_of_shift? {d : Direction} {r strip s : Range} (h : d.shift? r 1 = some strip)
    (hs : strip.intersects s) (hd : ¬ r.intersects s) : d.Past r s := by
  rw [Range.intersects_iff] at hs hd
  have hr := r.top_le_bottom
  have hc := r.left_le_right
  cases d <;> simp only [shift?, Option.ite_none_right_eq_some, Option.some.injEq] at h <;>
    obtain ⟨_, rfl⟩ := h <;> dsimp only [Past] at hs ⊢ <;> omega

theorem not_intersects_of_shift? {d : Direction} {r strip : Range} {n : Nat} (hn : 0 < n)
    (h : d.shift? r n = some strip) : ¬ strip.intersects r := by
  rw [Range.intersects_iff]
  cases d <;> simp only [shift?, Option.ite_none_right_eq_some, Option.some.injEq] at h <;>
    obtain ⟨_, rfl⟩ := h <;> dsimp only <;> omega

theorem Past.leaves {d : Direction} {r s area : Range} (h : d.Past r s)
    (hb : d.isBorder r area) : ¬ area.intersects s := by
  rw [Range.intersects_iff]
  cases d <;> simp only [isBorder, Past, decide_eq_true_eq] at h hb <;> omega

/-- Short of the edge of an area there is a strip to step to. -/
theorem shift?_of_not_isBorder {d : Direction} {r area : Range} (ha : area.Addressed)
    (hb : ¬ d.isBorder r area) : ∃ strip, d.shift? r 1 = some strip := by
  obtain ⟨hbottom, hright⟩ := ha
  rw [← Option.isSome_iff_exists]
  cases d <;> simp only [isBorder, decide_eq_true_eq] at hb <;> simp [shift?] <;> omega

end Direction

namespace Grid

variable {g : Grid}

theorem probe_eq_ok_iff {c k : Cell} {d : Direction} {n : Nat} :
    g.probe c d n = .ok k ↔ g.probeAll c d n = [k] := by
  unfold probe
  rcases g.probeAll c d n with _ | ⟨a, _ | ⟨b, rest⟩⟩ <;> simp

theorem probe_eq_error {c : Cell} {d : Direction} {n : Nat} {e : ProbeError}
    (h : g.probe c d n = .error e) (hne : g.probeAll c d n ≠ []) :
    ∃ count, 2 ≤ count ∧ e = .ambiguous c.reference d n count := by
  unfold probe at h
  rcases hp : g.probeAll c d n with _ | ⟨a, _ | ⟨b, rest⟩⟩
  · exact absurd hp hne
  · simp [hp] at h
  · rw [hp] at h
    cases h
    exact ⟨_, by simp, rfl⟩

section Tiled

variable (ht : g.Tiled)
include ht

theorem Tiled.apart_of_shift? {c k : Cell} {d : Direction} {strip : Range} (hc : g.Holds c)
    (hk : g.Holds k) (hstrip : d.shift? c.range 1 = some strip) (h : strip.intersects k.range) :
    ¬ c.range.intersects k.range := by
  intro hmeet
  obtain ⟨row, col, hp, hq⟩ := Range.exists_contains_of_intersects hmeet
  rw [← ht.range_eq_of_contains hc hk hp hq] at h
  exact Direction.not_intersects_of_shift? Nat.one_pos hstrip h

theorem mem_beside {c k : Cell} {d : Direction} (hc : g.Holds c) (hk : k ∈ g.beside d c) :
    g.Holds k ∧ d.Past c.range k.range := by
  unfold beside at hk
  split at hk
  · next strip hstrip =>
    have hshows := (mem_cellsIn ht).mp hk
    have hshared := Range.intersects_of_contains hshows.inside (ht.contains_self hshows.holds)
    exact ⟨hshows.holds, Direction.past_of_shift? hstrip hshared
      (ht.apart_of_shift? hc hshows.holds hstrip hshared)⟩
  · cases hk

theorem beside_ne_nil {c : Cell} {d : Direction} {strip : Range}
    (h : d.shift? c.range 1 = some strip) : g.beside d c ≠ [] := by
  unfold beside
  rw [h]
  exact cellsIn_ne_nil ht strip

theorem probeAll_one (c : Cell) (d : Direction) : g.probeAll c d 1 = g.beside d c := by
  have hd : (g.beside d c).Pairwise fun a b => a.range ≠ b.range := by
    unfold beside
    cases d.shift? c.range 1 with
    | none => exact .nil
    | some strip => exact cellsIn_distinct ht strip
  simp only [probeAll, steps, step, List.flatMap_cons, List.flatMap_nil, List.append_nil]
  exact eraseDups_of_distinct hd

theorem probe_one {c k : Cell} {d : Direction} (hc : g.Holds c) (h : g.probe c d 1 = .ok k) :
    g.Holds k ∧ d.Past c.range k.range := by
  rw [probe_eq_ok_iff, probeAll_one ht] at h
  exact mem_beside ht hc (h ▸ List.mem_singleton_self k)

theorem probe_one_error {c : Cell} {d : Direction} {area : Range} {e : ProbeError}
    (h : g.probe c d 1 = .error e) (ha : area.Addressed) (hb : ¬ d.isBorder c.range area) :
    ∃ count, 2 ≤ count ∧ e = .ambiguous c.reference d 1 count := by
  obtain ⟨strip, hstrip⟩ := Direction.shift?_of_not_isBorder ha hb
  refine probe_eq_error h ?_
  rw [probeAll_one ht]
  exact beside_ne_nil ht hstrip

theorem steps_holds {d : Direction} (n : Nat) {cells : List Cell} (h : ∀ c ∈ cells, g.Holds c) :
    ∀ k ∈ g.steps d n cells, g.Holds k := by
  induction n generalizing cells with
  | zero => exact h
  | succ n ih =>
    refine ih fun k hk => ?_
    obtain ⟨c, hc, hk⟩ := List.mem_flatMap.mp (mem_of_mem_eraseDups _ hk)
    exact (mem_beside ht (h c hc) hk).1

theorem probeAll_holds {c : Cell} {d : Direction} {n : Nat} (hc : g.Holds c) :
    ∀ k ∈ g.probeAll c d n, g.Holds k :=
  steps_holds ht n fun _ hk => List.mem_singleton.mp hk ▸ hc

theorem probe_holds {c k : Cell} {d : Direction} {n : Nat} (hc : g.Holds c)
    (h : g.probe c d n = .ok k) : g.Holds k :=
  probeAll_holds ht hc k (probe_eq_ok_iff.mp h ▸ List.mem_singleton_self k)

end Tiled
end Grid

namespace Sheet

/-- An edit at rows and columns that can be addressed. -/
def Edit.Addressed : Edit → Prop
  | .push row col _ => row ≤ maxIndex ∧ col ≤ maxIndex
  | .merge r => r.Addressed

def Addressed (s : Sheet) : Prop := ∀ extent, s.extent? = some extent → extent.Addressed

theorem addressed_extended {s : Sheet} (h : s.Addressed) {row col : Nat} (hrow : row ≤ maxIndex)
    (hcol : col ≤ maxIndex) : (extended s.extent? row col).Addressed := by
  unfold extended
  cases he : s.extent? with
  | none => exact ⟨hrow, hcol⟩
  | some extent =>
    obtain ⟨hbottom, hright⟩ := h extent he
    exact ⟨Nat.max_le.mpr ⟨hbottom, hrow⟩, Nat.max_le.mpr ⟨hright, hcol⟩⟩

theorem addressed_apply {s : Sheet} (h : s.Addressed) {e : Edit} (he : e.Addressed) :
    (s.apply e).Addressed := by
  cases e with
  | push row col v =>
    intro extent hextent
    by_cases hv : v.isEmpty
    · simp only [apply, push, hv] at hextent
      exact h extent hextent
    · simp only [apply, push, hv] at hextent
      cases hextent
      exact addressed_extended h he.1 he.2
  | merge r =>
    intro extent hextent
    cases hextent
    obtain ⟨hbottom, hright⟩ := addressed_extended h (Nat.le_trans r.top_le_bottom he.1)
      (Nat.le_trans r.left_le_right he.2)
    exact ⟨Nat.max_le.mpr ⟨hbottom, he.1⟩, Nat.max_le.mpr ⟨hright, he.2⟩⟩

theorem addressed_ofEdits (name : String) {edits : List Edit} (h : ∀ e ∈ edits, e.Addressed) :
    (ofEdits name edits).Addressed := by
  have hrun : ∀ s : Sheet, s.Addressed → (edits.foldl apply s).Addressed := by
    induction edits with
    | nil => exact fun s hs => hs
    | cons e edits ih =>
      intro s hs
      have hrest := ih fun e he => h e (List.mem_cons_of_mem _ he)
      exact hrest _ (addressed_apply hs (h e List.mem_cons_self))
  refine hrun _ ?_
  intro extent hextent
  cases hextent

end Sheet
end SheetTables
