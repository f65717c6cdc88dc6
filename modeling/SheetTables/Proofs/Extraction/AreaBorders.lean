import SheetTables.Proofs.Extraction.Advances
import SheetTables.Proofs.Extraction.HeadersApart

/-! # Borders of the area

Whether a range reaches the edge of an area that it meets is told by the strip next to it: at the
edge there is no such strip, or it lies outside the area, and short of the edge it meets the area.
So an open run that stops at the edge has nothing of the area ahead of it, and one that goes on
stays in the area.
-/

namespace SheetTables

namespace Direction

variable {d : Direction} {r s area strip : Range}

theorem Follows.meets (h : d.Follows r s) (hmeet : area.intersects r) (hb : ¬ d.isBorder r area) :
    area.intersects s := by
  have hrow := s.top_le_bottom
  have hcol := s.left_le_right
  rw [Range.intersects_iff] at hmeet ⊢
  cases d <;> simp only [isBorder, Follows, decide_eq_true_eq] at h hb <;> omega

theorem meets_of_shift? (h : d.shift? r 1 = some strip) (hmeet : area.intersects r)
    (hb : ¬ d.isBorder r area) : area.intersects strip := by
  rw [Range.intersects_iff] at hmeet ⊢
  cases d <;> simp only [shift?, Option.ite_none_right_eq_some, Option.some.injEq] at h <;>
    obtain ⟨_, rfl⟩ := h <;> simp only [isBorder, decide_eq_true_eq] at hb ⊢ <;> omega

theorem past_strip_of_shift? (h : d.shift? r 1 = some strip) : d.Past r strip := by
  have hself : strip.intersects strip :=
    Range.intersects_of_contains strip.contains_corner strip.contains_corner
  refine past_of_shift? h hself fun hmeet => ?_
  rw [Range.intersects_comm] at hmeet
  exact not_intersects_of_shift? Nat.one_pos h hmeet

theorem isBorder_iff_shift? (ha : area.Addressed) (h : r.intersects area) :
    d.isBorder r area ↔ ∀ strip, d.shift? r 1 = some strip → ¬ strip.intersects area := by
  rw [Range.intersects_comm] at h
  constructor
  · intro hb strip hstrip
    rw [Range.intersects_comm]
    exact (past_strip_of_shift? hstrip).leaves hb
  · intro hleft
    by_contra hb
    obtain ⟨strip, hstrip⟩ := shift?_of_not_isBorder ha hb
    apply hleft strip hstrip
    rw [Range.intersects_comm]
    exact meets_of_shift? hstrip h hb

end Direction

namespace Grid

variable {g : Grid} (ht : g.Tiled) {d : Direction} {c k : Cell} {area : Range}
include ht

/-- At the edge of an area nothing that lies further on meets it. -/
theorem leaves_of_mem_probeAll (hc : g.Holds c) (hb : d.isBorder c.range area) {n : Nat}
    (hn : 0 < n) (hk : k ∈ g.probeAll c d n) : ¬ area.intersects k.range := by
  obtain ⟨l, hl, hrange⟩ := ((probed ht hc d).reached n k.range).mp (List.mem_map_of_mem hk)
  rw [← hrange]
  exact ((hl.beyond ht hc hn).past hn).leaves hb

/-- Short of the edge some cell next to one that meets an area meets the area as well. -/
theorem exists_meets_of_not_isBorder (ha : area.Addressed) (hmeet : area.intersects c.range)
    (hb : ¬ d.isBorder c.range area) : ∃ k ∈ g.probeAll c d 1, area.intersects k.range := by
  obtain ⟨strip, hstrip⟩ := Direction.shift?_of_not_isBorder ha hb
  obtain ⟨row, col, harea, hin⟩ :=
    Range.exists_contains_of_intersects (Direction.meets_of_shift? hstrip hmeet hb)
  obtain ⟨k, hk, hrange⟩ := exists_shows ht (r := strip) hin
  have hbeside : k ∈ g.beside d c := by
    rw [beside, hstrip]
    exact (mem_cellsIn ht).mpr hk
  rw [probeAll_one ht]
  refine ⟨k, hbeside, Range.intersects_of_contains harea ?_⟩
  exact hrange ▸ ht.covered row col

theorem isBorder_iff_probeAll (hc : g.Holds c) (ha : area.Addressed)
    (hmeet : area.intersects c.range) :
    d.isBorder c.range area ↔ ∀ k ∈ g.probeAll c d 1, ¬ area.intersects k.range := by
  constructor
  · exact fun hb k hk => leaves_of_mem_probeAll ht hc hb Nat.one_pos hk
  · intro hnone
    by_contra hb
    obtain ⟨k, hk, hmeet⟩ := exists_meets_of_not_isBorder ht ha hmeet hb
    exact hnone k hk hmeet

end Grid

theorem getLast?_of_isBorder {d : Direction} {area : Range} {cells : List Cell}
    (hpast : cells.Pairwise fun a b => d.Past a.range b.range)
    (hinside : ∀ c ∈ cells, area.intersects c.range) {c : Cell} (hc : c ∈ cells)
    (hb : d.isBorder c.range area) : cells.getLast? = some c := by
  obtain ⟨before, after, rfl⟩ := List.append_of_mem hc
  cases after with
  | nil => exact List.getLast?_concat
  | cons k after =>
    obtain ⟨_, hafter, _⟩ := List.pairwise_append.mp hpast
    have hk : d.Past c.range k.range := List.rel_of_pairwise_cons hafter List.mem_cons_self
    exact absurd (hinside k (by simp)) (hk.leaves hb)

namespace Search

/-- How the cells of an open run lie to the edge of the area ahead of them. -/
structure StopsAtBorder (s : Search) (d : Direction) (cells : List Cell) : Prop where
  inside : ∀ c ∈ cells, s.area.intersects c.range
  border : ∀ c ∈ cells, (d.isBorder c.range s.area ↔
    ∀ k ∈ s.grid.probeAll c d 1, ¬ s.area.intersects k.range)
  /-- Where a run goes on it stays in the area. -/
  onward : ∀ c ∈ cells, ¬ d.isBorder c.range s.area → ∀ k, s.grid.probe c d 1 = .ok k →
    s.area.intersects k.range
  last : ∀ c ∈ cells, d.isBorder c.range s.area → cells.getLast? = some c
  /-- Where a run stops at the edge it leaves nothing of the area out. -/
  beyond : ∀ c ∈ cells, d.isBorder c.range s.area → ∀ n k, 0 < n → k ∈ s.grid.probeAll c d n →
    ¬ s.area.intersects k.range

variable (s : Search)

theorem stopsAtBorder (ht : s.grid.Tiled) (ha : s.area.Addressed) {d : Direction}
    {cells : List Cell} (hheld : ∀ c ∈ cells, s.grid.Holds c)
    (hinside : ∀ c ∈ cells, s.area.intersects c.range)
    (hpast : cells.Pairwise fun a b => d.Past a.range b.range) : s.StopsAtBorder d cells where
  inside := hinside
  border c hc := Grid.isBorder_iff_probeAll ht (hheld c hc) ha (hinside c hc)
  onward c hc hb _ hk := (Grid.probe_follows ht (hheld c hc) hk).2.meets (hinside c hc) hb
  last _ hc hb := getLast?_of_isBorder hpast hinside hc hb
  beyond c hc hb _ _ hn hk := Grid.leaves_of_mem_probeAll ht (hheld c hc) hb hn hk

theorem run_stopsAtBorder (ht : s.grid.Tiled) (ha : s.area.Addressed) {d : Direction}
    {data : DataSpec} (hl : ∀ count, data.layout ≠ .fixed count) {origin : Cell}
    (ho : s.grid.Holds origin) : s.StopsAtBorder d (s.run d data origin).1 := by
  have hwalks := s.run_walks d data origin
  refine s.stopsAtBorder ht ha (hwalks.held ht ho) (fun c hc => ?_) (hwalks.past ht ho)
  exact (s.admits_of_mem_run ht ho hl hc).area

theorem header_stopsAtBorder (ht : s.grid.Tiled) (ha : s.area.Addressed) {f : Field}
    {data : DataSpec} (hf : f.body = .leaf data) (hl : ∀ count, data.layout ≠ .fixed count)
    {c : Cell} (hc : s.grid.Holds c) (missing : List Problem) :
    s.StopsAtBorder f.direction (s.header f c missing).data := by
  rcases s.header_data f c missing with hnone | ⟨data', origin, hf', hp, hrun⟩
  · rw [hnone]
    exact s.stopsAtBorder ht ha (List.forall_mem_nil _) (List.forall_mem_nil _) .nil
  · cases hf.symm.trans hf'
    rw [hrun]
    exact s.run_stopsAtBorder ht ha hl (Grid.probe_holds ht hc hp)

end Search

/-- The border test tells, without a step, whether a step would leave an area. So every open run
goes on within the area and up to its edge. Rows and columns are taken to fit in a machine word. -/
theorem recognize_stopsAtBorder :
    (∀ (d : Direction) (r area : Range), area.Addressed → r.intersects area →
      (d.isBorder r area ↔ ∀ strip, d.shift? r 1 = some strip → ¬ strip.intersects area)) ∧
    ∀ (name : String) (edits : List Sheet.Edit), (∀ e ∈ edits, e.Addressed) →
      ∀ (layout : TableLayout) (criteria : Criteria),
        let g := (Sheet.ofEdits name edits).grid
        ∀ t ∈ (recognize layout g criteria).1, ∃ area, searchArea? g criteria = some area ∧
          ∀ h ∈ t.headers.toList, ∀ data, h.field.body = .leaf data →
            (∀ count, data.layout ≠ .fixed count) →
              (searchIn layout g criteria area).StopsAtBorder h.field.direction h.data := by
  constructor
  · exact fun _ _ _ ha h => Direction.isBorder_iff_shift? ha h
  · intro name edits hedits layout criteria g t ht
    obtain ⟨area, harea, ht⟩ := mem_recognize ht
    refine ⟨area, harea, fun h hh data hbody hlayout => ?_⟩
    let search := searchIn layout g criteria area
    have hview : search.grid.Tiled := criteria.tiled_view (Sheet.tiled _)
    have haddressed : search.area.Addressed :=
      searchArea?_addressed (Sheet.addressed_ofEdits name hedits) harea
    obtain ⟨hcell, _, missing, he⟩ := search.header_of_mem hview ht hh
    have hdata := search.header_stopsAtBorder hview haddressed hbody hlayout hcell missing
    rwa [← he] at hdata

/-- Values in a column, the second of them over two rows and two columns. -/
def overhangEdits : List Sheet.Edit :=
  [.push 0 0 (.text "Age"), .push 1 0 (.text "30"), .merge (.ofCorners 2 0 3 1),
    .push 2 0 (.text "31"), .push 4 0 (.text "32")]

def overhangColumn : Sheet := .ofEdits "Sheet1" overhangEdits

def topCells : Criteria := { range := some (.ofCorners 0 0 2 0) }

def overhangHeader : Header :=
  let c := overhangColumn.grid.cellAt
  { field := columnLayout.anchor, cell := c 0 0, data := [c 1 0, c 2 0] }

/-- The wide value is the last of the run, for it reaches past the last row of the area; and the
strip below it is outside. -/
theorem recognize_stopsAtBorder_overhang :
    let area := Range.ofCorners 0 0 2 0
    let wide := Range.ofCorners 2 0 3 1
    (∀ e ∈ overhangEdits, e.Addressed) ∧
      searchArea? overhangColumn.grid topCells = some area ∧
      (recognize columnLayout overhangColumn.grid topCells).1.map (·.headers.toList) =
        [[overhangHeader]] ∧
      (searchIn columnLayout overhangColumn.grid topCells area).StopsAtBorder .down
        overhangHeader.data ∧
      area.Addressed ∧ wide.intersects area ∧ Direction.down.isBorder wide area ∧
      ∀ strip, Direction.down.shift? wide 1 = some strip → ¬ strip.intersects area := by
  intro area wide
  have hedits : ∀ e ∈ overhangEdits, e.Addressed := by
    simp [overhangEdits, Sheet.Edit.Addressed, Range.Addressed, Range.ofCorners, maxIndex]
  have hsearched : searchArea? overhangColumn.grid topCells = some area := rfl
  have hheaders : (recognize columnLayout overhangColumn.grid topCells).1.map
      (·.headers.toList) = [[overhangHeader]] := rfl
  have haddressed : area.Addressed := by
    simp [area, Range.Addressed, Range.ofCorners, maxIndex]
  have hmeets : wide.intersects area := rfl
  have hborder : Direction.down.isBorder wide area := rfl
  obtain ⟨t, htables, ht⟩ := List.map_eq_singleton_iff.mp hheaders
  obtain ⟨area', harea', hruns⟩ := recognize_stopsAtBorder.2 "Sheet1" overhangEdits hedits
    columnLayout topCells t (htables ▸ List.mem_singleton_self t)
  obtain rfl := Option.some.inj (hsearched.symm.trans harea')
  refine ⟨hedits, hsearched, hheaders, ?_, haddressed, hmeets, hborder, ?_⟩
  · exact hruns overhangHeader (ht ▸ List.mem_singleton_self overhangHeader) _ rfl
      fun count h => by cases h
  · exact (recognize_stopsAtBorder.1 .down wide area haddressed hmeets).mp hborder

end SheetTables
