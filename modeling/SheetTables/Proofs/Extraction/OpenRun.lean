import SheetTables.Proofs.Extraction.Headers
import SheetTables.Proofs.Layout.Settling

/-! # Open runs

Single steps from the origin of a run make a walk, as far as each of them leads to one cell. An
open run is the longest stretch of admitted cells at the start of that walk, cut to the length
that the criteria allow. No step is tried from a cell on the edge of the area, for it would leave
the area; any other step leaves less of the area ahead, and so every run comes to an end.
-/

namespace SheetTables

def Grid.walk (g : Grid) (d : Direction) (c : Cell) : Nat → Option Cell
  | 0 => some c
  | n + 1 => (g.walk d c n).bind fun k => (g.probe k d 1).toOption

theorem Grid.walk_succ (g : Grid) (d : Direction) (c : Cell) (n : Nat) :
    g.walk d c (n + 1) = (g.probe c d 1).toOption.bind fun k => g.walk d k n := by
  induction n with
  | zero => simp [walk]
  | succ n ih =>
    rw [walk, ih, Option.bind_assoc]
    rfl

/-- The longest stretch at the start of a walk that holds admitted cells only. -/
structure LongestStretch (walk : Nat → Option Cell) (Admitted : Cell → Prop)
    (cells : List Cell) : Prop where
  walked : ∀ i < cells.length, walk i = cells[i]?
  admitted : ∀ c ∈ cells, Admitted c
  longest : ∀ c, walk cells.length = some c → ¬ Admitted c

namespace LongestStretch

variable {Admitted : Cell → Prop}

theorem length_le {walk : Nat → Option Cell} {as bs : List Cell}
    (ha : LongestStretch walk Admitted as) (hb : LongestStretch walk Admitted bs) :
    bs.length ≤ as.length := by
  by_contra hlt
  have hlt : as.length < bs.length := by omega
  have hw := hb.walked _ hlt
  rw [List.getElem?_eq_getElem hlt] at hw
  exact ha.longest _ hw (hb.admitted _ (List.getElem_mem hlt))

theorem unique {walk : Nat → Option Cell} {as bs : List Cell}
    (ha : LongestStretch walk Admitted as) (hb : LongestStretch walk Admitted bs) : as = bs := by
  have hlen : as.length = bs.length := Nat.le_antisymm (hb.length_le ha) (ha.length_le hb)
  apply List.ext_getElem?
  intro i
  by_cases hi : i < as.length
  · rw [← ha.walked i hi, hb.walked i (hlen ▸ hi)]
  · rw [List.getElem?_eq_none (by omega), List.getElem?_eq_none (by omega)]

variable {g : Grid} {d : Direction} {c : Cell}

theorem nil (hc : ¬ Admitted c) : LongestStretch (g.walk d c) Admitted [] where
  walked i hi := absurd hi (Nat.not_lt_zero i)
  admitted k hk := by cases hk
  longest k hk := by
    cases hk
    exact hc

theorem cons {k : Cell} {cells : List Cell} (hc : Admitted c) (hk : g.probe c d 1 = .ok k)
    (h : LongestStretch (g.walk d k) Admitted cells) :
    LongestStretch (g.walk d c) Admitted (c :: cells) := by
  have hwalk : ∀ n, g.walk d c (n + 1) = g.walk d k n := by
    intro n
    simp [g.walk_succ, hk, Except.toOption]
  constructor
  · intro i hi
    cases i with
    | zero => rfl
    | succ i =>
      rw [hwalk]
      exact h.walked i (Nat.lt_of_succ_lt_succ hi)
  · exact List.forall_mem_cons.mpr ⟨hc, h.admitted⟩
  · intro l hl
    rw [List.length_cons, hwalk] at hl
    exact h.longest l hl

theorem last {e : ProbeError} (hc : Admitted c) (he : g.probe c d 1 = .error e) :
    LongestStretch (g.walk d c) Admitted [c] where
  walked i hi := by
    obtain rfl := Nat.lt_one_iff.mp hi
    rfl
  admitted k hk := List.mem_singleton.mp hk ▸ hc
  longest k hk := by simp [Grid.walk, he, Except.toOption] at hk

end LongestStretch

/-- The boundary of an open run; only a mixed layout has one. -/
def DataSpec.openBoundary (data : DataSpec) : Option (Matcher Cell) :=
  match data.layout with
  | .mixed => data.boundary
  | .fixed _ | .unfixed => none

namespace Search

variable (s : Search)

/-- What may stand in an open run: a cell that meets the area and is neither a header of the
table nor a boundary, nor empty where that ends a run. -/
structure Admits (boundary : Option (Matcher Cell)) (c : Cell) : Prop where
  area : s.area.intersects c.range
  header : ∀ f ∈ s.layout.fields, ¬ f.matcher.test c
  boundary : ∀ m, boundary = some m → ¬ m.test c
  empty : s.criteria.endAtEmptyCell → ¬ c.isEmpty

def isFull (taken : Nat) : Bool := s.criteria.maxRun.any (· ≤ taken)

/-- What is left of cells that come after so many others of a run. -/
def cut (taken : Nat) (cells : List Cell) : List Cell :=
  s.criteria.maxRun.elim cells fun limit => cells.take (limit - taken)

/-- The problem at the end of a run: its last cell lies short of the edge of the area, and the
step from there fails. -/
def ending (d : Direction) (cells : List Cell) : Option Problem :=
  cells.getLast?.bind fun c =>
    if d.isBorder c.range s.area then none
    else match s.grid.probe c d 1 with
      | .ok _ => none
      | .error e => some (geometryProblem c e)

theorem endsBefore_iff {boundary : Option (Matcher Cell)} {taken : Nat} {c : Cell} :
    s.endsBefore boundary taken c ↔ s.isFull taken ∨ ¬ s.Admits boundary c := by
  have hadmits : s.Admits boundary c ↔ s.area.intersects c.range ∧ ¬ s.isHeader c ∧
      ¬ boundary.any (·.test c) ∧ ¬ (s.criteria.endAtEmptyCell && c.isEmpty) := by
    constructor
    · rintro ⟨ha, hh, hb, he⟩
      refine ⟨ha, by simpa [isHeader] using hh, ?_, by simpa using he⟩
      cases boundary with
      | none => simp
      | some m => simpa using hb m rfl
    · rintro ⟨ha, hh, hb, he⟩
      refine ⟨ha, by simpa [isHeader] using hh, ?_, by simpa using he⟩
      rintro m rfl
      simpa using hb
  rw [hadmits]
  simp only [endsBefore, isFull, Bool.or_eq_true, Bool.not_eq_true']
  grind

theorem cut_of_isFull {taken : Nat} (h : s.isFull taken) (cells : List Cell) :
    s.cut taken cells = [] := by
  unfold isFull at h
  unfold cut
  cases hm : s.criteria.maxRun with
  | none => simp [hm] at h
  | some limit =>
    have hle : limit ≤ taken := by simpa [hm] using h
    simp [Nat.sub_eq_zero_of_le hle]

theorem cut_cons {taken : Nat} (h : ¬ s.isFull taken) (c : Cell) (cells : List Cell) :
    s.cut taken (c :: cells) = c :: s.cut (taken + 1) cells := by
  unfold isFull at h
  unfold cut
  cases hm : s.criteria.maxRun with
  | none => rfl
  | some limit =>
    have hlt : taken < limit := by simpa [hm] using h
    obtain ⟨more, hmore⟩ : ∃ more, limit - taken = more + 1 := ⟨limit - taken - 1, by omega⟩
    have hrest : limit - (taken + 1) = more := by omega
    simp [hmore, hrest]

@[simp] theorem cut_nil (taken : Nat) : s.cut taken [] = [] := by
  unfold cut
  cases s.criteria.maxRun <;> simp

theorem ending_cons {d : Direction} {c k : Cell} (h : s.grid.probe c d 1 = .ok k)
    (cells : List Cell) : s.ending d (c :: cells) = s.ending d cells := by
  cases cells with
  | nil => simp [ending, h]
  | cons a cells => simp [ending]

theorem room_lt {d : Direction} {r r' : Range} (h : d.Past r r') (hb : ¬ d.isBorder r s.area) :
    s.room d r' < s.room d r := by
  have hr := r'.top_le_bottom
  have hc := r'.left_le_right
  cases d <;> simp only [Direction.isBorder, Direction.Past, decide_eq_true_eq, room] at h hb ⊢ <;>
    omega

section OneStep

variable {d : Direction} {boundary : Option (Matcher Cell)} {room taken : Nat} {c : Cell}

theorem openRun_ends (h : s.endsBefore boundary taken c) :
    s.openRun d boundary (room + 1) taken c = ([], []) := by
  simp [openRun, h]

theorem openRun_border (h : ¬ s.endsBefore boundary taken c) (hb : d.isBorder c.range s.area) :
    s.openRun d boundary (room + 1) taken c = ([c], []) := by
  simp [openRun, h, hb]

theorem openRun_error {e : ProbeError} (h : ¬ s.endsBefore boundary taken c)
    (hb : ¬ d.isBorder c.range s.area) (he : s.grid.probe c d 1 = .error e) :
    s.openRun d boundary (room + 1) taken c = ([c], [geometryProblem c e]) := by
  simp [openRun, h, hb, he]

theorem openRun_ok {k : Cell} (h : ¬ s.endsBefore boundary taken c)
    (hb : ¬ d.isBorder c.range s.area) (hk : s.grid.probe c d 1 = .ok k) :
    s.openRun d boundary (room + 1) taken c =
      (c :: (s.openRun d boundary room (taken + 1) k).1,
        (s.openRun d boundary room (taken + 1) k).2) := by
  simp [openRun, h, hb, hk]

end OneStep

theorem stretch_border (ht : s.grid.Tiled) {d : Direction} {boundary : Option (Matcher Cell)}
    {c : Cell} (hc : s.grid.Holds c) (ha : s.Admits boundary c) (hb : d.isBorder c.range s.area) :
    LongestStretch (s.grid.walk d c) (s.Admits boundary) [c] := by
  cases hp : s.grid.probe c d 1 with
  | error e => exact .last ha hp
  | ok k =>
    have hleft : ¬ s.Admits boundary k := fun hk =>
      (Grid.probe_one ht hc hp).2.leaves hb hk.area
    exact .cons ha hp (.nil hleft)

/-- A run with more steps than there is room for is a cut of the longest stretch of its walk. -/
theorem openRun_eq (ht : s.grid.Tiled) {d : Direction} (boundary : Option (Matcher Cell))
    {room : Nat} {c : Cell} (hc : s.grid.Holds c) (hroom : s.room d c.range < room) :
    ∃ cells, LongestStretch (s.grid.walk d c) (s.Admits boundary) cells ∧
      ∀ taken, s.openRun d boundary room taken c =
        (s.cut taken cells, (s.ending d (s.cut taken cells)).toList) := by
  induction room generalizing c with
  | zero => exact absurd hroom (Nat.not_lt_zero _)
  | succ room ih =>
    by_cases ha : s.Admits boundary c
    swap
    · refine ⟨[], .nil ha, fun taken => ?_⟩
      rw [s.openRun_ends (s.endsBefore_iff.mpr (Or.inr ha)), cut_nil]
      rfl
    -- A full run takes no cell, so that only the cells of a run with room left are at issue.
    suffices h : ∃ rest, LongestStretch (s.grid.walk d c) (s.Admits boundary) (c :: rest) ∧
        ∀ taken, ¬ s.endsBefore boundary taken c →
          s.openRun d boundary (room + 1) taken c =
            (c :: s.cut (taken + 1) rest, (s.ending d (c :: s.cut (taken + 1) rest)).toList) by
      obtain ⟨rest, hrest, hrun⟩ := h
      refine ⟨c :: rest, hrest, fun taken => ?_⟩
      by_cases hf : s.isFull taken
      · rw [s.openRun_ends (s.endsBefore_iff.mpr (Or.inl hf)), s.cut_of_isFull hf]
        rfl
      · have hgo : ¬ s.endsBefore boundary taken c := by
          rw [endsBefore_iff]
          exact not_or.mpr ⟨hf, not_not_intro ha⟩
        rw [s.cut_cons hf, hrun taken hgo]
    by_cases hb : d.isBorder c.range s.area
    · refine ⟨[], s.stretch_border ht hc ha hb, fun taken hgo => ?_⟩
      rw [s.openRun_border hgo hb]
      simp [ending, hb]
    · cases hp : s.grid.probe c d 1 with
      | error e =>
        refine ⟨[], .last ha hp, fun taken hgo => ?_⟩
        rw [s.openRun_error hgo hb hp]
        simp [ending, hb, hp]
      | ok k =>
        obtain ⟨hk, hpast⟩ := Grid.probe_one ht hc hp
        have hless := s.room_lt hpast hb
        obtain ⟨rest, hrest, hrun⟩ := ih hk (by omega)
        refine ⟨rest, .cons ha hp hrest, fun taken hgo => ?_⟩
        rw [s.openRun_ok hgo hb hp, hrun, s.ending_cons hp]

/-- An open run from an origin, as the walk from there tells it. -/
structure IsOpenRun (d : Direction) (boundary : Option (Matcher Cell)) (origin : Cell)
    (cells : List Cell) (problems : List Problem) : Prop where
  stretch : ∃ whole, LongestStretch (s.grid.walk d origin) (s.Admits boundary) whole ∧
    cells = s.criteria.maxRun.elim whole fun limit => whole.take limit
  /-- More steps make no difference. -/
  settled : ∀ more, s.openRun d boundary (s.room d origin.range + 1 + more) 0 origin =
    (cells, problems)
  single : problems.length ≤ 1
  failed : ∀ p, p ∈ problems ↔ ∃ last e, cells.getLast? = some last ∧
    ¬ d.isBorder last.range s.area ∧ s.grid.probe last d 1 = .error e ∧
    p = .inconsistentGeometry last.reference e
  ambiguous : ∀ p ∈ problems, ∃ last count, cells.getLast? = some last ∧ 2 ≤ count ∧
    p = .inconsistentGeometry last.reference (.ambiguous last.reference d 1 count)

theorem ending_eq_some_iff {d : Direction} {cells : List Cell} {p : Problem} :
    s.ending d cells = some p ↔ ∃ last e, cells.getLast? = some last ∧
      ¬ d.isBorder last.range s.area ∧ s.grid.probe last d 1 = .error e ∧
      p = .inconsistentGeometry last.reference e := by
  unfold ending
  rw [Option.bind_eq_some_iff]
  refine exists_congr fun last => ?_
  by_cases hb : d.isBorder last.range s.area
  · simp [hb]
  · cases hp : s.grid.probe last d 1 <;> simp [hb, geometryProblem, eq_comm]

theorem isOpenRun (ht : s.grid.Tiled) (ha : s.area.Addressed) {d : Direction}
    {boundary : Option (Matcher Cell)} {origin : Cell} (ho : s.grid.Holds origin) :
    s.IsOpenRun d boundary origin
      (s.openRun d boundary (s.room d origin.range + 1) 0 origin).1
      (s.openRun d boundary (s.room d origin.range + 1) 0 origin).2 := by
  obtain ⟨whole, hwhole, hrun⟩ := s.openRun_eq ht boundary ho
    (Nat.lt_succ_self (s.room d origin.range))
  rw [hrun 0]
  constructor
  · exact ⟨whole, hwhole, rfl⟩
  · intro more
    obtain ⟨whole', hwhole', hrun'⟩ := s.openRun_eq ht boundary ho
      (Nat.lt_add_right more (Nat.lt_succ_self (s.room d origin.range)))
    rw [hrun' 0, hwhole'.unique hwhole]
  · cases s.ending d (s.cut 0 whole) <;> simp
  · intro p
    exact Option.mem_toList.trans s.ending_eq_some_iff
  · intro p hp
    obtain ⟨last, e, hlast, hb, he, rfl⟩ := s.ending_eq_some_iff.mp (Option.mem_toList.mp hp)
    obtain ⟨count, hcount, rfl⟩ := Grid.probe_one_error ht he ha hb
    exact ⟨last, count, hlast, hcount, rfl⟩

theorem run_eq_openRun {data : DataSpec} (h : ∀ count, data.layout ≠ .fixed count)
    (d : Direction) (origin : Cell) :
    s.run d data origin =
      s.openRun d data.openBoundary (s.room d origin.range + 1) 0 origin := by
  unfold run DataSpec.openBoundary
  cases hl : data.layout with
  | fixed count => exact absurd hl (h count)
  | unfixed => rfl
  | mixed => rfl

end Search

theorem searchArea?_addressed {s : Sheet} (hs : s.Addressed) {criteria : Criteria} {area : Range}
    (ha : searchArea? s.grid criteria = some area) : area.Addressed := by
  have hcorner : area.Inside area.bottom area.right := Range.contains_iff.mpr
    ⟨area.top_le_bottom, Nat.le_refl _, area.left_le_right, Nat.le_refl _⟩
  rw [← searched_of_searchArea? ha] at hcorner
  obtain ⟨extent, hextent, hp⟩ := hcorner.1
  have hle := Range.contains_iff.mp hp
  obtain ⟨hbottom, hright⟩ := hs extent hextent
  exact ⟨Nat.le_trans hle.2.1 hbottom, Nat.le_trans hle.2.2.2 hright⟩

/-- The data of every leaf that is neither of fixed length nor without an origin are an open run
from there. Rows and columns are taken to fit in a machine word, as those of a sheet do. -/
theorem recognize_openRuns (name : String) {edits : List Sheet.Edit}
    (hedits : ∀ e ∈ edits, e.Addressed) (layout : TableLayout) (criteria : Criteria) :
    let g := (Sheet.ofEdits name edits).grid
    ∀ t ∈ (recognize layout g criteria).1,
      ∃ area, searchArea? g criteria = some area ∧
        ∀ h ∈ t.headers.toList, ∀ data, h.field.body = .leaf data →
          (∀ count, data.layout ≠ .fixed count) →
          ∀ origin, (criteria.view g).probe h.cell h.field.direction h.field.distance = .ok origin →
            (searchIn layout g criteria area).IsOpenRun h.field.direction data.openBoundary origin
              h.data h.problems := by
  intro g t ht
  have hview : (criteria.view g).Tiled := criteria.tiled_view (Sheet.tiled _)
  rw [recognize_fst] at ht
  cases ha : searchArea? g criteria with
  | none => simp [ha] at ht
  | some area =>
    simp only [ha] at ht
    refine ⟨area, rfl, fun h hh data hbody hlayout origin ho => ?_⟩
    have harea := searchArea?_addressed (Sheet.addressed_ofEdits name hedits) ha
    obtain ⟨hcell, _, missing, he⟩ := Search.header_of_mem _ hview ht hh
    have horigin := Grid.probe_holds hview hcell ho
    have hrun := Search.header_run (searchIn layout g criteria area) hbody ho missing
    rw [← he, Search.run_eq_openRun _ hlayout] at hrun
    rw [hrun.1, hrun.2]
    exact Search.isOpenRun _ hview harea horigin

def columnLayout : TableLayout where
  name := "Ages"
  necessity := .required
  anchor :=
    { keyedField 0 "Age" with
      direction := .down, body := .leaf { layout := .mixed, boundary := some (labelled "Total") } }
  anchorChildren := .nil
  others := .nil
  validators := []

def forkedEdits : List Sheet.Edit :=
  [.push 0 0 (.text "Age"), .push 1 0 (.text "30"), .merge (.ofCorners 2 0 2 1),
    .push 2 0 (.text "31"), .push 3 0 (.text "32")]

def forkedColumn : Sheet := .ofEdits "Sheet1" forkedEdits

def forkedHeader : Header :=
  let c := forkedColumn.grid.cellAt
  { field := columnLayout.anchor
    cell := c 0 0
    data := [c 1 0, c 2 0]
    problems := [geometryProblem (c 2 0) (.ambiguous (c 2 0).reference .down 1 2)] }

/-- The run stops at the wide value, short of the last row. -/
theorem recognize_openRuns_forked :
    (∀ e ∈ forkedEdits, e.Addressed) ∧
      (recognize columnLayout forkedColumn.grid {}).1.map (·.headers.toList) = [[forkedHeader]] ∧
      ∃ area, searchArea? forkedColumn.grid {} = some area ∧
        (searchIn columnLayout forkedColumn.grid {} area).IsOpenRun .down (some (labelled "Total"))
          (forkedColumn.grid.cellAt 1 0) forkedHeader.data forkedHeader.problems := by
  have hedits : ∀ e ∈ forkedEdits, e.Addressed := by
    simp [forkedEdits, Sheet.Edit.Addressed, Range.Addressed, Range.ofCorners, maxIndex]
  have hheaders : (recognize columnLayout forkedColumn.grid {}).1.map (·.headers.toList) =
      [[forkedHeader]] := rfl
  refine ⟨hedits, hheaders, ?_⟩
  obtain ⟨t, htables, ht⟩ := List.map_eq_singleton_iff.mp hheaders
  obtain ⟨area, harea, hruns⟩ :=
    recognize_openRuns "Sheet1" hedits columnLayout {} t (htables ▸ List.mem_singleton_self t)
  refine ⟨area, harea, ?_⟩
  exact hruns forkedHeader (ht ▸ List.mem_singleton_self forkedHeader) _ rfl
    (fun count h => by cases h) _ rfl

end SheetTables
