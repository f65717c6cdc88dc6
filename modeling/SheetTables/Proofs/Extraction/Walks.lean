import SheetTables.Extraction.Table
import SheetTables.Proofs.Grid.Steps

/-! # Walks

Runs of data of every kind are walks: from cell to cell by single steps, until the walk is broken
off or a step fails. So a run has one problem at most, and its cells lie one past the other.
-/

namespace SheetTables

/-- The cells of a walk from a cell on, with the problem that may have ended it. -/
inductive Walks (g : Grid) (d : Direction) : Cell → List Cell → List Problem → Prop
  | turned (c : Cell) : Walks g d c [] []
  | halted (c : Cell) : Walks g d c [c] []
  | failed {c : Cell} {e : ProbeError} (h : g.probe c d 1 = .error e) :
    Walks g d c [c] [geometryProblem c e]
  | stepped {c k : Cell} {cells : List Cell} {problems : List Problem}
    (h : g.probe c d 1 = .ok k) (rest : Walks g d k cells problems) :
    Walks g d c (c :: cells) problems

theorem Direction.Past.trans {d : Direction} {r s t : Range} (h : d.Past r s) (k : d.Past s t) :
    d.Past r t := by
  have hrow := s.top_le_bottom
  have hcol := s.left_le_right
  cases d <;> simp only [Past] at h k ⊢ <;> omega

theorem Direction.Past.irrefl {d : Direction} {r : Range} : ¬ d.Past r r := by
  have hrow := r.top_le_bottom
  have hcol := r.left_le_right
  cases d <;> simp only [Past] <;> omega

namespace Walks

variable {g : Grid} {d : Direction} {c : Cell} {cells : List Cell} {problems : List Problem}

theorem single (h : Walks g d c cells problems) : problems.length ≤ 1 := by
  induction h with
  | turned c => exact Nat.zero_le 1
  | halted c => exact Nat.zero_le 1
  | failed h => exact Nat.le_refl 1
  | stepped h _ ih => exact ih

theorem held (ht : g.Tiled) (hc : g.Holds c) (h : Walks g d c cells problems) :
    ∀ k ∈ cells, g.Holds k := by
  induction h with
  | turned c => exact List.forall_mem_nil _
  | halted c => exact List.forall_mem_singleton.mpr hc
  | failed h => exact List.forall_mem_singleton.mpr hc
  | stepped h rest ih => exact List.forall_mem_cons.mpr ⟨hc, ih (Grid.probe_one ht hc h).1⟩

theorem mem (ht : g.Tiled) (hc : g.Holds c) (h : Walks g d c cells problems) :
    ∀ k ∈ cells, k = c ∨ d.Past c.range k.range := by
  induction h with
  | turned c => simp
  | halted c => simp
  | failed h => simp
  | @stepped c k cells problems h rest ih =>
    obtain ⟨hk, hpast⟩ := Grid.probe_one ht hc h
    intro l hl
    rcases List.mem_cons.mp hl with rfl | hl
    · exact Or.inl rfl
    · rcases ih hk l hl with rfl | hl
      · exact Or.inr hpast
      · exact Or.inr (hpast.trans hl)

theorem past (ht : g.Tiled) (hc : g.Holds c) (h : Walks g d c cells problems) :
    cells.Pairwise fun a b => d.Past a.range b.range := by
  induction h with
  | turned c => exact .nil
  | halted c => exact List.pairwise_singleton _ c
  | failed h => exact List.pairwise_singleton _ _
  | @stepped c k cells problems h rest ih =>
    obtain ⟨hk, hpast⟩ := Grid.probe_one ht hc h
    -- All that follows is reached from `k`, which lies past `c`.
    refine .cons (fun l hl => ?_) (ih hk)
    rcases rest.mem ht hk l hl with rfl | hl
    · exact hpast
    · exact hpast.trans hl

end Walks

namespace Search

variable (s : Search)

section FixedRun

variable {d : Direction} {c k : Cell} {more : Nat}

theorem fixedRun_ok (h : s.grid.probe c d 1 = .ok k) :
    s.fixedRun d (more + 1) c = (c :: (s.fixedRun d more k).1, (s.fixedRun d more k).2) := by
  simp [fixedRun, h]

theorem fixedRun_error {e : ProbeError} (h : s.grid.probe c d 1 = .error e) :
    s.fixedRun d (more + 1) c = ([c], [geometryProblem c e]) := by
  simp [fixedRun, h]

/-- Only single steps have a part in a run of fixed length. -/
theorem fixedRun_congr (s' : Search) (h : ∀ k, s'.grid.probe k d 1 = s.grid.probe k d 1)
    (more : Nat) (c : Cell) : s'.fixedRun d more c = s.fixedRun d more c := by
  induction more generalizing c with
  | zero => rfl
  | succ more ih =>
    cases hp : s.grid.probe c d 1 with
    | error e => rw [s.fixedRun_error hp, s'.fixedRun_error ((h c).trans hp)]
    | ok k => rw [s.fixedRun_ok hp, s'.fixedRun_ok ((h c).trans hp), ih]

theorem fixedRun_walks (d : Direction) (more : Nat) (c : Cell) :
    Walks s.grid d c (s.fixedRun d more c).1 (s.fixedRun d more c).2 := by
  induction more generalizing c with
  | zero => exact .halted c
  | succ more ih =>
    cases h : s.grid.probe c d 1 with
    | ok k =>
      rw [s.fixedRun_ok h]
      exact .stepped h (ih k)
    | error e =>
      rw [s.fixedRun_error h]
      exact .failed h

theorem run_eq_fixedRun {data : DataSpec} {count : Nat} (hl : data.layout = .fixed count)
    (d : Direction) (origin : Cell) : s.run d data origin = s.fixedRun d (count - 1) origin := by
  simp only [run, hl]

end FixedRun

theorem openRun_walks (d : Direction) (boundary : Option (Matcher Cell)) (room taken : Nat)
    (c : Cell) : Walks s.grid d c (s.openRun d boundary room taken c).1
      (s.openRun d boundary room taken c).2 := by
  induction room generalizing taken c with
  | zero => exact .turned c
  | succ room ih =>
    unfold openRun
    split
    · exact .turned c
    · split
      · exact .halted c
      · cases h : s.grid.probe c d 1 with
        | ok k => exact .stepped h (ih (taken + 1) k)
        | error e => exact .failed h

theorem run_walks (d : Direction) (data : DataSpec) (origin : Cell) :
    Walks s.grid d origin (s.run d data origin).1 (s.run d data origin).2 := by
  unfold run
  cases data.layout with
  | fixed count => exact s.fixedRun_walks d (count - 1) origin
  | unfixed => exact s.openRun_walks d none _ 0 origin
  | mixed => exact s.openRun_walks d data.boundary _ 0 origin

end Search
end SheetTables
