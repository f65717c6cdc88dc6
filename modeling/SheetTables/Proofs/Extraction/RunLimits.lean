import SheetTables.Proofs.Extraction.Mirroring
import SheetTables.Proofs.Extraction.Walks

/-! # Limits of runs

The limits of the criteria shorten open runs, and nothing else. A run that is shortened is a part
of the unlimited run from its origin, and has no problem, whatever comes of the steps beyond.
-/

namespace SheetTables
namespace Criteria

def unlimited (criteria : Criteria) : Criteria :=
  { criteria with endAtEmptyCell := false, maxRun := none }

def after (criteria : Criteria) (taken : Nat) : Criteria :=
  { criteria with maxRun := criteria.maxRun.map (· - taken) }

/-- How many cells of an unlimited run remain: as many as there may be, and none from the first
empty one on if that ends a run. -/
def kept (criteria : Criteria) (cells : List Cell) : Nat :=
  min (criteria.maxRun.getD cells.length)
    (if criteria.endAtEmptyCell then cells.findIdx (·.isEmpty) else cells.length)

def shorten (criteria : Criteria) (run : List Cell × List Problem) : List Cell × List Problem :=
  (run.1.take (criteria.kept run.1),
    if criteria.kept run.1 < run.1.length then [] else run.2)

variable {criteria : Criteria}

@[simp] theorem after_zero : criteria.after 0 = criteria := by
  simp [after]

@[simp] theorem shorten_nil (problems : List Problem) :
    criteria.shorten ([], problems) = ([], problems) := by
  simp [shorten]

theorem kept_after (taken : Nat) (cells : List Cell) : (criteria.after taken).kept cells =
    min ((criteria.maxRun.map (· - taken)).getD cells.length)
      (if criteria.endAtEmptyCell then cells.findIdx (·.isEmpty) else cells.length) := rfl

theorem kept_of_stop {taken : Nat} {c : Cell}
    (h : criteria.maxRun.any (· ≤ taken) ∨ (criteria.endAtEmptyCell && c.isEmpty))
    (cells : List Cell) : (criteria.after taken).kept (c :: cells) = 0 := by
  rw [kept_after]
  rcases h with h | h
  · cases hm : criteria.maxRun with
    | none => simp [hm] at h
    | some limit =>
      have hle : limit ≤ taken := by simpa [hm] using h
      simp [Nat.sub_eq_zero_of_le hle]
  · rw [Bool.and_eq_true] at h
    simp [h.1, h.2, List.findIdx_cons]

theorem kept_cons {taken : Nat} {c : Cell} (hm : ¬ criteria.maxRun.any (· ≤ taken))
    (he : ¬ (criteria.endAtEmptyCell && c.isEmpty)) (cells : List Cell) :
    (criteria.after taken).kept (c :: cells) = (criteria.after (taken + 1)).kept cells + 1 := by
  have hlimit : (criteria.maxRun.map (· - taken)).getD (c :: cells).length =
      (criteria.maxRun.map (· - (taken + 1))).getD cells.length + 1 := by
    cases hr : criteria.maxRun with
    | none => rfl
    | some limit =>
      have hlt : taken < limit := by simpa [hr] using hm
      simp only [Option.map_some, Option.getD_some]
      omega
  have hstop : (if criteria.endAtEmptyCell then (c :: cells).findIdx (·.isEmpty)
        else (c :: cells).length) =
      (if criteria.endAtEmptyCell then cells.findIdx (·.isEmpty) else cells.length) + 1 := by
    cases h : criteria.endAtEmptyCell with
    | false => rfl
    | true =>
      have hc : c.isEmpty = false := by simpa [h] using he
      simp [List.findIdx_cons, hc]
  rw [kept_after, kept_after, hlimit, hstop, Nat.add_min_add_right]

theorem length_take_kept_lt (cells : List Cell) :
    (cells.take (criteria.kept cells)).length < cells.length ↔
      criteria.kept cells < cells.length := by
  rw [List.length_take]
  omega

theorem shorten_of_stop {cells : List Cell} (h : criteria.kept cells = 0) (hne : cells ≠ [])
    (problems : List Problem) : criteria.shorten (cells, problems) = ([], []) := by
  simp [shorten, h, List.length_pos_iff, hne]

theorem shorten_cons {rest : Criteria} {c : Cell} {cells : List Cell}
    (h : criteria.kept (c :: cells) = rest.kept cells + 1) (problems : List Problem) :
    criteria.shorten (c :: cells, problems) =
      (c :: (rest.shorten (cells, problems)).1, (rest.shorten (cells, problems)).2) := by
  simp [shorten, h]

end Criteria

namespace Search

def unlimited (s : Search) : Search := { s with criteria := s.criteria.unlimited }

variable (s : Search)

theorem endsBefore_unlimited (boundary : Option (Matcher Cell)) (taken taken' : Nat) (c : Cell) :
    s.endsBefore boundary taken c ↔ s.unlimited.endsBefore boundary taken' c ∨
      s.criteria.maxRun.any (· ≤ taken) ∨ (s.criteria.endAtEmptyCell && c.isEmpty) := by
  have hunlimited : s.unlimited.endsBefore boundary taken' c =
      (!s.area.intersects c.range || s.isHeader c || boundary.any (·.test c)) := by
    simp [endsBefore, unlimited, Criteria.unlimited, isHeader]
  rw [hunlimited]
  simp only [endsBefore, Bool.or_eq_true]
  tauto

theorem openRun_head {d : Direction} {boundary : Option (Matcher Cell)} {taken : Nat} {c : Cell}
    (h : ¬ s.endsBefore boundary taken c) (room : Nat) :
    ∃ cells problems, s.openRun d boundary (room + 1) taken c = (c :: cells, problems) := by
  by_cases hb : d.isBorder c.range s.area
  · exact ⟨[], [], s.openRun_border h hb⟩
  · cases hp : s.grid.probe c d 1 with
    | error e => exact ⟨[], _, s.openRun_error h hb hp⟩
    | ok k => exact ⟨_, _, s.openRun_ok h hb hp⟩

/-- From any cell on, a run is what the limits leave of the unlimited run. -/
theorem openRun_shorten (d : Direction) (boundary : Option (Matcher Cell))
    (room taken taken' : Nat) (c : Cell) : s.openRun d boundary room taken c =
      (s.criteria.after taken).shorten (s.unlimited.openRun d boundary room taken' c) := by
  induction room generalizing taken taken' c with
  | zero => exact (Criteria.shorten_nil []).symm
  | succ room ih =>
    have hends := s.endsBefore_unlimited boundary taken taken' c
    by_cases hu : s.unlimited.endsBefore boundary taken' c
    · rw [s.openRun_ends (hends.mpr (Or.inl hu)), s.unlimited.openRun_ends hu]
      exact (Criteria.shorten_nil []).symm
    by_cases hstop : s.criteria.maxRun.any (· ≤ taken) ∨ (s.criteria.endAtEmptyCell && c.isEmpty)
    · obtain ⟨cells, problems, hrun⟩ := s.unlimited.openRun_head hu room (d := d)
      rw [s.openRun_ends (hends.mpr (Or.inr hstop)), hrun]
      exact (Criteria.shorten_of_stop (Criteria.kept_of_stop hstop cells) (by simp) _).symm
    -- Both runs have this cell, and end or go on with the same step.
    · have hgo : ¬ s.endsBefore boundary taken c := by
        rw [hends]
        exact not_or.mpr ⟨hu, hstop⟩
      have hkept := Criteria.kept_cons (not_or.mp hstop).1 (not_or.mp hstop).2
      by_cases hb : d.isBorder c.range s.area
      · rw [s.openRun_border hgo hb, s.unlimited.openRun_border hu hb,
          Criteria.shorten_cons (hkept []), Criteria.shorten_nil]
      · cases hp : s.grid.probe c d 1 with
        | error e =>
          rw [s.openRun_error hgo hb hp, s.unlimited.openRun_error hu hb hp,
            Criteria.shorten_cons (hkept []), Criteria.shorten_nil]
        | ok k =>
          rw [s.openRun_ok hgo hb hp, s.unlimited.openRun_ok hu hb hp,
            Criteria.shorten_cons (hkept _), ← ih (taken + 1) (taken' + 1) k]

theorem fixedRun_unlimited (d : Direction) (more : Nat) (c : Cell) :
    s.unlimited.fixedRun d more c = s.fixedRun d more c :=
  s.fixedRun_congr s.unlimited (fun _ => rfl) more c

end Search

/-- The header of a field under the limits of the criteria, beside its header without them. Data
of fixed length and all that is not data are the same; other data are shortened, and have the
problem of the whole run if they are all of it, or none. -/
structure ShortenedBy (criteria : Criteria) (h whole : Header) : Prop where
  field : h.field = whole.field
  cell : h.cell = whole.cell
  same : (∀ data, h.field.body = .leaf data → ∃ count, data.layout = .fixed count) → h = whole
  data : ∀ data, h.field.body = .leaf data → (∀ count, data.layout ≠ .fixed count) →
    h.data = whole.data.take (criteria.kept whole.data)
  problems : ∀ data, h.field.body = .leaf data → (∀ count, data.layout ≠ .fixed count) →
    h.problems = if h.data.length < whole.data.length then [] else whole.problems

namespace Search

variable (s : Search)

theorem run_fixed {data : DataSpec} {count : Nat} (hl : data.layout = .fixed count)
    (d : Direction) (origin : Cell) : s.run d data origin = s.unlimited.run d data origin := by
  rw [s.run_eq_fixedRun hl, s.unlimited.run_eq_fixedRun hl, fixedRun_unlimited]

theorem run_shorten {data : DataSpec} (hl : ∀ count, data.layout ≠ .fixed count) (d : Direction)
    (origin : Cell) :
    s.run d data origin = s.criteria.shorten (s.unlimited.run d data origin) := by
  rw [s.run_eq_openRun hl, s.unlimited.run_eq_openRun hl, s.openRun_shorten _ _ _ 0 0,
    Criteria.after_zero]
  rfl

theorem header_unlimited {f : Field}
    (hf : ∀ data, f.body = .leaf data → ∃ count, data.layout = .fixed count) (c : Cell)
    (missing : List Problem) : s.header f c missing = s.unlimited.header f c missing := by
  unfold header leafHeader
  cases hb : f.body with
  | group => rfl
  | leaf data =>
    obtain ⟨count, hl⟩ := hf data hb
    simp only [s.run_fixed hl]
    rfl

theorem header_shorten {f : Field} {data : DataSpec} (hf : f.body = .leaf data)
    (hl : ∀ count, data.layout ≠ .fixed count) (c : Cell) (missing : List Problem) :
    ((s.header f c missing).data, (s.header f c missing).problems) =
      s.criteria.shorten ((s.unlimited.header f c missing).data,
        (s.unlimited.header f c missing).problems) := by
  cases hp : s.grid.probe c f.direction f.distance with
  | error e =>
    obtain ⟨hdata, hproblems⟩ := s.header_astray hf hp missing
    obtain ⟨hdata', hproblems'⟩ := s.unlimited.header_astray hf hp missing
    rw [hdata, hproblems, hdata', hproblems', Criteria.shorten_nil]
  | ok origin =>
    obtain ⟨hdata, hproblems⟩ := s.header_run hf hp missing
    obtain ⟨hdata', hproblems'⟩ := s.unlimited.header_run hf hp missing
    rw [hdata, hproblems, hdata', hproblems', s.run_shorten hl]

theorem headerAt_shortened (p : Placed) :
    ShortenedBy s.criteria (s.headerAt p) (s.unlimited.headerAt p) := by
  have hfield := s.headerAt_field p
  refine ⟨by simp, by simp, ?_, ?_, ?_⟩ <;> rw [hfield]
  · exact fun hf => s.header_unlimited hf p.cell _
  · intro data hf hl
    exact (Prod.mk.inj (s.header_shorten hf hl p.cell (p.absent.filterMap lack))).1
  · intro data hf hl
    obtain ⟨hdata, hproblems⟩ :=
      Prod.mk.inj (s.header_shorten hf hl p.cell (p.absent.filterMap lack))
    unfold headerAt
    rw [hproblems, hdata]
    exact if_congr (Criteria.length_take_kept_lt _).symm rfl rfl

theorem tables_shortened :
    List.Forall₂ (fun t whole => Forest.Forall₂ (ShortenedBy s.criteria) t.headers whole.headers)
      s.tables s.unlimited.tables := by
  have hplacements : s.unlimited.placements = s.placements := by
    refine Mirrors.placements_eq ⟨?_, fun _ => rfl, ?_, fun _ _ _ => rfl, fun _ _ => rfl, ?_⟩
    · exact (Forest.map_id' _).symm
    · exact (List.map_id _).symm
    · intro _ _ p _
      exact (List.map_id _).symm
  rw [tables_eq_placements, tables_eq_placements, hplacements, List.forall₂_map_left_iff,
    List.forall₂_map_right_iff, List.forall₂_same]
  exact fun P _ => Forest.forall₂_map_map fun p _ => s.headerAt_shortened p

end Search

/-- Limits take from open runs what lies beyond them. -/
theorem recognize_shortened (layout : TableLayout) (g : Grid) (criteria : Criteria) :
    let limited := recognize layout g criteria
    let whole := recognize layout g criteria.unlimited
    limited.2 = whole.2 ∧
      List.Forall₂ (fun t t' => Forest.Forall₂ (ShortenedBy criteria) t.headers t'.headers)
        limited.1 whole.1 := by
  intro limited whole
  have harea : searchArea? g criteria.unlimited = searchArea? g criteria := rfl
  have htables :
      List.Forall₂ (fun t t' => Forest.Forall₂ (ShortenedBy criteria) t.headers t'.headers)
        limited.1 whole.1 := by
    simp only [limited, whole, recognize_fst, harea]
    cases searchArea? g criteria with
    | none => exact .nil
    | some area => exact (searchIn layout g criteria area).tables_shortened
  refine ⟨?_, htables⟩
  have hanchors : anchorsOf layout g criteria.unlimited = anchorsOf layout g criteria := rfl
  rw [recognize_snd, recognize_snd, hanchors]

end SheetTables
