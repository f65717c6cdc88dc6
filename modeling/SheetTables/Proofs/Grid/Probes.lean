import Mathlib.Data.List.Induction
import SheetTables.Proofs.Grid.LogicalCells
import SheetTables.Proofs.Grid.Steps

/-! # Probes

A probe finds the cells to which chains of single steps lead, each of them once. To leave out what
is reached again at every step, and not only at the end, changes neither the cells nor their order;
so a long probe is a short one followed by another from each cell that the first has found.
-/

namespace SheetTables

section Repetitions

variable {α β : Type} [BEq α] [EquivBEq α]

theorem eraseDups_concat (as : List α) (a : α) :
    (as ++ [a]).eraseDups = if as.contains a then as.eraseDups else as.eraseDups ++ [a] := by
  match as with
  | [] => rfl
  | b :: as =>
    rw [List.cons_append, List.eraseDups_cons, List.eraseDups_cons, List.filter_append,
      List.contains_cons]
    cases hab : a == b with
    | true => simp [hab]
    | false =>
      -- What is like the head is not like the item.
      have hrest : (as.filter fun c => !c == b).contains a = as.contains a := by
        rw [Bool.eq_iff_iff, List.contains_iff_exists_mem_beq, List.contains_iff_exists_mem_beq]
        constructor
        · rintro ⟨c, hc, hac⟩
          exact ⟨c, (List.mem_filter.mp hc).1, hac⟩
        · rintro ⟨c, hc, hac⟩
          have hcb : (c == b) = false := (BEq.congr_left hac).symm.trans hab
          exact ⟨c, List.mem_filter.mpr ⟨hc, by rw [hcb, Bool.not_false]⟩, hac⟩
      have hlast : [a].filter (fun c => !c == b) = [a] := by simp [hab]
      rw [hlast, eraseDups_concat (as.filter fun c => !c == b) a, hrest, Bool.false_or]
      split <;> rfl
termination_by as.length
decreasing_by exact Nat.lt_succ_of_le (List.length_filter_le _ as)

theorem contains_eraseDups (as : List α) (a : α) : as.eraseDups.contains a = as.contains a := by
  induction as using List.reverseRecOn with
  | nil => rfl
  | append_singleton as b ih =>
    rw [eraseDups_concat]
    cases hb : as.contains b with
    | true =>
      have hlike : (a == b) = true → as.contains a = true :=
        fun hab => (List.contains_congr hab).trans hb
      rw [if_pos rfl, ih, List.contains_append]
      cases hab : a == b <;> simp [hab, hlike]
    | false => rw [if_neg Bool.false_ne_true, List.contains_append, List.contains_append, ih]

theorem eraseDups_pairwise (as : List α) :
    as.eraseDups.Pairwise fun a b => (a == b) = false := by
  induction as using List.reverseRecOn with
  | nil => exact .nil
  | append_singleton as b ih =>
    rw [eraseDups_concat]
    split
    · exact ih
    · next hb =>
      refine List.pairwise_append.mpr ⟨ih, List.pairwise_singleton _ _, fun a ha c hc => ?_⟩
      obtain rfl := List.mem_singleton.mp hc
      by_contra hac
      rw [Bool.not_eq_false] at hac
      rw [← contains_eraseDups, List.contains_iff_exists_mem_beq] at hb
      exact hb ⟨a, ha, BEq.symm hac⟩

theorem eraseDups_append_left {as as' : List α} (h : as.eraseDups = as'.eraseDups) (bs : List α) :
    (as ++ bs).eraseDups = (as' ++ bs).eraseDups := by
  have hlike : ∀ cs b, (as ++ cs).eraseDups = (as' ++ cs).eraseDups →
      (as ++ cs).contains b = (as' ++ cs).contains b := by
    intro cs b hcs
    rw [← contains_eraseDups, hcs, contains_eraseDups]
  induction bs using List.reverseRecOn with
  | nil => rwa [List.append_nil, List.append_nil]
  | append_singleton bs b ih =>
    rw [← List.append_assoc, ← List.append_assoc, eraseDups_concat, eraseDups_concat, ih,
      hlike bs b ih]

theorem eraseDups_append_of_contained {as bs : List α} (h : ∀ b ∈ bs, as.contains b) :
    (as ++ bs).eraseDups = as.eraseDups := by
  induction bs using List.reverseRecOn with
  | nil => rw [List.append_nil]
  | append_singleton bs b ih =>
    have hb : (as ++ bs).contains b := by
      rw [List.contains_append, h b (List.mem_append_right _ List.mem_cons_self), Bool.true_or]
    rw [← List.append_assoc, eraseDups_concat, if_pos hb]
    exact ih fun c hc => h c (List.mem_append_left _ hc)

theorem eraseDups_append_eraseDups (as bs : List α) :
    (as ++ bs.eraseDups).eraseDups = (as ++ bs).eraseDups := by
  induction bs using List.reverseRecOn with
  | nil => rfl
  | append_singleton bs b ih =>
    rw [eraseDups_concat, ← List.append_assoc]
    split
    · next hb =>
      have hlast : ∀ c ∈ [b], (as ++ bs).contains c := by
        intro c hc
        rw [List.mem_singleton.mp hc, List.contains_append, hb, Bool.or_true]
      rw [ih, eraseDups_append_of_contained hlast]
    · rw [← List.append_assoc]
      exact eraseDups_append_left ih [b]

/-- Only the first occurrences of what is found from each item count. -/
theorem eraseDups_flatMap_congr {f g : β → List α} {bs : List β}
    (h : ∀ b ∈ bs, (f b).eraseDups = (g b).eraseDups) :
    (bs.flatMap f).eraseDups = (bs.flatMap g).eraseDups := by
  induction bs with
  | nil => rfl
  | cons b bs ih =>
    have hrest := ih fun c hc => h c (List.mem_cons_of_mem b hc)
    rw [List.flatMap_cons, List.flatMap_cons]
    calc (f b ++ bs.flatMap f).eraseDups
        = (f b ++ (bs.flatMap f).eraseDups).eraseDups := (eraseDups_append_eraseDups _ _).symm
      _ = (f b ++ bs.flatMap g).eraseDups := by rw [hrest, eraseDups_append_eraseDups]
      _ = (g b ++ bs.flatMap g).eraseDups := eraseDups_append_left (h b List.mem_cons_self) _

theorem eraseDups_flatMap_eraseDups [BEq β] [EquivBEq β] {f : β → List α}
    (hf : ∀ b c, b == c → ∀ a ∈ f b, (f c).contains a) (bs : List β) :
    (bs.eraseDups.flatMap f).eraseDups = (bs.flatMap f).eraseDups := by
  induction bs using List.reverseRecOn with
  | nil => rfl
  | append_singleton bs b ih =>
    rw [eraseDups_concat, List.flatMap_append, List.flatMap_singleton,
      ← eraseDups_append_left ih (f b)]
    split
    · next hb =>
      refine (eraseDups_append_of_contained fun a ha => ?_).symm
      rw [← contains_eraseDups, List.contains_iff_exists_mem_beq] at hb
      obtain ⟨c, hc, hbc⟩ := hb
      have hmem := hf b c hbc a ha
      rw [List.contains_iff_exists_mem_beq] at hmem ⊢
      obtain ⟨a', ha', haa'⟩ := hmem
      exact ⟨a', List.mem_flatMap.mpr ⟨c, hc, ha'⟩, haa'⟩
    · rw [List.flatMap_append, List.flatMap_singleton]

end Repetitions

theorem mem_eraseDups_ranges {cells : List Cell} {r : Range} :
    r ∈ cells.eraseDups.map (·.range) ↔ r ∈ cells.map (·.range) := by
  simp only [List.mem_map]
  constructor
  · rintro ⟨c, hc, hr⟩
    exact ⟨c, mem_of_mem_eraseDups cells hc, hr⟩
  · rintro ⟨c, hc, rfl⟩
    have hlike : cells.contains c := List.contains_iff_exists_mem_beq.mpr ⟨c, hc, BEq.rfl⟩
    rw [← contains_eraseDups, List.contains_iff_exists_mem_beq] at hlike
    obtain ⟨k, hk, hck⟩ := hlike
    exact ⟨k, hk, (Cell.beq_iff.mp hck).2.symm⟩

namespace Grid

/-- The second cell covers a position of the strip next to the first. -/
def Adjoins (g : Grid) (d : Direction) (c k : Cell) : Prop :=
  g.Holds k ∧ ∃ strip, d.shift? c.range 1 = some strip ∧
    ∃ row col, strip.contains row col ∧ k.range.contains row col

/-- A chain of so many steps leads from the first cell to the second. -/
inductive Leads (g : Grid) (d : Direction) : Nat → Cell → Cell → Prop
  | here (c : Cell) : Leads g d 0 c c
  | onward {n : Nat} {c k l : Cell} (first : g.Adjoins d c k) (rest : Leads g d n k l) :
    Leads g d (n + 1) c l

/-- What probes of a cell find in a direction. -/
structure Probed (g : Grid) (c : Cell) (d : Direction) : Prop where
  held : ∀ n, ∀ k ∈ g.probeAll c d n, g.Holds k
  once : ∀ n, (g.probeAll c d n).Pairwise fun k l => k.range ≠ l.range
  reached : ∀ n r, r ∈ (g.probeAll c d n).map (·.range) ↔ ∃ k, g.Leads d n c k ∧ k.range = r
  composed : ∀ m n, g.probeAll c d (m + n) =
    ((g.probeAll c d m).flatMap fun k => g.probeAll k d n).eraseDups
  onward : ∀ m k, g.probe c d m = .ok k → ∀ n, g.probeAll c d (m + n) = g.probeAll k d n ∧
    ∀ l, g.probe c d (m + n) = .ok l ↔ g.probe k d n = .ok l
  found : ∀ n k, g.probe c d n = .ok k ↔ g.probeAll c d n = [k]
  failed : ∀ n e, g.probe c d n = .error e ↔
    g.probeAll c d n = [] ∧ e = .noCell c.reference d n ∨
      2 ≤ (g.probeAll c d n).length ∧
        e = .ambiguous c.reference d n (g.probeAll c d n).length

variable {g : Grid} {d : Direction}

theorem Leads.of_range_eq {n : Nat} {c c' k : Cell} (h : g.Leads d n c k)
    (hr : c.range = c'.range) : ∃ k', g.Leads d n c' k' ∧ k'.range = k.range := by
  cases h with
  | here => exact ⟨c', .here c', hr.symm⟩
  | onward first rest =>
    have hfirst : g.Adjoins d c' _ := ⟨first.1, hr ▸ first.2⟩
    exact ⟨k, .onward hfirst rest, rfl⟩

theorem beside_congr {c k : Cell} (h : c.range = k.range) : g.beside d c = g.beside d k := by
  unfold beside
  rw [h]

theorem steps_add (m n : Nat) (cells : List Cell) :
    g.steps d (m + n) cells = g.steps d n (g.steps d m cells) := by
  induction m generalizing cells with
  | zero => rw [Nat.zero_add, steps]
  | succ m ih =>
    rw [Nat.add_right_comm, steps, steps]
    exact ih (g.step d cells)

theorem probeAll_succ (c : Cell) (n : Nat) :
    g.probeAll c d (n + 1) = g.steps d n (g.beside d c).eraseDups := by
  rw [probeAll, steps, step, List.flatMap_singleton]

theorem probeAll_contains {c k : Cell} (h : c == k) (n : Nat) :
    ∀ l ∈ g.probeAll c d n, (g.probeAll k d n).contains l := by
  intro l hl
  cases n with
  | zero =>
    obtain rfl := List.mem_singleton.mp hl
    exact List.contains_iff_exists_mem_beq.mpr ⟨k, List.mem_singleton_self k, h⟩
  | succ n =>
    rw [probeAll_succ, beside_congr (Cell.beq_iff.mp h).2, ← probeAll_succ] at hl
    exact List.contains_iff_exists_mem_beq.mpr ⟨l, hl, BEq.rfl⟩

/-- To step from several cells together is to probe from each of them in turn. -/
theorem steps_eraseDups (n : Nat) (cells : List Cell) :
    (g.steps d n cells).eraseDups = (cells.flatMap fun c => g.probeAll c d n).eraseDups := by
  induction n generalizing cells with
  | zero =>
    have hsame : (cells.flatMap fun c => g.probeAll c d 0) = cells := List.flatMap_singleton' cells
    rw [hsame, steps]
  | succ n ih =>
    have hprobe : ∀ c ∈ cells, ((g.beside d c).flatMap fun k => g.probeAll k d n).eraseDups =
        (g.probeAll c d (n + 1)).eraseDups := by
      intro c _
      rw [probeAll_succ, ih, eraseDups_flatMap_eraseDups fun b k h => probeAll_contains h n]
    calc (g.steps d (n + 1) cells).eraseDups
        = ((g.step d cells).flatMap fun k => g.probeAll k d n).eraseDups := ih (g.step d cells)
      _ = ((cells.flatMap (g.beside d)).flatMap fun k => g.probeAll k d n).eraseDups :=
          eraseDups_flatMap_eraseDups (fun b k h => probeAll_contains h n) _
      _ = (cells.flatMap fun c => (g.beside d c).flatMap fun k => g.probeAll k d n).eraseDups := by
          rw [List.flatMap_assoc]
      _ = (cells.flatMap fun c => g.probeAll c d (n + 1)).eraseDups :=
          eraseDups_flatMap_congr hprobe

theorem probe_eq_error_iff {c : Cell} {n : Nat} {e : ProbeError} :
    g.probe c d n = .error e ↔ g.probeAll c d n = [] ∧ e = .noCell c.reference d n ∨
      2 ≤ (g.probeAll c d n).length ∧
        e = .ambiguous c.reference d n (g.probeAll c d n).length := by
  unfold probe
  rcases g.probeAll c d n with _ | ⟨a, _ | ⟨b, rest⟩⟩ <;> simp [eq_comm]

section Tiled

variable (ht : g.Tiled)
include ht

theorem mem_beside_ranges {c : Cell} {r : Range} :
    r ∈ (g.beside d c).map (·.range) ↔ ∃ k, g.Adjoins d c k ∧ k.range = r := by
  simp only [List.mem_map, beside, Adjoins]
  cases d.shift? c.range 1 with
  | none => simp
  | some strip =>
    constructor
    · rintro ⟨k, hk, rfl⟩
      have hshows := (mem_cellsIn ht).mp hk
      have hself := ht.contains_self hshows.holds
      exact ⟨k, ⟨hshows.holds, strip, rfl, k.row, k.col, hshows.inside, hself⟩, rfl⟩
    · rintro ⟨k, ⟨hk, _, hstrip, row, col, hin, hcover⟩, rfl⟩
      obtain rfl := Option.some.inj hstrip
      obtain ⟨l, hl, hrange⟩ := exists_shows ht hin
      exact ⟨l, (mem_cellsIn ht).mpr hl, hrange.trans (ht.cover_eq hk hcover)⟩

theorem mem_step_ranges {cells : List Cell} {r : Range} :
    r ∈ (g.step d cells).map (·.range) ↔ ∃ c ∈ cells, ∃ k, g.Adjoins d c k ∧ k.range = r := by
  rw [step, mem_eraseDups_ranges, List.map_flatMap, List.mem_flatMap]
  exact exists_congr fun c => and_congr_right fun _ => mem_beside_ranges ht

theorem mem_steps_ranges (n : Nat) {cells : List Cell} {r : Range} :
    r ∈ (g.steps d n cells).map (·.range) ↔
      ∃ c ∈ cells, ∃ k, g.Leads d n c k ∧ k.range = r := by
  induction n generalizing cells with
  | zero =>
    rw [steps, List.mem_map]
    constructor
    · rintro ⟨c, hc, hr⟩
      exact ⟨c, hc, c, .here c, hr⟩
    · rintro ⟨c, hc, k, hck, hr⟩
      cases hck
      exact ⟨c, hc, hr⟩
  | succ n ih =>
    rw [steps, ih]
    constructor
    · rintro ⟨k, hk, l, hkl, hr⟩
      obtain ⟨c, hc, k', hck, hkk⟩ := (mem_step_ranges ht).mp (List.mem_map_of_mem hk)
      obtain ⟨l', hkl', hll⟩ := hkl.of_range_eq hkk.symm
      exact ⟨c, hc, l', .onward hck hkl', hll.trans hr⟩
    · rintro ⟨c, hc, l, hcl, hr⟩
      cases hcl with
      | @onward _ _ k _ hck hkl =>
        obtain ⟨k', hk', hkk⟩ :=
          List.mem_map.mp ((mem_step_ranges ht).mpr ⟨c, hc, k, hck, rfl⟩)
        obtain ⟨l', hkl', hll⟩ := hkl.of_range_eq hkk.symm
        exact ⟨k', hk', l', hkl', hll.trans hr⟩

theorem step_distinct {cells : List Cell} (hheld : ∀ c ∈ cells, g.Holds c) :
    (g.step d cells).Pairwise fun c k => c.range ≠ k.range := by
  have hnext : ∀ k ∈ g.step d cells, g.Holds k := steps_holds ht 1 hheld
  refine (eraseDups_pairwise (cells.flatMap (g.beside d))).imp_of_mem fun {c k} hc hk hck hr => ?_
  rw [((hnext c hc).beq_iff (hnext k hk)).mpr hr] at hck
  cases hck

theorem steps_distinct (n : Nat) {cells : List Cell} (hheld : ∀ c ∈ cells, g.Holds c)
    (hd : cells.Pairwise fun c k => c.range ≠ k.range) :
    (g.steps d n cells).Pairwise fun c k => c.range ≠ k.range := by
  induction n generalizing cells with
  | zero => exact hd
  | succ n ih => exact ih (steps_holds ht 1 hheld) (step_distinct ht hheld)

theorem probeAll_distinct {c : Cell} (hc : g.Holds c) (n : Nat) :
    (g.probeAll c d n).Pairwise fun k l => k.range ≠ l.range :=
  steps_distinct ht n (fun _ hk => List.mem_singleton.mp hk ▸ hc) (List.pairwise_singleton _ _)

/-- A long probe is a short one followed by others from all that it has found. -/
theorem probeAll_add {c : Cell} (hc : g.Holds c) (m n : Nat) : g.probeAll c d (m + n) =
    ((g.probeAll c d m).flatMap fun k => g.probeAll k d n).eraseDups := by
  calc g.probeAll c d (m + n)
      = (g.probeAll c d (m + n)).eraseDups :=
        (eraseDups_of_distinct (probeAll_distinct ht hc (m + n))).symm
    _ = (g.steps d n (g.probeAll c d m)).eraseDups := by rw [probeAll, steps_add, ← probeAll]
    _ = ((g.probeAll c d m).flatMap fun k => g.probeAll k d n).eraseDups := steps_eraseDups n _

theorem probed {c : Cell} (hc : g.Holds c) (d : Direction) : g.Probed c d := by
  constructor
  · exact fun n => probeAll_holds ht hc
  · exact probeAll_distinct ht hc
  · intro n r
    rw [probeAll, mem_steps_ranges ht n]
    simp only [List.mem_singleton, exists_eq_left]
  · exact probeAll_add ht hc
  · intro m k hk n
    have hall : g.probeAll c d (m + n) = g.probeAll k d n := by
      rw [probeAll, steps_add, ← probeAll, probe_eq_ok_iff.mp hk, ← probeAll]
    refine ⟨hall, fun l => ?_⟩
    rw [probe_eq_ok_iff, probe_eq_ok_iff, hall]
  · exact fun n k => probe_eq_ok_iff
  · exact fun n e => probe_eq_error_iff

end Tiled
end Grid

/-- Probes of any cell of a sheet find what chains of steps lead to. -/
theorem probeAll_chains (name : String) (edits : List Sheet.Edit) (row col : Nat)
    (d : Direction) : (Sheet.ofEdits name edits).grid.Probed
      ((Sheet.ofEdits name edits).grid.cellAt row col) d :=
  Grid.probed (Sheet.tiled _) (Grid.holds_cellAt _ row col) d

/-- Two ways from one merged region to another below it find that region once. -/
example :
    let g := (Sheet.ofEdits "Sheet1"
      [.merge (.ofCorners 0 0 0 1), .merge (.ofCorners 2 0 2 1)]).grid
    (g.probeAll (g.cellAt 0 0) .down 1).map (·.range) = [.single 1 0, .single 1 1] ∧
      (g.probeAll (g.cellAt 0 0) .down 2).map (·.range) = [.ofCorners 2 0 2 1] := by
  decide

end SheetTables
