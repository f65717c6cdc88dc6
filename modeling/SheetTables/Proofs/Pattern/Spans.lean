import Mathlib.Logic.Function.Iterate
import SheetTables.Pattern.Regex

/-! # Stretches that expressions match

An expression matches a stretch of a text, between two places counted from the start. A set of
positions is carried to the ends of the stretches that begin in it: repetitions go on for no more
rounds than there are places, since a longer chain of matches stays in a place somewhere, and
could have stayed there for longer or not at all.
-/

namespace SheetTables

/-- What atoms match: a text or a character of a set that stands at the place, or nothing at a place
that is as asked. -/
def Atom.Spans (text : List Char) : Atom → Nat → Nat → Prop
  | literal s, i, j => i ≤ text.length ∧ s <+: text.drop i ∧ j = i + s.length
  | set s, i, j => (∃ c, (text.drop i).head? = some c ∧ s.contains c) ∧ j = i + 1
  | look l, i, j =>
    i ≤ text.length ∧ l.holds (text.take i).getLast? (text.drop i).head? ∧ j = i

/-- A number of stretches, each of which begins where the one before it ends. -/
def Repeats (R : Nat → Nat → Prop) : Nat → Nat → Nat → Prop
  | 0, i, j => i = j
  | n + 1, i, j => ∃ k, R i k ∧ Repeats R n k j

/-- What expressions match. A bound below the least number of repetitions is not looked at. -/
def Regex.Spans (text : List Char) : Regex Atom → Nat → Nat → Prop
  | empty, i, j => i = j
  | atom a, i, j => a.Spans text i j
  | cat r s, i, j => ∃ k, r.Spans text i k ∧ s.Spans text k j
  | alt r s, i, j => r.Spans text i j ∨ s.Spans text i j
  | repeated r least most _, i, j =>
    ∃ n, least ≤ n ∧ (∀ m ∈ most, n ≤ max least m) ∧ Repeats (r.Spans text) n i j
  | capture _ r, i, j => r.Spans text i j

section Repetition

variable {R : Nat → Nat → Prop} {m n i j : Nat}

theorem repeats_add : Repeats R (m + n) i j ↔ ∃ k, Repeats R m i k ∧ Repeats R n k j := by
  induction m generalizing i with
  | zero => simp [Repeats]
  | succ m ih =>
    rw [Nat.add_right_comm, Repeats]
    simp only [ih, Repeats]
    constructor
    · rintro ⟨l, hl, k, hm, hn⟩
      exact ⟨k, ⟨l, hl, hm⟩, hn⟩
    · rintro ⟨k, ⟨l, hl, hm⟩, hn⟩
      exact ⟨l, hl, k, hm, hn⟩

/-- What holds of every match, and is kept where one follows another, holds of a chain. -/
theorem Repeats.rec_of {P : Nat → Nat → Prop} (h : Repeats R n i j) (hR : ∀ i j, R i j → P i j)
    (hstay : ∀ i, P i i) (hfollow : ∀ i k j, P i k → P k j → P i j) : P i j := by
  induction n generalizing i with
  | zero =>
    obtain rfl := h
    exact hstay i
  | succ n ih =>
    obtain ⟨k, hik, hkj⟩ := h
    exact hfollow i k j (hR i k hik) (ih hkj)

theorem Repeats.le (h : Repeats R n i j) (hR : ∀ i j, R i j → i ≤ j) : i ≤ j :=
  h.rec_of hR Nat.le_refl fun _ _ _ => Nat.le_trans

/-- In a chain of more matches than places one of them stays in its place, and may be left out or
made once more. -/
theorem Repeats.stays (hR : ∀ i j, R i j → i ≤ j) (h : Repeats R (n + 1) i j) (hn : j - i ≤ n) :
    Repeats R n i j ∧ Repeats R (n + 2) i j := by
  induction n generalizing i with
  | zero =>
    obtain ⟨k, hik, rfl⟩ := h
    obtain rfl : i = k := by
      have := hR i k hik
      omega
    exact ⟨rfl, i, hik, i, hik, rfl⟩
  | succ n ih =>
    obtain ⟨k, hik, hkj⟩ := h
    by_cases hstay : i = k
    · subst hstay
      exact ⟨hkj, i, hik, i, hik, hkj⟩
    · have hlt : i < k := Nat.lt_of_le_of_ne (hR i k hik) hstay
      have hle : k ≤ j := hkj.le hR
      obtain ⟨hless, hmore⟩ := ih hkj (by omega)
      exact ⟨⟨k, hik, hless⟩, k, hik, hmore⟩

theorem repeats_succ_iff (hR : ∀ i j, R i j → i ≤ j) (hn : j - i < n) :
    Repeats R (n + 1) i j ↔ Repeats R n i j := by
  obtain ⟨n, rfl⟩ := Nat.exists_eq_add_of_lt hn
  constructor
  · exact fun h => (h.stays hR (by omega)).1
  · exact fun h => (Repeats.stays (n := j - i + n) hR h (by omega)).2

theorem repeats_iff_of_lt (hR : ∀ i j, R i j → i ≤ j) (hm : j - i < m) (hn : j - i < n) :
    Repeats R m i j ↔ Repeats R n i j := by
  have hbase : ∀ n, j - i < n → (Repeats R n i j ↔ Repeats R (j - i + 1) i j) := by
    intro n hn
    induction hn with
    | refl => exact Iff.rfl
    | step hlt ih => exact (repeats_succ_iff hR hlt).trans ih
  exact (hbase m hm).trans (hbase n hn).symm

/-- So the two counts of a repetition may be cut to a number of rounds above that of the places. -/
theorem repeats_rounds {rounds : Nat} (hR : ∀ i j, R i j → i ≤ j) (h : j - i < rounds) :
    Repeats R (min m rounds + min n rounds) i j ↔ Repeats R (m + n) i j := by
  by_cases hle : m ≤ rounds ∧ n ≤ rounds
  · rw [Nat.min_eq_left hle.1, Nat.min_eq_left hle.2]
  · exact repeats_iff_of_lt hR (by omega) (by omega)

end Repetition

theorem testBit_bit_add (b : Bool) (n i : Nat) :
    (b.toNat + 2 * n).testBit i = if i = 0 then b else n.testBit (i - 1) := by
  cases i with
  | zero => cases b <;> simp [Nat.testBit_zero]
  | succ i =>
    have hhalf : (b.toNat + 2 * n) / 2 = n := by have := b.toNat_lt; omega
    rw [Nat.testBit_succ, hhalf]
    simp

theorem testBit_placesWhere (test : Option Char → List Char → Bool) (before : Option Char)
    (text : List Char) (i : Nat) : (placesWhere test before text).testBit i =
      (decide (i ≤ text.length) && test ((text.take i).getLast?.or before) (text.drop i)) := by
  induction text generalizing before i with
  | nil =>
    cases i with
    | zero => cases h : test before [] <;> simp [placesWhere, h]
    | succ i => cases h : test before [] <;> simp [placesWhere, h, Nat.testBit_succ]
  | cons c s ih =>
    rw [placesWhere, testBit_bit_add]
    cases i with
    | zero => simp
    | succ i =>
      have hlast : (c :: s.take i).getLast? = (s.take i).getLast?.or (some c) := by
        cases h : (s.take i).getLast? <;> simp [List.getLast?_cons, h]
      simp [ih, List.take_succ_cons, hlast]

theorem testBit_apply (m : Move) (positions j : Nat) : (m.apply positions).testBit j ↔
    ∃ i, positions.testBit i ∧ m.mask.testBit i ∧ j = i + m.width := by
  rw [Move.apply, Nat.testBit_shiftLeft, Nat.testBit_and]
  simp only [Bool.and_eq_true, decide_eq_true_eq]
  constructor
  · rintro ⟨hle, hpositions, hmask⟩
    exact ⟨j - m.width, hpositions, hmask, by omega⟩
  · rintro ⟨i, hpositions, hmask, rfl⟩
    rw [Nat.add_sub_cancel]
    exact ⟨Nat.le_add_left _ _, hpositions, hmask⟩

theorem Atom.testBit_move (a : Atom) (text : List Char) (i j : Nat) :
    ((a.move text).mask.testBit i ∧ j = i + (a.move text).width) ↔ a.Spans text i j := by
  cases a with
  | literal s => simp [move, Spans, testBit_placesWhere, and_assoc]
  | set s =>
    simp only [move, Spans, testBit_placesWhere, Bool.and_eq_true, decide_eq_true_eq,
      Option.any_eq_true_iff_get]
    refine and_congr_left fun _ => ?_
    cases h : (text.drop i).head? with
    | none => simp
    | some c =>
      have hi : i ≤ text.length := by
        by_contra hlong
        rw [List.drop_eq_nil_of_le (by omega)] at h
        cases h
      simp [hi]
  | look l => simp [move, Spans, testBit_placesWhere, and_assoc]

theorem settle_eq_iterate (f : Nat → Nat) (n x : Nat) : settle f n x = f^[n] x := by
  induction n generalizing x with
  | zero => rfl
  | succ n ih =>
    rw [settle, Function.iterate_succ_apply]
    split
    · next hfixed => rw [hfixed, Function.iterate_fixed hfixed]
    · exact ih (f x)

section Carrying

variable {E : Nat → Nat} {R : Nat → Nat → Prop}

theorem testBit_iterate (hE : ∀ S j, (E S).testBit j ↔ ∃ i, S.testBit i ∧ R i j) (n S j : Nat) :
    (E^[n] S).testBit j ↔ ∃ i, S.testBit i ∧ Repeats R n i j := by
  induction n generalizing S with
  | zero => simp [Repeats]
  | succ n ih =>
    rw [Function.iterate_succ_apply, ih]
    simp only [hE, Repeats]
    constructor
    · rintro ⟨k, ⟨i, hi, hik⟩, hkj⟩
      exact ⟨i, hi, k, hik, hkj⟩
    · rintro ⟨i, hi, k, hik, hkj⟩
      exact ⟨k, ⟨i, hi, hik⟩, hkj⟩

theorem testBit_iterate_or (hE : ∀ S j, (E S).testBit j ↔ ∃ i, S.testBit i ∧ R i j)
    (n S j : Nat) : ((fun x => x ||| E x)^[n] S).testBit j ↔
      ∃ i, S.testBit i ∧ ∃ m ≤ n, Repeats R m i j := by
  induction n generalizing S with
  | zero => simp [Repeats]
  | succ n ih =>
    rw [Function.iterate_succ_apply, ih]
    simp only [Nat.testBit_or, Bool.or_eq_true, hE]
    constructor
    · rintro ⟨k, hk | ⟨i, hi, hik⟩, m, hm, hkj⟩
      · exact ⟨k, hk, m, Nat.le_succ_of_le hm, hkj⟩
      · exact ⟨i, hi, m + 1, Nat.succ_le_succ hm, k, hik, hkj⟩
    · rintro ⟨i, hi, m, hm, hij⟩
      cases m with
      | zero => exact ⟨i, Or.inl hi, 0, Nat.zero_le _, hij⟩
      | succ m =>
        obtain ⟨k, hik, hkj⟩ := hij
        exact ⟨k, Or.inr ⟨i, hi, hik⟩, m, Nat.le_of_succ_le_succ hm, hkj⟩

end Carrying

namespace Regex

variable {text : List Char}

theorem Spans.bounds {r : Regex Atom} {i j : Nat} (h : r.Spans text i j) :
    i ≤ j ∧ (i < j → j ≤ text.length) := by
  induction r generalizing i j with
  | empty =>
    obtain rfl := h
    exact ⟨Nat.le_refl _, fun h => absurd h (Nat.lt_irrefl _)⟩
  | atom a =>
    cases a with
    | literal s =>
      obtain ⟨hi, hs, rfl⟩ := h
      have hlen := hs.length_le
      rw [List.length_drop] at hlen
      omega
    | set s =>
      obtain ⟨⟨c, hc, _⟩, rfl⟩ := h
      have hlt : i < text.length := by
        by_contra hlong
        rw [List.drop_eq_nil_of_le (by omega)] at hc
        cases hc
      omega
    | look l =>
      obtain ⟨_, _, rfl⟩ := h
      omega
  | cat r s ihr ihs =>
    obtain ⟨k, hr, hs⟩ := h
    have := ihr hr
    have := ihs hs
    omega
  | alt r s ihr ihs => exact h.elim ihr ihs
  | repeated r least most _ ih =>
    obtain ⟨n, _, _, hn⟩ := h
    refine hn.rec_of (P := fun i j => i ≤ j ∧ (i < j → j ≤ text.length)) (fun _ _ => ih) ?_ ?_
    · omega
    · omega
  | capture _ r ih => exact ih h

theorem Spans.le {r : Regex Atom} {i j : Nat} (h : r.Spans text i j) : i ≤ j := h.bounds.1

theorem Spans.sub_le {r : Regex Atom} {i j : Nat} (h : r.Spans text i j) :
    j - i ≤ text.length := by
  have := h.bounds
  omega

/-- The rounds in which the ends of repetitions are found make up all their numbers. -/
theorem spans_repeated {r : Regex Atom} {least : Nat} {most : Option Nat} {greedy : Bool}
    {i j rounds : Nat} (h : text.length < rounds) :
    (repeated r least most greedy).Spans text i j ↔
      ∃ n ≤ (match most with | none => rounds | some m => min (m - least) rounds),
        Repeats (r.Spans text) (min least rounds + n) i j := by
  have hR : ∀ i j, r.Spans text i j → i ≤ j := fun _ _ => Spans.le
  have hfew : ∀ {n}, Repeats (r.Spans text) n i j → j - i < rounds := fun {n} hn =>
    Nat.lt_of_le_of_lt (Spans.sub_le (r := repeated r n none true) ⟨n, Nat.le_refl n, nofun, hn⟩) h
  constructor
  · rintro ⟨n, hleast, hmost, hn⟩
    obtain ⟨d, rfl⟩ := Nat.exists_eq_add_of_le hleast
    refine ⟨min d rounds, ?_, (repeats_rounds hR (hfew hn)).mpr hn⟩
    cases most with
    | none => exact Nat.min_le_right d rounds
    | some m =>
      have := hmost m rfl
      show min d rounds ≤ min (m - least) rounds
      omega
  · rintro ⟨n, hle, hn⟩
    have hrounds : n ≤ rounds := by
      cases most with
      | none => exact hle
      | some m => exact Nat.le_trans hle (Nat.min_le_right _ _)
    have hall := hfew hn
    rw [← Nat.min_eq_left hrounds, repeats_rounds hR hall] at hn
    refine ⟨least + n, Nat.le_add_right least n, ?_, hn⟩
    rintro m rfl
    have : n ≤ min (m - least) rounds := hle
    omega

/-- A set of positions is carried to the ends of the matches that begin in it. -/
theorem testBit_ends {rounds : Nat} (h : text.length < rounds) (r : Regex Atom) (S j : Nat) :
    ((r.map (Atom.move text)).ends rounds S).testBit j ↔
      ∃ i, S.testBit i ∧ r.Spans text i j := by
  induction r generalizing S j with
  | empty => simp [map, ends, Spans]
  | atom a => simp only [map, ends, Spans, testBit_apply, a.testBit_move]
  | cat r s ihr ihs =>
    simp only [map, ends, Spans, ihr, ihs]
    constructor
    · rintro ⟨k, ⟨i, hi, hr⟩, hs⟩
      exact ⟨i, hi, k, hr, hs⟩
    · rintro ⟨i, hi, k, hr, hs⟩
      exact ⟨k, ⟨i, hi, hr⟩, hs⟩
  | alt r s ihr ihs =>
    simp only [map, ends, Spans, Nat.testBit_or, Bool.or_eq_true, ihr, ihs, ← exists_or, and_or_left]
  | repeated r least most greedy ih =>
    simp only [map, ends, settle_eq_iterate, testBit_iterate_or ih, testBit_iterate ih,
      spans_repeated h, repeats_add]
    constructor
    · rintro ⟨k, ⟨i, hi, hik⟩, n, hn, hkj⟩
      exact ⟨i, hi, n, hn, k, hik, hkj⟩
    · rintro ⟨i, hi, n, hn, k, hik, hkj⟩
      exact ⟨k, ⟨i, hi, hik⟩, n, hn, hkj⟩
  | capture _ r ih => exact ih S j

theorem matchesIn_iff (r : Regex Atom) (s : String) :
    r.matchesIn s = true ↔ ∃ i ≤ s.toList.length, ∃ j, r.Spans s.toList i j := by
  have hbits : ∀ n : Nat, n ≠ 0 ↔ ∃ j, n.testBit j := fun n =>
    ⟨Nat.exists_testBit_of_ne_zero, fun ⟨j, hj⟩ hzero => by simp [hzero] at hj⟩
  rw [matchesIn, bne_iff_ne, hbits]
  simp only [testBit_ends (Nat.lt_succ_self _)]
  rw [exists_comm]
  simp only [Nat.pow_eq, Nat.testBit_two_pow_sub_one, Nat.lt_succ_iff, decide_eq_true_eq,
    exists_and_left]

end Regex
end SheetTables
