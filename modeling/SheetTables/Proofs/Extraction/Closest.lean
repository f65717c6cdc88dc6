import SheetTables.Extraction.Recognition
import SheetTables.Proofs.Grid.Scan

/-! # Closest members

The least member of a list by a weight, the first one among equals. By weight and place this
member is unique; in a list that is sorted by some order it is the first one in that order.
-/

namespace SheetTables

/-- In a list where of any two members the first is related to the second, and no member to
itself, a member has one place. -/
theorem place_eq_of_pairwise {α : Type} {R : α → α → Prop} {as : List α} (h : as.Pairwise R)
    {i j : Nat} {a b : α} (ha : as[i]? = some a) (hb : as[j]? = some b) (hab : ¬ R a b)
    (hba : ¬ R b a) : i = j := by
  obtain ⟨hi, rfl⟩ := List.getElem?_eq_some_iff.mp ha
  obtain ⟨hj, rfl⟩ := List.getElem?_eq_some_iff.mp hb
  rcases Nat.lt_trichotomy i j with hlt | he | hlt
  · exact absurd (List.pairwise_iff_getElem.mp h i j hi hj hlt) hab
  · exact he
  · exact absurd (List.pairwise_iff_getElem.mp h j i hj hi hlt) hba

/-- The member at a place, if no member weighs less and all before it weigh more. -/
structure FirstLeast {α : Type} (weight : α → Nat) (as : List α) (i : Nat) (a : α) : Prop where
  mem : as[i]? = some a
  least : ∀ b ∈ as, weight a ≤ weight b
  first : ∀ j b, j < i → as[j]? = some b → weight a < weight b

variable {α : Type} {weight : α → Nat}

namespace FirstLeast

variable {as : List α} {i j : Nat} {a b : α}

theorem place_le (h : FirstLeast weight as i a) (k : FirstLeast weight as j b) : i ≤ j := by
  by_contra hlt
  have hb := h.first j b (Nat.lt_of_not_le hlt) k.mem
  have ha := k.least a (List.mem_of_getElem? h.mem)
  omega

theorem place_eq (h : FirstLeast weight as i a) (k : FirstLeast weight as j b) : i = j :=
  Nat.le_antisymm (h.place_le k) (k.place_le h)

end FirstLeast

theorem firstLeast_congr {weight' : α → Nat} {as : List α} {i : Nat} {a : α}
    (h : ∀ b ∈ as, weight b = weight' b) :
    FirstLeast weight as i a ↔ FirstLeast weight' as i a := by
  suffices hmp : ∀ {w w' : α → Nat}, (∀ b ∈ as, w b = w' b) →
      FirstLeast w as i a → FirstLeast w' as i a from
    ⟨hmp h, hmp fun b hb => (h b hb).symm⟩
  intro w w' h hi
  have ha := h a (List.mem_of_getElem? hi.mem)
  refine ⟨hi.mem, fun b hb => ?_, fun j b hj hb => ?_⟩
  · rw [← ha, ← h b hb]
    exact hi.least b hb
  · rw [← ha, ← h b (List.mem_of_getElem? hb)]
    exact hi.first j b hj hb

theorem leastBy_eq_none_iff {as : List α} : leastBy weight as = none ↔ as = [] := by
  cases as with
  | nil => simp [leastBy]
  | cons a as =>
    unfold leastBy
    cases leastBy weight as with
    | none => simp
    | some b => by_cases h : weight b < weight a <;> simp [h]

theorem firstLeast_of_leastBy {as : List α} {a : α} (h : leastBy weight as = some a) :
    ∃ i, FirstLeast weight as i a := by
  induction as generalizing a with
  | nil => simp [leastBy] at h
  | cons b as ih =>
    unfold leastBy at h
    cases hl : leastBy weight as with
    | none =>
      have hnil := leastBy_eq_none_iff.mp hl
      subst hnil
      cases h
      exact ⟨0, rfl, by simp, by simp⟩
    | some c =>
      simp only [hl] at h
      obtain ⟨i, hi⟩ := ih hl
      by_cases hlt : weight c < weight b
      · rw [if_pos hlt] at h
        cases h
        refine ⟨i + 1, hi.mem, ?_, ?_⟩
        · intro d hd
          rcases List.mem_cons.mp hd with rfl | hd
          · exact Nat.le_of_lt hlt
          · exact hi.least d hd
        · intro j d hj hd
          cases j with
          | zero =>
            cases hd
            exact hlt
          | succ j => exact hi.first j d (Nat.lt_of_succ_lt_succ hj) hd
      · rw [if_neg hlt] at h
        cases h
        refine ⟨0, rfl, ?_, ?_⟩
        · intro d hd
          rcases List.mem_cons.mp hd with rfl | hd
          · exact Nat.le_refl _
          · exact Nat.le_trans (Nat.le_of_not_lt hlt) (hi.least d hd)
        · intro j d hj
          omega

theorem leastBy_eq_some_iff {as : List α} {a : α} :
    leastBy weight as = some a ↔ ∃ i, FirstLeast weight as i a := by
  refine ⟨firstLeast_of_leastBy, ?_⟩
  rintro ⟨i, hi⟩
  cases h : leastBy weight as with
  | none =>
    have hnil := leastBy_eq_none_iff.mp h
    have hm := List.mem_of_getElem? hi.mem
    simp [hnil] at hm
  | some b =>
    obtain ⟨j, hj⟩ := firstLeast_of_leastBy h
    have hij := hi.place_eq hj
    subst hij
    exact hj.mem.symm.trans hi.mem

/-- In a sorted list the places give way to the order. -/
theorem leastBy_eq_some_iff_of_sorted {R : α → α → Prop} (hirrefl : ∀ a, ¬ R a a)
    (htrans : ∀ a b c, R a b → R b c → R a c) {as : List α} (hs : as.Pairwise R) {a : α} :
    leastBy weight as = some a ↔
      a ∈ as ∧ (∀ b ∈ as, weight a ≤ weight b) ∧ ∀ b ∈ as, R b a → weight a < weight b := by
  rw [leastBy_eq_some_iff]
  constructor
  · rintro ⟨i, hi⟩
    refine ⟨List.mem_of_getElem? hi.mem, hi.least, ?_⟩
    intro b hb hba
    obtain ⟨j, hj, rfl⟩ := List.getElem_of_mem hb
    obtain ⟨hlt, rfl⟩ := List.getElem?_eq_some_iff.mp hi.mem
    rcases Nat.lt_trichotomy j i with hji | rfl | hij
    · exact hi.first j _ hji (List.getElem?_eq_getElem hj)
    · exact absurd hba (hirrefl _)
    · have hab := List.pairwise_iff_getElem.mp hs i j hlt hj hij
      exact absurd (htrans _ _ _ hab hba) (hirrefl _)
  · rintro ⟨ha, hleast, hfirst⟩
    obtain ⟨i, hi, rfl⟩ := List.getElem_of_mem ha
    refine ⟨i, List.getElem?_eq_getElem hi, hleast, ?_⟩
    intro j b hji hb
    obtain ⟨hj, rfl⟩ := List.getElem?_eq_some_iff.mp hb
    exact hfirst _ (List.getElem_mem hj) (List.pairwise_iff_getElem.mp hs j i hj hi hji)

theorem firstLeast_zipIdx (weight : α → Nat) {as : List α} {i : Nat} {p : α × Nat} :
    FirstLeast (fun q : α × Nat => weight q.1) as.zipIdx i p ↔
      p.2 = i ∧ FirstLeast weight as i p.1 := by
  have hmem : ∀ b, (∃ j, (b, j) ∈ as.zipIdx) ↔ b ∈ as := by
    intro b
    rw [List.mem_iff_getElem?]
    simp only [List.mk_mem_zipIdx_iff_getElem?]
  constructor
  · intro h
    have hp := h.mem
    rw [List.getElem?_zipIdx] at hp
    obtain ⟨a, ha, rfl⟩ := Option.map_eq_some_iff.mp hp
    refine ⟨by simp, ha, ?_, ?_⟩
    · intro b hb
      obtain ⟨j, hj⟩ := (hmem b).mpr hb
      exact h.least (b, j) hj
    · intro j b hj hb
      exact h.first j (b, 0 + j) hj (by simp [List.getElem?_zipIdx, hb])
  · rintro ⟨rfl, h⟩
    refine ⟨by simp [List.getElem?_zipIdx, h.mem], ?_, ?_⟩
    · intro q hq
      exact h.least q.1 ((hmem q.1).mp ⟨q.2, hq⟩)
    · intro j q hj hq
      rw [List.getElem?_zipIdx] at hq
      obtain ⟨b, hb, rfl⟩ := Option.map_eq_some_iff.mp hq
      exact h.first j b hj hb

theorem nearestAnchor?_eq_some_iff {anchors : List Cell} {c : Cell} {t : Nat} :
    nearestAnchor? anchors c = some t ↔ ∃ a, FirstLeast (fun a => a.distance c) anchors t a := by
  unfold nearestAnchor?
  rw [Option.map_eq_some_iff]
  constructor
  · rintro ⟨p, hp, rfl⟩
    obtain ⟨i, hi⟩ := leastBy_eq_some_iff.mp hp
    obtain ⟨rfl, h⟩ := (firstLeast_zipIdx fun a : Cell => a.distance c).mp hi
    exact ⟨p.1, h⟩
  · rintro ⟨a, ha⟩
    have hp := (firstLeast_zipIdx (p := (a, t)) fun a : Cell => a.distance c).mpr ⟨rfl, ha⟩
    exact ⟨(a, t), leastBy_eq_some_iff.mpr ⟨t, hp⟩, rfl⟩

end SheetTables
