import SheetTables.Calendar.Gregorian
import SheetTables.Proofs.Calendar.Layouts

/-! # The Gregorian calendar as a calendar

It is read from the spelling of a layout what its parts are, and the parts are followed as they have
to be.
-/

namespace SheetTables.Calendar

theorem partsOf?_append (part : Part) (s : List Char) :
    partsOf? (part.spelling ++ s) = (partsOf? s).map (part :: ·) := by
  cases part with
  | slot place => cases place <;> rfl
  | mark c plain =>
    by_cases hc : c = '%'
    · subst hc
      rfl
    · rw [Part.spelling, if_neg hc, List.singleton_append, partsOf?]
      · simp [plain]
      all_goals simp_all
  | _ => rfl

@[simp] theorem partsOf?_spell (layout : List Part) :
    partsOf? (spell layout).toList = some layout := by
  rw [spell, String.toList_ofList]
  induction layout with
  | nil => rfl
  | cons part layout ih => rw [List.flatMap_cons, partsOf?_append, ih]; rfl

theorem number?_append {width n : Nat} {digits rest : List Char}
    (h : IsNumber (some width) n digits rest) :
    number? width (digits ++ rest) = some (n, rest) := by
  have hlen : digits.length ≤ width := h.short width rfl
  have hrun : ((digits ++ rest).take width).takeWhile Char.isDigit = digits := by
    rw [List.take_append, List.take_of_length_le hlen]
    refine takeWhile_append_stop h.all fun c hc => ?_
    rcases h.ends with hwidth | hstop
    · rw [Option.some.inj hwidth, Nat.sub_self] at hc
      cases hc
    · rw [List.head?_take] at hc
      split at hc
      · cases hc
      · exact hstop c hc
  unfold number?
  dsimp only
  rw [hrun, if_neg (by simpa using h.ne_nil), List.drop_left, h.value]

theorem IsNumber.bounded {n : Nat} {digits rest : List Char} (h : IsNumber none n digits rest) :
    IsNumber (some (digits ++ rest).length) n digits rest where
  ne_nil := h.ne_nil
  all := h.all
  value := h.value
  short w hw := by
    obtain rfl := Option.some.inj hw
    rw [List.length_append]
    exact Nat.le_add_right _ _
  ends := Or.inr (h.ends.resolve_left nofun)

theorem IsNumber.exists_cons {width : Option Nat} {n : Nat} {digits rest : List Char}
    (h : IsNumber width n digits rest) : ∃ c s, digits = c :: s ∧ c.isDigit := by
  obtain ⟨c, s, hs⟩ := List.exists_cons_of_ne_nil h.ne_nil
  exact ⟨c, s, hs, h.all c (hs ▸ List.mem_cons_self)⟩

theorem not_isBlank_of_isDigit {c : Char} (h : c.isDigit) : ¬ isBlank c := by
  rw [isDigit_iff] at h
  simp only [isBlank, Bool.or_eq_true, Bool.and_eq_true, decide_eq_true_eq, beq_iff_eq]
  omega

theorem trimLeft_cons {c : Char} (h : ¬ isBlank c) (s : List Char) :
    trimLeft (c :: s) = c :: s :=
  List.dropWhile_cons_of_neg h

theorem IsNumber.trimLeft {width : Option Nat} {n : Nat} {digits rest : List Char}
    (h : IsNumber width n digits rest) : trimLeft (digits ++ rest) = digits ++ rest := by
  obtain ⟨c, s, rfl, hdigit⟩ := h.exists_cons
  exact trimLeft_cons (not_isBlank_of_isDigit hdigit) _

theorem year?_append {n : Nat} {digits rest : List Char} (h : IsNumber (some 4) n digits rest) :
    year? (digits ++ rest) = some ((n : Int), rest) := by
  have hnumber := number?_append h
  obtain ⟨c, s, rfl, hdigit⟩ := h.exists_cons
  have hsign : c ≠ '-' ∧ c ≠ '+' := by
    constructor <;> rintro rfl <;> exact absurd hdigit (by decide)
  rw [List.cons_append] at hnumber ⊢
  rw [year?, hnumber]
  · rfl
  · exact fun t ht => hsign.1 (List.cons.inj ht).1
  · exact fun t ht => hsign.2 (List.cons.inj ht).1

theorem Fits.read? {layout : List Part} {d d' : Draft} {s : List Char} (h : Fits layout d s d') :
    read? layout d s = some d' := by
  induction h with
  | nil => rfl
  | year unknown number _ ih =>
    simp only [Calendar.read?, Part.read?, number.trimLeft, year?_append number, agreed?, unknown]
    exact ih
  | positive unknown number _ ih =>
    have hyear : year? ('+' :: (_ ++ _)) = some _ :=
      congrArg (Option.map _) (number?_append number.bounded)
    rw [Calendar.read?, Part.read?, trimLeft_cons (by decide), hyear]
    simp only [agreed?, unknown]
    exact ih
  | negative unknown number _ ih =>
    have hyear : year? ('-' :: (_ ++ _)) = some _ :=
      congrArg (Option.map _) (number?_append number.bounded)
    rw [Calendar.read?, Part.read?, trimLeft_cons (by decide), hyear]
    simp only [agreed?, unknown]
    exact ih
  | slot unknown number _ ih =>
    simp only [Calendar.read?, Part.read?, number.trimLeft, number?_append number, agreed?,
      unknown]
    exact ih
  | @fraction _ _ _ rest absent _ ih =>
    have hnone : fraction? rest = some (none, rest) := by
      unfold fraction?
      split
      · exact absurd rfl absent
      · rfl
    rw [Calendar.read?, Part.read?, hnone]
    exact ih
  | blanks _ ih => exact ih
  | mark _ ih =>
    rw [Calendar.read?, Part.read?, if_pos rfl]
    exact ih

theorem suffix_number? {width n : Nat} {s rest : List Char} (h : number? width s = some (n, rest)) :
    rest <:+ s := by
  unfold number? at h
  dsimp only at h
  split at h
  · cases h
  · cases h
    exact List.drop_suffix _ _

theorem suffix_year? {year : Int} {s rest : List Char} (h : year? s = some (year, rest)) :
    rest <:+ s := by
  unfold year? at h
  split at h
  all_goals
    obtain ⟨⟨n, k⟩, hnumber, hk⟩ := Option.map_eq_some_iff.mp h
    cases hk
    first
      | exact suffix_number? hnumber
      | exact (suffix_number? hnumber).trans (List.suffix_cons _ _)

theorem suffix_fraction? {n : Option Nat} {s rest : List Char}
    (h : fraction? s = some (n, rest)) : rest <:+ s := by
  unfold fraction? at h
  split at h
  · dsimp only at h
    split at h
    · cases h
    · cases h
      exact (List.drop_suffix _ _).trans (List.suffix_cons _ _)
  · cases h
    exact List.suffix_refl _

theorem eq_of_agreed? {α : Type} [DecidableEq α] {known : Option α} {found found' : α × List Char}
    (h : agreed? known found = some found') : found = found' := by
  unfold agreed? at h
  split at h
  · exact Option.some.inj h
  · cases h

theorem Part.suffix_read? {part : Part} {d d' : Draft} {s rest : List Char}
    (h : part.read? d s = some (d', rest)) : rest <:+ s := by
  have htrim : trimLeft s <:+ s := List.dropWhile_suffix _
  cases part with
  | year =>
    obtain ⟨found, hfound, hrest⟩ := Option.map_eq_some_iff.mp h
    obtain ⟨found', hyear, hagreed⟩ := Option.bind_eq_some_iff.mp hfound
    obtain rfl := eq_of_agreed? hagreed
    cases hrest
    exact (suffix_year? hyear).trans htrim
  | slot place =>
    obtain ⟨found, hfound, hrest⟩ := Option.map_eq_some_iff.mp h
    obtain ⟨found', hnumber, hagreed⟩ := Option.bind_eq_some_iff.mp hfound
    obtain rfl := eq_of_agreed? hagreed
    cases hrest
    exact (suffix_number? hnumber).trans htrim
  | fraction =>
    obtain ⟨found, hfraction, hrest⟩ := Option.map_eq_some_iff.mp h
    cases hrest
    exact suffix_fraction? hfraction
  | blanks =>
    cases h
    exact htrim
  | mark c plain =>
    cases s with
    | nil => cases h
    | cons a s =>
      rw [Part.read?] at h
      split at h
      · cases h
        exact List.suffix_cons _ _
      · cases h

theorem mem_of_read? {layout : List Part} {d d' : Draft} {s : List Char} {c : Char}
    {plain : isBlank c = false} (h : read? layout d s = some d') (hc : .mark c plain ∈ layout) :
    c ∈ s := by
  induction layout generalizing d s with
  | nil => cases hc
  | cons part layout ih =>
    rw [read?] at h
    split at h
    · next d'' rest hpart =>
      rcases List.mem_cons.mp hc with rfl | hc
      · cases s with
        | nil => cases hpart
        | cons a s =>
          rw [Part.read?] at hpart
          split at hpart
          · next ha => exact ha ▸ List.mem_cons_self
          · cases hpart
      · exact (Part.suffix_read? hpart).mem (ih h hc)
    · cases h

theorem documented : Documented where
  format_nil _ := rfl
  format_cons part layout t := by
    simp [format]
  reads layout s d t hfits ht := by
    simp only [Calendar.timestamp?, partsOf?_spell, Option.bind_some, hfits.read?, ht]
  marks layout s t c plain h hc := by
    simp only [Calendar.timestamp?, partsOf?_spell, Option.bind_some] at h
    obtain ⟨d, hd, -⟩ := Option.bind_eq_some_iff.mp h
    exact mem_of_read? hd hc

end SheetTables.Calendar
