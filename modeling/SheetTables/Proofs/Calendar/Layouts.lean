import SheetTables.Calendar.Layout
import SheetTables.Proofs.Grid.References

/-! # What calendars are known to do

A calendar writes a layout part by part. A text that fits a layout is read as what its parts say: a
number goes up to its width or to a character that is no digit, a year of more than four digits has
a sign, and a fraction may be left out. What does not show the marks of a layout is not read by it.
-/

namespace SheetTables.Calendar

/-- Digits at the head of a text that are read as a number. -/
structure IsNumber (width : Option Nat) (n : Nat) (digits rest : List Char) : Prop where
  ne_nil : digits ≠ []
  all : ∀ c ∈ digits, c.isDigit
  value : digitsFrom 0 digits = n
  short : ∀ w ∈ width, digits.length ≤ w
  ends : some digits.length = width ∨ ∀ c ∈ rest.head?, ¬ c.isDigit

/-- A text that fits a layout, and all that is known after it from what was known before. -/
inductive Fits : List Part → Draft → List Char → Draft → Prop
  | nil {d : Draft} : Fits [] d [] d
  | year {layout : List Part} {d d' : Draft} {n : Nat} {digits rest : List Char}
      (unknown : d.year = none) (number : IsNumber (some 4) n digits rest)
      (tail : Fits layout { d with year := some n } rest d') :
      Fits (.year :: layout) d (digits ++ rest) d'
  | positive {layout : List Part} {d d' : Draft} {n : Nat} {digits rest : List Char}
      (unknown : d.year = none) (number : IsNumber none n digits rest)
      (tail : Fits layout { d with year := some n } rest d') :
      Fits (.year :: layout) d ('+' :: (digits ++ rest)) d'
  | negative {layout : List Part} {d d' : Draft} {n : Nat} {digits rest : List Char}
      (unknown : d.year = none) (number : IsNumber none n digits rest)
      (tail : Fits layout { d with year := some (-n) } rest d') :
      Fits (.year :: layout) d ('-' :: (digits ++ rest)) d'
  | slot {layout : List Part} {d d' : Draft} {place : Slot} {n : Nat} {digits rest : List Char}
      (unknown : d.slots place = none) (number : IsNumber (some 2) n digits rest)
      (tail : Fits layout (d.put place n) rest d') :
      Fits (.slot place :: layout) d (digits ++ rest) d'
  | fraction {layout : List Part} {d d' : Draft} {rest : List Char} (absent : '.' ∉ rest.head?)
      (tail : Fits layout d rest d') : Fits (.fraction :: layout) d rest d'
  | blanks {layout : List Part} {d d' : Draft} {rest : List Char}
      (tail : Fits layout d (trimLeft rest) d') : Fits (.blanks :: layout) d rest d'
  | mark {layout : List Part} {d d' : Draft} {rest : List Char} {c : Char}
      {plain : isBlank c = false} (tail : Fits layout d rest d') :
      Fits (.mark c plain :: layout) d (c :: rest) d'

/-- A text that fits a layout is read as the timestamp that it says, if it says one. -/
structure Documented [Calendar] : Prop where
  format_nil : ∀ t, format (spell []) t = ""
  format_cons : ∀ part layout t,
    format (spell (part :: layout)) t = part.text t ++ format (spell layout) t
  reads : ∀ layout s d t, Fits layout {} s.toList d → d.timestamp? = some t →
    Calendar.timestamp? (spell layout) s = some t
  marks : ∀ layout s t c plain, Calendar.timestamp? (spell layout) s = some t →
    .mark c plain ∈ layout → c ∈ s.toList

theorem Documented.toList_format [Calendar] (h : Documented) (layout : List Part) (t : Timestamp) :
    (format (spell layout) t).toList = layout.flatMap fun part => (part.text t).toList := by
  induction layout with
  | nil => rw [h.format_nil]; rfl
  | cons part layout ih => rw [h.format_cons, String.toList_append, ih, List.flatMap_cons]

theorem toList_padded (width n : Nat) : (padded width n).toList =
    List.replicate (width - (Nat.toDigits 10 n).length) '0' ++ Nat.toDigits 10 n := by
  rw [padded, Nat.toString_eq_ofList_toDigits]
  simp

theorem isDigit_of_mem_padded {width n : Nat} {c : Char} (h : c ∈ (padded width n).toList) :
    c.isDigit := by
  rw [toList_padded, List.mem_append] at h
  rcases h with h | h
  · rw [List.eq_of_mem_replicate h]
    decide
  · exact Nat.isDigit_of_mem_toDigits (by decide) (by decide) h

theorem padded_ne_nil (width n : Nat) : (padded width n).toList ≠ [] := by
  rw [toList_padded]
  exact List.append_ne_nil_of_right_ne_nil _ Nat.toDigits_ne_nil

theorem length_padded {width n : Nat} (hwidth : 0 < width) (hn : n < 10 ^ width) :
    (padded width n).toList.length = width := by
  have hlen : (Nat.toDigits 10 n).length ≤ width :=
    (Nat.length_toDigits_le_iff (by decide) hwidth).mpr hn
  rw [toList_padded, List.length_append, List.length_replicate]
  omega

theorem digitsFrom_append (start : Nat) (s t : List Char) :
    digitsFrom start (s ++ t) = digitsFrom (digitsFrom start s) t :=
  List.foldl_append

theorem digitsFrom_zeros (n : Nat) : digitsFrom 0 (List.replicate n '0') = 0 := by
  induction n with
  | zero => rfl
  | succ n ih => exact ih

theorem digitsFrom_padded (width n : Nat) : digitsFrom 0 (padded width n).toList = n := by
  rw [toList_padded, digitsFrom_append, digitsFrom_zeros]
  exact Nat.ofDigitChars_ten_toDigits

/-- A number that fills its width needs no end. -/
theorem isNumber_padded {width n : Nat} (hwidth : 0 < width) (hn : n < 10 ^ width)
    (rest : List Char) : IsNumber (some width) n (padded width n).toList rest where
  ne_nil := padded_ne_nil width n
  all _ := isDigit_of_mem_padded
  value := digitsFrom_padded width n
  short w hw := Option.some.inj hw ▸ (length_padded hwidth hn).le
  ends := Or.inl (by rw [length_padded hwidth hn])

theorem isNumber_padded_of_ends {rest : List Char} (h : ∀ c ∈ rest.head?, ¬ c.isDigit)
    (width n : Nat) : IsNumber none n (padded width n).toList rest where
  ne_nil := padded_ne_nil width n
  all _ := isDigit_of_mem_padded
  value := digitsFrom_padded width n
  short _ hw := nomatch hw
  ends := Or.inr h

theorem fits_slot {layout : List Part} {d d' : Draft} {place : Slot} {n : Nat} {rest : List Char}
    (unknown : d.slots place = none) (hn : n < 100) (tail : Fits layout (d.put place n) rest d') :
    Fits (.slot place :: layout) d ((padded 2 n).toList ++ rest) d' :=
  .slot unknown (isNumber_padded (by decide) hn rest) tail

/-- A year is read as it is written, with its sign or without, up to a mark after it. -/
theorem fits_year {layout : List Part} {d d' : Draft} {year : Int} {rest : List Char}
    (unknown : d.year = none) (ends : ∀ c ∈ rest.head?, ¬ c.isDigit)
    (tail : Fits layout { d with year := some year } rest d') :
    Fits (.year :: layout) d ((yearText year).toList ++ rest) d' := by
  unfold yearText
  dsimp only
  split
  · next hneg =>
    obtain ⟨n, rfl⟩ : ∃ n : Nat, year = -n := ⟨year.natAbs, by omega⟩
    rw [Int.natAbs_neg, Int.natAbs_natCast, String.toList_append]
    exact .negative unknown (isNumber_padded_of_ends ends 4 n) tail
  · next hpos =>
    obtain ⟨n, rfl⟩ : ∃ n : Nat, year = n := ⟨year.natAbs, by omega⟩
    rw [Int.natAbs_natCast]
    split
    · rw [String.toList_append]
      exact .positive unknown (isNumber_padded_of_ends ends 4 n) tail
    · next hshort => exact .year unknown (isNumber_padded (by decide) (by omega) rest) tail

end SheetTables.Calendar
