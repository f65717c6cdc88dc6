import Mathlib.Data.String.Basic
import SheetTables.Grid.Value

/-! # The order of values

Two values are ordered either as what they are, texts by their characters, or as numbers, of which
one may be written in a text. Within one of the two orders a value less than a lesser one is less.
They do not agree on texts, so two texts and a number may be less than each other in a circle.
-/

namespace SheetTables

namespace Double

theorem compare?_eq_some_iff {x y : Double} {o : Ordering} :
    x.compare? y = some o ↔
      (x.isNaN = false ∧ y.isNaN = false) ∧ compare x.rank y.rank = o := by
  unfold compare?
  split
  · next h =>
    rw [Bool.or_eq_true] at h
    constructor
    · nofun
    · rintro ⟨⟨hx, hy⟩, _⟩
      simp [hx, hy] at h
  · next h =>
    rw [Bool.not_eq_true, Bool.or_eq_false_iff] at h
    rw [Option.some.injEq, and_iff_right h]

theorem compare?_lt_trans {x y z : Double} (hxy : x.compare? y = some .lt)
    (hyz : y.compare? z = some .lt) : x.compare? z = some .lt := by
  obtain ⟨⟨hx, _⟩, hxy⟩ := compare?_eq_some_iff.mp hxy
  obtain ⟨⟨_, hz⟩, hyz⟩ := compare?_eq_some_iff.mp hyz
  exact compare?_eq_some_iff.mpr ⟨⟨hx, hz⟩, Std.TransCmp.lt_trans hxy hyz⟩

end Double

instance : Std.TransCmp Timestamp.compare :=
  inferInstanceAs (Std.TransCmp (compareLex (compareOn Timestamp.year) <|
    compareLex (compareOn Timestamp.month) <| compareLex (compareOn Timestamp.day) <|
    compareLex (compareOn Timestamp.hour) <| compareLex (compareOn Timestamp.minute) <|
    compareLex (compareOn Timestamp.second) (compareOn Timestamp.nanosecond)))

instance : Std.LawfulEqCmp Timestamp.compare where
  eq_of_compare {s t} h := by
    cases s
    cases t
    simpa [Timestamp.compare, Ordering.then_eq_eq, and_assoc] using h

namespace Value

/-- How two values are ordered: texts, truth values and moments among themselves, and as numbers if
one of them is a number. -/
inductive Ordered : Value → Value → Ordering → Prop
  | texts {s t : String} {o : Ordering} (order : compare s t = o) : Ordered (text s) (text t) o
  | booleans {p q : Bool} {o : Ordering} (order : compare p q = o) :
      Ordered (boolean p) (boolean q) o
  | moments {s t : Timestamp} {o : Ordering} (order : s.compare t = o) :
      Ordered (moment s) (moment t) o
  | numbers {x y : Double} {o : Ordering} (order : x.compare? y = some o) :
      Ordered (number x) (number y) o
  | numberText {x y : Double} {s : String} {o : Ordering} (read : (text s).number? = some y)
      (order : x.compare? y = some o) : Ordered (number x) (text s) o
  | textNumber {x y : Double} {s : String} {o : Ordering} (read : (text s).number? = some x)
      (order : x.compare? y = some o) : Ordered (text s) (number y) o

theorem compare?_number_text (x : Double) (s : String) :
    compare? (number x) (text s) = (text s).number?.bind x.compare? := by
  rw [compare?]
  cases (text s).number? <;> rfl

theorem compare?_text_number (s : String) (y : Double) :
    compare? (text s) (number y) = (text s).number?.bind fun x => x.compare? y := by
  rw [compare?]
  · cases (text s).number? <;> rfl
  · nofun

theorem compare?_eq_some_iff {a b : Value} {o : Ordering} :
    compare? a b = some o ↔ Ordered a b o := by
  constructor
  · intro h
    cases a with
    | empty => cases b <;> simp [compare?, number?] at h
    | text s =>
      cases b with
      | text t => exact .texts (Option.some.inj h)
      | number y =>
        rw [compare?_text_number] at h
        obtain ⟨x, hread, horder⟩ := Option.bind_eq_some_iff.mp h
        exact .textNumber hread horder
      | _ => simp [compare?] at h
    | number x =>
      cases b with
      | text s =>
        rw [compare?_number_text] at h
        obtain ⟨y, hread, horder⟩ := Option.bind_eq_some_iff.mp h
        exact .numberText hread horder
      | number y => exact .numbers h
      | _ => simp [compare?, number?] at h
    | boolean p =>
      cases b with
      | boolean q => exact .booleans (Option.some.inj h)
      | _ => simp [compare?, number?] at h
    | moment s =>
      cases b with
      | moment t => exact .moments (Option.some.inj h)
      | _ => simp [compare?, number?] at h
  · intro h
    cases h with
    | texts order => exact congrArg some order
    | booleans order => exact congrArg some order
    | moments order => exact congrArg some order
    | numbers order => exact order
    | numberText read order => rw [compare?_number_text, read, Option.bind_some, order]
    | textNumber read order => rw [compare?_text_number, read, Option.bind_some, order]

/-- Two texts and a number, each less than the next, of which the first is not less than the last.
The texts are compared by their characters, and either with the number as a number if it is one. -/
inductive Broken : Value → Value → Value → Prop
  | numberFirst {x : Double} {s t : String} (texts : compare s t = .lt)
      (above : ∀ z, (text t).number? = some z → x.compare? z ≠ some .lt) :
      Broken (number x) (text s) (text t)
  | numberBetween {x : Double} {s t : String} (texts : compare s t ≠ .lt) :
      Broken (text s) (number x) (text t)
  | numberLast {x : Double} {s t : String} (texts : compare s t = .lt)
      (below : ∀ z, (text s).number? = some z → z.compare? x ≠ some .lt) :
      Broken (text s) (text t) (number x)

theorem Ordered.trans {a b c : Value} (hab : Ordered a b .lt) (hbc : Ordered b c .lt) :
    Ordered a c .lt ∨ Broken a b c := by
  cases hab with
  | texts hst =>
    cases hbc with
    | texts htu => exact Or.inl (.texts (Std.TransCmp.lt_trans hst htu))
    | textNumber hy hyz =>
      refine or_iff_not_imp_left.mpr fun hnot => .numberLast hst fun w hw hlt => ?_
      exact hnot (.textNumber hw hlt)
  | booleans hpq =>
    cases hbc with
    | booleans hqr => exact Or.inl (.booleans (Std.TransCmp.lt_trans hpq hqr))
  | moments hst =>
    cases hbc with
    | moments htu => exact Or.inl (.moments (Std.TransCmp.lt_trans hst htu))
  | numbers hxy =>
    cases hbc with
    | numbers hyz => exact Or.inl (.numbers (Double.compare?_lt_trans hxy hyz))
    | numberText hz hyz => exact Or.inl (.numberText hz (Double.compare?_lt_trans hxy hyz))
  | numberText hy hxy =>
    cases hbc with
    | texts hst =>
      refine or_iff_not_imp_left.mpr fun hnot => .numberFirst hst fun w hw hlt => ?_
      exact hnot (.numberText hw hlt)
    | textNumber hy' hyz =>
      obtain rfl := Option.some.inj (hy.symm.trans hy')
      exact Or.inl (.numbers (Double.compare?_lt_trans hxy hyz))
  | textNumber hx hxy =>
    cases hbc with
    | numbers hyz => exact Or.inl (.textNumber hx (Double.compare?_lt_trans hxy hyz))
    | numberText hz hyz =>
      exact or_iff_not_imp_left.mpr fun hnot => .numberBetween fun hlt => hnot (.texts hlt)

theorem Broken.not_ordered {a b c : Value} (h : Broken a b c) : ¬ Ordered a c .lt := by
  intro hac
  cases h with
  | numberFirst _ above =>
    cases hac with
    | numberText read order => exact above _ read order
  | numberBetween texts =>
    cases hac with
    | texts order => exact texts order
  | numberLast _ below =>
    cases hac with
    | textNumber read order => exact below _ read order

/-- A value less than a lesser one is less, but for two texts beside a number: a number before two
texts is not less than the last if that holds no greater number, nor is the first of two texts before
a number if that holds no lesser number; and where the number is between the texts, it is their
characters that count. -/
theorem compare_transitive (a b c : Value) (hab : compare? a b = some .lt)
    (hbc : compare? b c = some .lt) : compare? a c = some .lt ↔ ¬ Broken a b c := by
  have htrans := (compare?_eq_some_iff.mp hab).trans (compare?_eq_some_iff.mp hbc)
  rw [compare?_eq_some_iff]
  exact ⟨fun hac hbroken => hbroken.not_ordered hac, fun hwhole => htrans.resolve_right hwhole⟩

theorem compare_transitive_numerals :
    compare? (text "1.5") (number (.ofInt 2)) = some .lt ∧
      compare? (number (.ofInt 2)) (text " 2.5") = some .lt ∧
      (compare? (text "1.5") (text " 2.5") = some .lt ↔
        ¬ Broken (text "1.5") (number (.ofInt 2)) (text " 2.5")) :=
  have hab : compare? (text "1.5") (number (.ofInt 2)) = some .lt := by decide +kernel
  have hbc : compare? (number (.ofInt 2)) (text " 2.5") = some .lt := by decide +kernel
  ⟨hab, hbc, compare_transitive _ _ _ hab hbc⟩

/-- Two numerals are less than each other, one of them by way of a number between them. -/
theorem numerals_in_a_circle :
    compare? (text "9") (number (.ofQuotient false 19 2)) = some .lt ∧
      compare? (number (.ofQuotient false 19 2)) (text "10") = some .lt ∧
      compare? (text "10") (text "9") = some .lt ∧
      ¬ ∀ a b c, compare? a b = some .lt → compare? b c = some .lt → compare? a c = some .lt := by
  have hab : compare? (text "9") (number (.ofQuotient false 19 2)) = some .lt := by decide +kernel
  have hbc : compare? (number (.ofQuotient false 19 2)) (text "10") = some .lt := by decide +kernel
  have hca : compare? (text "10") (text "9") = some .lt := by decide +kernel
  refine ⟨hab, hbc, hca, fun h => ?_⟩
  have hac : compare? (text "9") (text "10") = some .gt := by decide +kernel
  cases hac.symm.trans (h _ _ _ hab hbc)

/-- Of two values one is a number, and the other a text that holds the same number. -/
inductive SameNumber : Value → Value → Prop
  | numberText {x y : Double} {s : String} (read : (text s).number? = some y)
      (same : x.compare? y = some .eq) : SameNumber (number x) (text s)
  | textNumber {x y : Double} {s : String} (read : (text s).number? = some x)
      (same : x.compare? y = some .eq) : SameNumber (text s) (number y)

theorem ordered_eq_iff {a b : Value} (h : a ≠ .empty ∨ b ≠ .empty) :
    Ordered a b .eq ↔ a.equals b = true ∨ SameNumber a b := by
  constructor
  · intro h
    cases h with
    | texts order => exact Or.inl (by simpa [equals] using order)
    | booleans order => exact Or.inl (by simpa [equals] using order)
    | moments order => exact Or.inl (by simpa [equals] using order)
    | numbers order => exact Or.inl (beq_iff_eq.mpr order)
    | numberText read order => exact Or.inr (.numberText read order)
    | textNumber read order => exact Or.inr (.textNumber read order)
  · rintro (hequal | hsame)
    · cases a with
      | empty =>
        obtain rfl : empty = b := by simpa [equals] using hequal
        simp at h
      | text s =>
        obtain rfl : text s = b := by simpa [equals] using hequal
        exact .texts Std.ReflCmp.compare_self
      | boolean p =>
        obtain rfl : boolean p = b := by simpa [equals] using hequal
        exact .booleans Std.ReflCmp.compare_self
      | moment s =>
        obtain rfl : moment s = b := by simpa [equals] using hequal
        exact .moments Std.ReflCmp.compare_self
      | number x =>
        cases b with
        | number y => exact .numbers (beq_iff_eq.mp hequal)
        | _ => simp [equals] at hequal
    · cases hsame with
      | numberText read same => exact .numberText read same
      | textNumber read same => exact .textNumber read same

end Value
end SheetTables
