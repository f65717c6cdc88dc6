import Mathlib.Data.List.Induction
import Mathlib.Data.List.Shortlex
import Mathlib.Tactic.Ring
import SheetTables.Grid.Reference

/-! # Column letters

The letters of a column are a numeral in base twenty-six without a zero. Writing and reading them
are inverse to each other up to the greatest index, columns are in the order of their letters with
the shorter before the longer, and the bounds checked while reading refuse no letters but those
whose whole value is out of bounds.
-/

namespace SheetTables

def IsCapital (c : Char) : Prop := 'A' ≤ c ∧ c ≤ 'Z'

theorem isCapital_iff {c : Char} : IsCapital c ↔ 65 ≤ c.toNat ∧ c.toNat ≤ 90 := by
  simp [IsCapital, Char.le_def, UInt32.le_iff_toNat_le]

theorem isLetter_iff {c : Char} :
    isLetter c ↔ IsCapital c ∨ 97 ≤ c.toNat ∧ c.toNat ≤ 122 := by
  simp [isLetter, IsCapital, Char.le_def, UInt32.le_iff_toNat_le]

theorem IsCapital.isLetter {c : Char} (h : IsCapital c) : isLetter c :=
  isLetter_iff.mpr (Or.inl h)

theorem toNat_toUpper (c : Char) :
    c.toUpper.toNat = if 97 ≤ c.toNat ∧ c.toNat ≤ 122 then c.toNat - 32 else c.toNat := by
  have hlower : 'a'.val ≤ c.val ∧ c.val ≤ 'z'.val ↔ 97 ≤ c.toNat ∧ c.toNat ≤ 122 := by
    simp [UInt32.le_iff_toNat_le]
  unfold Char.toUpper
  split
  · next h =>
    have hc := hlower.mp h
    rw [if_pos hc]
    have hgap : ('A'.val - 'a'.val).toNat = 2 ^ 32 - 32 := by decide
    change (c.val + ('A'.val - 'a'.val)).toNat = c.val.toNat - 32
    have hval : 97 ≤ c.val.toNat ∧ c.val.toNat ≤ 122 := hc
    rw [UInt32.toNat_add, hgap]
    omega
  · next h => rw [if_neg (mt hlower.mpr h)]

theorem isCapital_toUpper {c : Char} (h : isLetter c) : IsCapital c.toUpper := by
  rw [isLetter_iff, isCapital_iff] at h
  rw [isCapital_iff, toNat_toUpper]
  split <;> omega

theorem IsCapital.toUpper {c : Char} (h : IsCapital c) : c.toUpper = c := by
  have hc := isCapital_iff.mp h
  rw [← Char.toNat_inj, toNat_toUpper, if_neg (by omega)]

theorem letterValue_pos (c : Char) : 0 < letterValue c := by
  unfold letterValue
  omega

theorem IsCapital.letterValue_eq {c : Char} (h : IsCapital c) : letterValue c = c.toNat - 64 := by
  have hc := isCapital_iff.mp h
  rw [letterValue, h.toUpper]
  omega

theorem letterValue_lt {c k : Char} (hc : IsCapital c) (hk : IsCapital k) (h : c < k) :
    letterValue c < letterValue k := by
  have hmin := (isCapital_iff.mp hc).1
  have hnat : c.toNat < k.toNat := UInt32.lt_iff_toNat_lt.mp (Char.lt_def.mp h)
  rw [hc.letterValue_eq, hk.letterValue_eq]
  omega

theorem letterValue_le {c : Char} (h : isLetter c) : letterValue c ≤ 26 := by
  have hc := isCapital_iff.mp (isCapital_toUpper h)
  unfold letterValue
  omega

def capital (d : Nat) : Char := Char.ofNat (65 + d)

theorem toNat_capital {d : Nat} (hd : d < 26) : (capital d).toNat = 65 + d := by
  have hvalid : (65 + d).isValidChar := Or.inl (by omega)
  rw [capital, Char.ofNat, dif_pos hvalid]
  rfl

theorem isCapital_capital {d : Nat} (hd : d < 26) : IsCapital (capital d) := by
  rw [isCapital_iff, toNat_capital hd]
  omega

theorem letterValue_capital {d : Nat} (hd : d < 26) : letterValue (capital d) = d + 1 := by
  rw [(isCapital_capital hd).letterValue_eq, toNat_capital hd]
  omega

theorem capital_letterValue {c : Char} (h : isLetter c) :
    capital (letterValue c - 1) = c.toUpper := by
  have hc := isCapital_iff.mp (isCapital_toUpper h)
  have hlt : letterValue c - 1 < 26 := by
    have := letterValue_le h
    omega
  rw [← Char.toNat_inj, toNat_capital hlt, letterValue]
  omega

/-- The value of letters by their places: ones at the end, twenty-sixes before them, and so on. -/
def columnNumber : List Char → Nat
  | [] => 0
  | c :: s => letterValue c * 26 ^ s.length + columnNumber s

theorem columnNumber_append (s t : List Char) :
    columnNumber (s ++ t) = columnNumber s * 26 ^ t.length + columnNumber t := by
  induction s with
  | nil => simp [columnNumber]
  | cons c s ih =>
    rw [List.cons_append, columnNumber, columnNumber, ih, List.length_append, Nat.pow_add]
    ring

theorem columnNumber_concat (s : List Char) (c : Char) :
    columnNumber (s ++ [c]) = 26 * columnNumber s + letterValue c := by
  rw [columnNumber_append]
  simp [columnNumber, Nat.mul_comm]

theorem columnNumber_pos {s : List Char} (h : s ≠ []) : 0 < columnNumber s := by
  cases s with
  | nil => exact absurd rfl h
  | cons c s =>
    have hc : 0 < letterValue c * 26 ^ s.length :=
      Nat.mul_pos (letterValue_pos c) (Nat.pow_pos (by decide))
    rw [columnNumber]
    omega

theorem columnNumber_bounds {s : List Char} (hs : ∀ c ∈ s, isLetter c) :
    26 ^ s.length ≤ 25 * columnNumber s + 1 ∧ 25 * columnNumber s + 26 ≤ 26 ^ (s.length + 1) := by
  induction s with
  | nil => simp [columnNumber]
  | cons c s ih =>
    obtain ⟨hlow, hhigh⟩ := ih fun x hx => hs x (List.mem_cons_of_mem c hx)
    have hmin : 26 ^ s.length ≤ letterValue c * 26 ^ s.length :=
      Nat.le_mul_of_pos_left _ (letterValue_pos c)
    have hmax : letterValue c * 26 ^ s.length ≤ 26 * 26 ^ s.length :=
      Nat.mul_le_mul_right _ (letterValue_le (hs c List.mem_cons_self))
    rw [Nat.pow_succ] at hhigh
    rw [columnNumber, List.length_cons, Nat.pow_succ, Nat.pow_succ]
    omega

theorem columnNumber_lt_of_length {s t : List Char} (hs : ∀ c ∈ s, isLetter c)
    (ht : ∀ c ∈ t, isLetter c) (h : s.length < t.length) : columnNumber s < columnNumber t := by
  have hpow : 26 ^ (s.length + 1) ≤ 26 ^ t.length := Nat.pow_le_pow_right (by decide) h
  have hsmax := (columnNumber_bounds hs).2
  have htmin := (columnNumber_bounds ht).1
  omega

theorem columnNumber_lt_of_lex {s t : List Char} (hs : ∀ c ∈ s, IsCapital c)
    (ht : ∀ c ∈ t, IsCapital c) (hlen : s.length = t.length) (h : List.Lex (· < ·) s t) :
    columnNumber s < columnNumber t := by
  induction h with
  | nil => simp at hlen
  | @cons c s t _ ih =>
    have hrest : s.length = t.length := Nat.succ_inj.mp hlen
    have hlt := ih (fun x hx => hs x (List.mem_cons_of_mem c hx))
      (fun x hx => ht x (List.mem_cons_of_mem c hx)) hrest
    rw [columnNumber, columnNumber, hrest]
    omega
  | @rel c s k t hck =>
    have hrest : s.length = t.length := Nat.succ_inj.mp hlen
    have hvalue := letterValue_lt (hs c List.mem_cons_self) (ht k List.mem_cons_self) hck
    -- What follows the greater letter cannot make up for one more of its place.
    have hplace : letterValue c * 26 ^ t.length + 26 ^ t.length ≤ letterValue k * 26 ^ t.length := by
      rw [← Nat.succ_mul]
      exact Nat.mul_le_mul_right _ hvalue
    have hsmax := (columnNumber_bounds fun x hx => (hs x (List.mem_cons_of_mem c hx)).isLetter).2
    have htmin := (columnNumber_bounds fun x hx => (ht x (List.mem_cons_of_mem k hx)).isLetter).1
    rw [Nat.pow_succ, hrest] at hsmax
    rw [columnNumber, columnNumber, hrest]
    omega

/-- The values of capitals are in the order of the letters, the shorter before the longer. -/
theorem columnNumber_lt_iff {s t : List Char} (hs : ∀ c ∈ s, IsCapital c)
    (ht : ∀ c ∈ t, IsCapital c) :
    columnNumber s < columnNumber t ↔ List.Shortlex (· < ·) s t := by
  have hlt : ∀ {s t : List Char}, (∀ c ∈ s, IsCapital c) → (∀ c ∈ t, IsCapital c) →
      List.Shortlex (· < ·) s t → columnNumber s < columnNumber t := by
    intro s t hs ht h
    rcases List.shortlex_def.mp h with hlen | ⟨hlen, hlex⟩
    · exact columnNumber_lt_of_length (fun c hc => (hs c hc).isLetter)
        (fun c hc => (ht c hc).isLetter) hlen
    · exact columnNumber_lt_of_lex hs ht hlen hlex
  refine ⟨fun h => ?_, hlt hs ht⟩
  rcases trichotomous_of (List.Shortlex fun a b : Char => a < b) s t with hst | rfl | hts
  · exact hst
  · exact absurd h (Nat.lt_irrefl _)
  · exact absurd (hlt ht hs hts) (Nat.lt_asymm h)

theorem columnLetters_succ (n : Nat) (tail : List Char) :
    columnLetters (n + 1) tail = columnLetters (n / 26) (capital (n % 26) :: tail) := by
  rw [columnLetters]
  rfl

theorem columnNumber_columnLetters (n : Nat) (tail : List Char) :
    columnNumber (columnLetters n tail) = n * 26 ^ tail.length + columnNumber tail := by
  induction n using Nat.strongRecOn generalizing tail with
  | ind n ih =>
    cases n with
    | zero => rw [columnLetters, Nat.zero_mul, Nat.zero_add]
    | succ n =>
      rw [columnLetters_succ, ih (n / 26) (by omega), columnNumber,
        letterValue_capital (Nat.mod_lt n (by decide)), List.length_cons, Nat.pow_succ]
      have hn : n / 26 * 26 + (n % 26 + 1) = n + 1 := by omega
      calc n / 26 * (26 ^ tail.length * 26) + ((n % 26 + 1) * 26 ^ tail.length + columnNumber tail)
          = (n / 26 * 26 + (n % 26 + 1)) * 26 ^ tail.length + columnNumber tail := by ring
        _ = (n + 1) * 26 ^ tail.length + columnNumber tail := by rw [hn]

theorem mem_columnLetters {n : Nat} {tail : List Char} {c : Char} (h : c ∈ columnLetters n tail) :
    c ∈ tail ∨ IsCapital c := by
  induction n using Nat.strongRecOn generalizing tail with
  | ind n ih =>
    cases n with
    | zero =>
      rw [columnLetters] at h
      exact Or.inl h
    | succ n =>
      rw [columnLetters_succ] at h
      rcases ih (n / 26) (by omega) h with h | h
      · rcases List.mem_cons.mp h with rfl | h
        · exact Or.inr (isCapital_capital (Nat.mod_lt n (by decide)))
        · exact Or.inl h
      · exact Or.inr h

theorem columnLetters_columnNumber {s : List Char} (hs : ∀ c ∈ s, isLetter c) (tail : List Char) :
    columnLetters (columnNumber s) tail = s.map Char.toUpper ++ tail := by
  induction s using List.reverseRecOn generalizing tail with
  | nil => rw [columnNumber, columnLetters, List.map_nil, List.nil_append]
  | append_singleton s c ih =>
    have hc := hs c (List.mem_append_right _ List.mem_cons_self)
    have hpos := letterValue_pos c
    have hle := letterValue_le hc
    have hnext : columnNumber (s ++ [c]) = 26 * columnNumber s + (letterValue c - 1) + 1 := by
      rw [columnNumber_concat]
      omega
    have hdiv : (26 * columnNumber s + (letterValue c - 1)) / 26 = columnNumber s := by omega
    have hmod : (26 * columnNumber s + (letterValue c - 1)) % 26 = letterValue c - 1 := by omega
    rw [hnext, columnLetters_succ, hdiv, hmod, capital_letterValue hc,
      ih fun x hx => hs x (List.mem_append_left _ hx)]
    simp

/-- One turn of writing: the last letter of what is left goes before the letters written so far. -/
def writeTurn : Nat × List Char → Nat × List Char
  | (0, s) => (0, s)
  | (n + 1, s) => (n / 26, Char.ofNat (65 + n % 26) :: s)

theorem writeTurn_le (state : Nat × List Char) : (writeTurn state).1 ≤ state.1 := by
  match state with
  | (0, s) => exact Nat.le_refl _
  | (n + 1, s) => exact (Nat.div_le_self n 26).trans (Nat.le_succ n)

theorem iterate_writeTurn_le (turns : Nat) (state : Nat × List Char) :
    (writeTurn^[turns] state).1 ≤ state.1 := by
  induction turns with
  | zero => exact Nat.le_refl _
  | succ turns ih =>
    rw [Function.iterate_succ_apply']
    exact (writeTurn_le _).trans ih

/-- A turn does not change what is written in the end. -/
theorem columnLetters_writeTurn (state : Nat × List Char) :
    columnLetters (writeTurn state).1 (writeTurn state).2 = columnLetters state.1 state.2 := by
  match state with
  | (0, s) => rfl
  | (n + 1, s) => exact (columnLetters_succ n s).symm

theorem columnLetters_iterate (turns : Nat) (state : Nat × List Char) :
    columnLetters (writeTurn^[turns] state).1 (writeTurn^[turns] state).2 =
      columnLetters state.1 state.2 := by
  induction turns with
  | zero => rfl
  | succ turns ih => rw [Function.iterate_succ_apply', columnLetters_writeTurn, ih]

theorem length_columnLetters_le (n : Nat) (tail : List Char) :
    tail.length ≤ (columnLetters n tail).length := by
  induction n using Nat.strongRecOn generalizing tail with
  | ind n ih =>
    cases n with
    | zero => rw [columnLetters]
    | succ n =>
      rw [columnLetters_succ]
      exact (Nat.le_succ _).trans (ih (n / 26) (by omega) (capital (n % 26) :: tail))

theorem iterate_writeTurn_eq_zero_iff (turns n : Nat) (tail : List Char) :
    (writeTurn^[turns] (n, tail)).1 = 0 ↔ (columnLetters n tail).length ≤ turns + tail.length := by
  induction turns generalizing n tail with
  | zero =>
    cases n with
    | zero => simp [columnLetters]
    | succ n =>
      have hlonger := length_columnLetters_le (n / 26) (capital (n % 26) :: tail)
      rw [List.length_cons] at hlonger
      rw [columnLetters_succ, Function.iterate_zero_apply]
      omega
  | succ turns ih =>
    rw [Function.iterate_succ_apply]
    cases n with
    | zero =>
      rw [writeTurn, ih, columnLetters]
      omega
    | succ n =>
      rw [writeTurn, ih, columnLetters_succ, List.length_cons, capital]
      omega

/-- The two bounds that are checked for a letter are the bound of the value that it leads to. -/
theorem appendLetter?_eq (value : Nat) (c : Char) :
    appendLetter? value c = indexed? (26 * value + letterValue c) := by
  unfold appendLetter? indexed?
  by_cases h : 26 * value ≤ maxIndex
  · rw [if_pos h, Option.bind_some]
  · have hsum : ¬ 26 * value + letterValue c ≤ maxIndex := by omega
    rw [if_neg h, if_neg hsum, Option.bind_none]

/-- Letters are refused while they are read only if their whole value is out of bounds. -/
theorem foldlM_appendLetter? {value : Nat} (hvalue : value ≤ maxIndex) (s : List Char) :
    s.foldlM appendLetter? value = indexed? (value * 26 ^ s.length + columnNumber s) := by
  induction s generalizing value with
  | nil => simp [indexed?, columnNumber, hvalue]
  | cons c s ih =>
    have hnumber : value * 26 ^ (c :: s).length + columnNumber (c :: s) =
        (26 * value + letterValue c) * 26 ^ s.length + columnNumber s := by
      rw [columnNumber, List.length_cons, Nat.pow_succ]
      ring
    rw [List.foldlM_cons, appendLetter?_eq, hnumber]
    by_cases hnext : 26 * value + letterValue c ≤ maxIndex
    · rw [← ih hnext, indexed?, if_pos hnext]
      rfl
    · -- What comes after only adds to a value that is out of bounds already.
      have hle : 26 * value + letterValue c ≤ (26 * value + letterValue c) * 26 ^ s.length :=
        Nat.le_mul_of_pos_right _ (Nat.pow_pos (by decide))
      have hall : ¬ (26 * value + letterValue c) * 26 ^ s.length + columnNumber s ≤ maxIndex := by
        omega
      rw [indexed?, if_neg hnext, indexed?, if_neg hall]
      rfl

theorem foldlM_appendLetter?_zero (s : List Char) :
    s.foldlM appendLetter? 0 = indexed? (columnNumber s) := by
  rw [foldlM_appendLetter? (Nat.zero_le _), Nat.zero_mul, Nat.zero_add]

theorem columnOfLetters?_eq_some_iff {s : List Char} {n : Nat} :
    columnOfLetters? s = some n ↔ s ≠ [] ∧ (∀ c ∈ s, isLetter c) ∧
      columnNumber s ≤ maxIndex ∧ columnNumber s = n + 1 := by
  unfold columnOfLetters?
  by_cases hs : s = []
  · simp [hs]
  by_cases hletters : ∀ c ∈ s, isLetter c
  · have hgate : ¬ (s.isEmpty || !s.all isLetter) = true := by simpa [hs] using hletters
    have hpos := columnNumber_pos hs
    rw [if_neg hgate, foldlM_appendLetter?_zero]
    by_cases hbound : columnNumber s ≤ maxIndex
    · simp only [indexed?, if_pos hbound, Option.map_some, Option.some.injEq]
      constructor
      · exact fun h => ⟨hs, hletters, hbound, by omega⟩
      · exact fun h => by omega
    · simp [indexed?, hbound]
  · have hgate : (s.isEmpty || !s.all isLetter) = true := by simpa [hs] using hletters
    rw [if_pos hgate]
    simp [hletters]

theorem columnName_toList (n : Nat) : (columnName n).toList = columnLetters (n + 1) [] := by
  rw [columnName, String.toList_ofList]

theorem isCapital_of_mem_columnName {n : Nat} {c : Char} (h : c ∈ (columnName n).toList) :
    IsCapital c := by
  rw [columnName_toList] at h
  exact (mem_columnLetters h).resolve_left List.not_mem_nil

theorem columnNumber_columnName (n : Nat) : columnNumber (columnName n).toList = n + 1 := by
  rw [columnName_toList, columnNumber_columnLetters]
  simp [columnNumber]

theorem columnName_ne_nil (n : Nat) : (columnName n).toList ≠ [] := by
  intro h
  have hnumber := columnNumber_columnName n
  rw [h] at hnumber
  cases hnumber

theorem columnOfLetters?_columnName {n : Nat} (hn : n < maxIndex) :
    columnOfLetters? (columnName n).toList = some n := by
  rw [columnOfLetters?_eq_some_iff, columnNumber_columnName]
  exact ⟨columnName_ne_nil n, fun c hc => (isCapital_of_mem_columnName hc).isLetter, hn, rfl⟩

theorem length_columnName_le {n : Nat} (hn : n < maxIndex) : (columnName n).toList.length ≤ 14 := by
  by_contra hlong
  have hletters : ∀ c ∈ (columnName n).toList, isLetter c :=
    fun c hc => (isCapital_of_mem_columnName hc).isLetter
  have hpow : 26 ^ 15 ≤ 26 ^ (columnName n).toList.length :=
    Nat.pow_le_pow_right (by decide) (Nat.not_le.mp hlong)
  have hvalue := (columnNumber_bounds hletters).1
  rw [columnNumber_columnName] at hvalue
  have hmax : maxIndex = 2 ^ 64 - 1 := rfl
  omega

/-- The letters of a column are written turn by turn and are read as that column. -/
structure ColumnWritten (n : Nat) : Prop where
  ends : ∀ turns, (writeTurn^[turns] (n + 1, [])).1 = 0 ↔ (columnName n).toList.length ≤ turns
  letters : writeTurn^[(columnName n).toList.length] (n + 1, []) = (0, (columnName n).toList)
  within : ∀ turns, (writeTurn^[turns] (n + 1, [])).1 ≤ maxIndex
  short : (columnName n).toList.length ≤ 14
  read : columnOfLetters? (columnName n).toList = some n

/-- Letters are read as the column of their value, and nothing else is read as a column. What is
known after a part of the letters is the value of that part, or that it is out of bounds. -/
structure LettersRead (s : List Char) : Prop where
  accepted : ∀ n, columnOfLetters? s = some n ↔ s ≠ [] ∧ (∀ c ∈ s, isLetter c) ∧
    columnNumber s ≤ maxIndex ∧ n = columnNumber s - 1
  refused : columnOfLetters? s = none ↔
    s = [] ∨ (∃ c ∈ s, ¬ isLetter c) ∨ maxIndex < columnNumber s
  respelled : ∀ n, columnOfLetters? s = some n → (columnName n).toList = s.map Char.toUpper
  checked : ∀ read, read <+: s → read.foldlM appendLetter? 0 =
    if columnNumber read ≤ maxIndex then some (columnNumber read) else none
  valued : ∀ c ∈ s, isLetter c → 65 ≤ c.toUpper.toNat ∧ letterValue c ≤ 26
  counted : s ≠ [] → 1 ≤ columnNumber s

theorem columnWritten {n : Nat} (hn : n < maxIndex) : ColumnWritten n := by
  have hends : ∀ turns, (writeTurn^[turns] (n + 1, [])).1 = 0 ↔
      (columnName n).toList.length ≤ turns := by
    intro turns
    rw [iterate_writeTurn_eq_zero_iff, columnName_toList]
    exact Iff.rfl
  constructor
  · exact hends
  · -- Once nothing is left, what is written in the end is what has been written so far.
    have hleft := (hends _).mpr (Nat.le_refl _)
    have hsame := columnLetters_iterate (columnName n).toList.length (n + 1, [])
    rw [hleft, columnLetters, ← columnName_toList] at hsame
    exact Prod.ext hleft hsame
  · exact fun turns => (iterate_writeTurn_le turns (n + 1, [])).trans hn
  · exact length_columnName_le hn
  · exact columnOfLetters?_columnName hn

theorem lettersRead (s : List Char) : LettersRead s := by
  constructor
  · intro n
    rw [columnOfLetters?_eq_some_iff]
    constructor
    · rintro ⟨hs, hletters, hbound, hn⟩
      exact ⟨hs, hletters, hbound, by omega⟩
    · rintro ⟨hs, hletters, hbound, hn⟩
      have hpos := columnNumber_pos hs
      exact ⟨hs, hletters, hbound, by omega⟩
  · rw [← Option.not_isSome_iff_eq_none, Option.isSome_iff_exists]
    simp only [columnOfLetters?_eq_some_iff]
    constructor
    · intro h
      by_contra hrefused
      push Not at hrefused
      obtain ⟨hs, hletters, hbound⟩ := hrefused
      have hpos := columnNumber_pos hs
      exact h ⟨columnNumber s - 1, hs, hletters, hbound, by omega⟩
    · rintro h ⟨n, hs, hletters, hbound, _⟩
      rcases h with hnil | ⟨c, hc, hletter⟩ | hlarge
      · exact hs hnil
      · exact hletter (hletters c hc)
      · exact Nat.not_lt.mpr hbound hlarge
  · intro n hn
    obtain ⟨_, hletters, _, hnumber⟩ := columnOfLetters?_eq_some_iff.mp hn
    rw [columnName_toList, ← hnumber, columnLetters_columnNumber hletters, List.append_nil]
  · intro read _
    rw [foldlM_appendLetter?_zero, indexed?]
  · intro c _ hletter
    exact ⟨(isCapital_iff.mp (isCapital_toUpper hletter)).1, letterValue_le hletter⟩
  · exact columnNumber_pos

/-- Columns and their letters correspond, in the same order. -/
theorem columnNames_correspond :
    (∀ n, n < maxIndex → ColumnWritten n) ∧ (∀ s, LettersRead s) ∧
      ∀ m n, m < n ↔ List.Shortlex (· < ·) (columnName m).toList (columnName n).toList := by
  refine ⟨fun n hn => columnWritten hn, lettersRead, fun m n => ?_⟩
  rw [← columnNumber_lt_iff (fun c => isCapital_of_mem_columnName)
    (fun c => isCapital_of_mem_columnName), columnNumber_columnName, columnNumber_columnName]
  exact Nat.succ_lt_succ_iff.symm

/-- The last column, and the letters that would come next. -/
example : columnOfLetters? "gkgwbylwrxtlpo".toList = some (maxIndex - 1) ∧
    columnOfLetters? "gkgwbylwrxtlpp".toList = none := by
  decide

end SheetTables
