import Mathlib.Data.List.TakeWhile
import SheetTables.Proofs.Grid.Columns
import SheetTables.Proofs.Grid.LogicalCells

/-! # Texts of ranges

A range is spelled by its corners, and a corner by the letters of its column and the digits of its
row. What is read from a text is what is spelled there between blanks, in capitals or not, as long
as its corners come before the greatest index. The text of a range spells that range and no other,
so it is read back, and different cells of a sheet have different references.
-/

namespace SheetTables

section Stretches

variable {α : Type} {p : α → Bool} {s rest : List α}

theorem takeWhile_append_stop (hs : ∀ a ∈ s, p a) (hrest : ∀ a ∈ rest.head?, ¬ p a) :
    (s ++ rest).takeWhile p = s := by
  rw [List.takeWhile_append_of_pos hs]
  cases rest with
  | nil => exact List.append_nil s
  | cons a rest => rw [List.takeWhile_cons_of_neg (hrest a rfl), List.append_nil]

theorem dropWhile_append_stop (hs : ∀ a ∈ s, p a) (hrest : ∀ a ∈ rest.head?, ¬ p a) :
    (s ++ rest).dropWhile p = rest := by
  rw [List.dropWhile_append_of_pos hs]
  cases rest with
  | nil => rfl
  | cons a rest => exact List.dropWhile_cons_of_neg (hrest a rfl)

theorem not_of_mem_head?_dropWhile {a : α} (h : a ∈ (s.dropWhile p).head?) : ¬ p a := by
  have hstop := List.head?_dropWhile_not p s
  rw [Option.mem_def.mp h] at hstop
  simp [hstop]

end Stretches

theorem isDigit_iff {c : Char} : c.isDigit ↔ 48 ≤ c.toNat ∧ c.toNat ≤ 57 := by
  simp [Char.isDigit, UInt32.le_iff_toNat_le]

theorem not_isBlank_of_toUpper {c : Char} (h : IsCapital c.toUpper ∨ c.toUpper.isDigit) :
    ¬ isBlank c := by
  have hc := toNat_toUpper c
  rw [isCapital_iff, isDigit_iff] at h
  simp only [isBlank, Bool.or_eq_true, Bool.and_eq_true, decide_eq_true_eq, beq_iff_eq]
  split at hc <;> omega

theorem trimmed_eq {before text after : List Char} (hbefore : ∀ c ∈ before, isBlank c)
    (hafter : ∀ c ∈ after, isBlank c) (hfirst : ∃ c ∈ text.head?, ¬ isBlank c)
    (hlast : ∃ c ∈ text.getLast?, ¬ isBlank c) :
    trimRight (trimLeft (before ++ text ++ after)) = text := by
  obtain ⟨c, hc, hcblank⟩ := hfirst
  obtain ⟨k, hk, hkblank⟩ := hlast
  have hleft : ∀ a ∈ (text ++ after).head?, ¬ isBlank a := by
    intro a ha
    obtain rfl := Option.mem_unique ha (List.mem_head?_append_of_mem_head? hc)
    exact hcblank
  have hright : ∀ a ∈ text.reverse.head?, ¬ isBlank a := by
    intro a ha
    rw [List.head?_reverse] at ha
    obtain rfl := Option.mem_unique ha hk
    exact hkblank
  have hafter' : ∀ a ∈ after.reverse, isBlank a := fun a ha => hafter a (List.mem_reverse.mp ha)
  rw [trimLeft, List.append_assoc, dropWhile_append_stop hbefore hleft, trimRight,
    List.reverse_append, dropWhile_append_stop hafter' hright, List.reverse_reverse]

theorem exists_trimmed (s : List Char) : ∃ before after,
    s = before ++ trimRight (trimLeft s) ++ after ∧ (∀ c ∈ before, isBlank c) ∧
      ∀ c ∈ after, isBlank c := by
  refine ⟨s.takeWhile isBlank, ((trimLeft s).reverse.takeWhile isBlank).reverse, ?_, ?_, ?_⟩
  · rw [trimRight, List.append_assoc, ← List.reverse_append, List.takeWhile_append_dropWhile,
      List.reverse_reverse, trimLeft, List.takeWhile_append_dropWhile]
  · exact fun c hc => List.mem_takeWhile_imp hc
  · exact fun c hc => List.mem_takeWhile_imp (List.mem_reverse.mp hc)

theorem isCapital_of_isLetter_toUpper {c : Char} (h : isLetter c.toUpper) :
    IsCapital c.toUpper := by
  have hc := toNat_toUpper c
  rw [isLetter_iff, isCapital_iff] at h
  rw [isCapital_iff]
  split at hc <;> omega

theorem not_isLetter_of_isDigit {c : Char} (h : c.isDigit) : ¬ isLetter c := by
  rw [isDigit_iff] at h
  rw [isLetter_iff, isCapital_iff]
  omega

theorem sizeOfText?_digits {digits : List Char} (hd : ∀ c ∈ digits, c.isDigit) :
    sizeOfText? (String.ofList digits) = (natOfDigits? digits).filter (· < Nat.pow 2 64) := by
  unfold sizeOfText?
  rw [String.toList_ofList]
  split
  · exact absurd (hd '+' List.mem_cons_self) (by decide)
  · rfl

theorem sizeOfText?_eq_some_iff {digits : List Char} (hd : ∀ c ∈ digits, c.isDigit) {n : Nat} :
    sizeOfText? (String.ofList digits) = some n ↔
      digits ≠ [] ∧ Nat.ofDigitChars 10 digits 0 = n ∧ n ≤ maxIndex := by
  have hbound : n < Nat.pow 2 64 ↔ n ≤ maxIndex := Nat.lt_iff_le_pred (by decide)
  rw [sizeOfText?_digits hd, Option.filter_eq_some_iff, decide_eq_true_eq, hbound, natOfDigits?]
  by_cases hnil : digits = []
  · simp [hnil]
  · have hall : ¬ (digits.isEmpty || !digits.all Char.isDigit) = true := by simpa [hnil] using hd
    rw [if_neg hall, Option.some.injEq, and_iff_right hnil]
    exact Iff.rfl

theorem rowOfNumber?_eq_some_iff {digits : List Char} (hd : ∀ c ∈ digits, c.isDigit) {row : Nat} :
    rowOfNumber? (String.ofList digits) = some row ↔
      digits ≠ [] ∧ Nat.ofDigitChars 10 digits 0 = row + 1 ∧ row < maxIndex := by
  have hsize : sizeOfText? (String.ofList digits) = some (row + 1) ↔ _ := sizeOfText?_eq_some_iff hd
  rw [← Nat.succ_le_iff, ← Nat.succ_eq_add_one, ← hsize]
  unfold rowOfNumber?
  split
  · next n hn => rw [hn, Option.some.injEq, Option.some.injEq, Nat.succ_inj]
  · next hn =>
    constructor
    · exact fun h => by cases h
    · exact fun h => absurd h (hn row)

/-- A position is referred to by the letters of its column and the digits of its row, both counted
from one. -/
inductive Refers : List Char → Nat → Nat → Prop
  | mk {letters digits : List Char} {row col : Nat} (lettered : letters ≠ [])
    (capitals : ∀ c ∈ letters, IsCapital c) (column : columnNumber letters = col + 1)
    (numbered : digits ≠ []) (decimal : ∀ c ∈ digits, c.isDigit)
    (line : Nat.ofDigitChars 10 digits 0 = row + 1) : Refers (letters ++ digits) row col

namespace Refers

variable {s : List Char} {row col row' col' : Nat}

theorem mem (h : Refers s row col) {c : Char} (hc : c ∈ s) : IsCapital c ∨ c.isDigit := by
  obtain ⟨_, hcapitals, _, _, hdecimal, _⟩ := h
  exact (List.mem_append.mp hc).imp (hcapitals c) (hdecimal c)

theorem colon_not_mem (h : Refers s row col) : ':' ∉ s := by
  intro hc
  have hcolon := h.mem hc
  rw [isCapital_iff, isDigit_iff] at hcolon
  simp at hcolon

theorem head (h : Refers s row col) : ∃ c ∈ s.head?, IsCapital c := by
  obtain ⟨hlettered, hcapitals, _, _, _, _⟩ := h
  obtain ⟨c, letters, rfl⟩ := List.exists_cons_of_ne_nil hlettered
  exact ⟨c, rfl, hcapitals c List.mem_cons_self⟩

theorem last (h : Refers s row col) : ∃ c ∈ s.getLast?, c.isDigit := by
  obtain ⟨_, _, _, hnumbered, hdecimal, _⟩ := h
  refine ⟨_, ?_, hdecimal _ (List.getLast_mem hnumbered)⟩
  rw [List.getLast?_append_of_ne_nil _ hnumbered]
  exact List.getLast?_eq_some_getLast hnumbered

theorem parted (h : Refers s row col) : columnNumber (s.takeWhile isLetter) = col + 1 ∧
    Nat.ofDigitChars 10 (s.dropWhile isLetter) 0 = row + 1 := by
  obtain ⟨_, hcapitals, hcolumn, _, hdecimal, hline⟩ := h
  have hletters := fun c hc => (hcapitals c hc).isLetter
  have hstop := fun c hc => not_isLetter_of_isDigit (hdecimal c (List.mem_of_mem_head? hc))
  rw [takeWhile_append_stop hletters hstop, dropWhile_append_stop hletters hstop]
  exact ⟨hcolumn, hline⟩

theorem unique (h : Refers s row col) (h' : Refers s row' col') : row = row' ∧ col = col' := by
  obtain ⟨hcolumn, hline⟩ := h.parted
  obtain ⟨hcolumn', hline'⟩ := h'.parted
  omega

end Refers

theorem refers_positionName (row col : Nat) : Refers (positionName row col).toList row col := by
  have htext : (positionName row col).toList =
      (columnName col).toList ++ Nat.toDigits 10 (row + 1) := by
    rw [positionName, String.toList_append, Nat.toString_eq_repr, Nat.toList_repr]
  rw [htext]
  exact .mk (columnName_ne_nil col) (fun c => isCapital_of_mem_columnName)
    (columnNumber_columnName col) Nat.toDigits_ne_nil
    (fun c => Nat.isDigit_of_mem_toDigits (by decide) (by decide)) Nat.ofDigitChars_ten_toDigits

namespace Range

/-- A corner is read where a position within bounds is referred to, up to the end of its digits. -/
theorem corner?_eq_some_iff {s rest : List Char} (hs : ∀ c ∈ s, isLetter c → IsCapital c)
    {row col : Nat} : corner? s = some ((row, col), rest) ↔
      ∃ word, s = word ++ rest ∧ Refers word row col ∧ row < maxIndex ∧ col < maxIndex ∧
        ∀ c ∈ rest.head?, ¬ c.isDigit := by
  constructor
  · intro h
    unfold corner? at h
    dsimp only at h
    split at h
    · next col' row' hcol hrow =>
      obtain ⟨⟨rfl, rfl⟩, rfl⟩ : (row' = row ∧ col' = col) ∧ _ = rest := by simpa using h
      have hdecimal : ∀ c ∈ (s.dropWhile isLetter).takeWhile Char.isDigit, c.isDigit :=
        fun c hc => List.mem_takeWhile_imp hc
      obtain ⟨hlettered, hletters, hcolmax, hcolumn⟩ := columnOfLetters?_eq_some_iff.mp hcol
      obtain ⟨hnumbered, hline, hrowmax⟩ := (rowOfNumber?_eq_some_iff hdecimal).mp hrow
      have hcapitals : ∀ c ∈ s.takeWhile isLetter, IsCapital c :=
        fun c hc => hs c ((List.takeWhile_prefix isLetter).subset hc) (hletters c hc)
      refine ⟨_, ?_, .mk hlettered hcapitals hcolumn hnumbered hdecimal hline, hrowmax, ?_, ?_⟩
      · rw [List.append_assoc, List.takeWhile_append_dropWhile, List.takeWhile_append_dropWhile]
      · omega
      · exact fun c => not_of_mem_head?_dropWhile
    · cases h
  · rintro ⟨_, rfl, @⟨letters, digits, _, _, hlettered, hcapitals, hcolumn, hnumbered, hdecimal,
      hline⟩, hrow, hcol, hstop⟩
    have hletters := fun c hc => (hcapitals c hc).isLetter
    have hdigits : ∀ c ∈ (digits ++ rest).head?, ¬ isLetter c := by
      intro c hc
      rw [List.head?_append_of_ne_nil _ hnumbered] at hc
      exact not_isLetter_of_isDigit (hdecimal c (List.mem_of_mem_head? hc))
    have hcolumn? := columnOfLetters?_eq_some_iff.mpr ⟨hlettered, hletters, hcolumn ▸ hcol, hcolumn⟩
    have hrow? := (rowOfNumber?_eq_some_iff hdecimal).mpr ⟨hnumbered, hline, hrow⟩
    unfold corner?
    dsimp only
    rw [List.append_assoc, takeWhile_append_stop hletters hdigits,
      dropWhile_append_stop hletters hdigits, takeWhile_append_stop hdecimal hstop,
      dropWhile_append_stop hdecimal hstop, hcolumn?, hrow?]

/-- A range is spelled by one corner, or by two with a colon between them. -/
inductive Spells : List Char → Range → Prop
  | one {s : List Char} {row col : Nat} (corner : Refers s row col) : Spells s (.single row col)
  | two {s t : List Char} {rowA colA rowB colB : Nat} (first : Refers s rowA colA)
    (second : Refers t rowB colB) : Spells (s ++ ':' :: t) (.ofCorners rowA colA rowB colB)

namespace Spells

variable {s : List Char} {r t : Range}

theorem head (h : Spells s r) : ∃ c ∈ s.head?, IsCapital c := by
  cases h with
  | one corner => exact corner.head
  | two first second =>
    obtain ⟨c, hc, hcapital⟩ := first.head
    exact ⟨c, List.mem_head?_append_of_mem_head? hc, hcapital⟩

theorem last (h : Spells s r) : ∃ c ∈ s.getLast?, c.isDigit := by
  cases h with
  | one corner => exact corner.last
  | two first second =>
    obtain ⟨c, hc, hdigit⟩ := second.last
    refine ⟨c, ?_, hdigit⟩
    rw [List.getLast?_append_of_ne_nil _ (List.cons_ne_nil _ _)]
    exact List.mem_getLast?_cons hc

theorem mem (h : Spells s r) {c : Char} (hc : c ∈ s) : IsCapital c ∨ c.isDigit ∨ c = ':' := by
  cases h with
  | one corner => exact (corner.mem hc).imp_right Or.inl
  | two first second =>
    rcases List.mem_append.mp hc with hc | hc
    · exact (first.mem hc).imp_right Or.inl
    · rcases List.mem_cons.mp hc with rfl | hc
      · exact Or.inr (Or.inr rfl)
      · exact (second.mem hc).imp_right Or.inl

theorem unique (h : Spells s r) (h' : Spells s t) : r = t := by
  cases h with
  | one corner =>
    cases h' with
    | one corner' =>
      obtain ⟨rfl, rfl⟩ := corner.unique corner'
      rfl
    | two first' second' =>
      exact absurd (List.mem_append_right _ List.mem_cons_self) corner.colon_not_mem
  | two first second =>
    generalize htext : _ ++ ':' :: _ = text at h'
    cases h' with
    | one corner' =>
      subst htext
      exact absurd (List.mem_append_right _ List.mem_cons_self) corner'.colon_not_mem
    | two first' second' =>
      -- Both texts are parted at their only colon.
      obtain ⟨rfl, _, rfl⟩ := (List.append_cons_inj_of_notMem first'.colon_not_mem
        second'.colon_not_mem).mp htext.symm
      obtain ⟨rfl, rfl⟩ := first.unique first'
      obtain ⟨rfl, rfl⟩ := second.unique second'
      rfl

theorem map_toUpper (h : Spells s r) : s.map Char.toUpper = s := by
  have hsame : ∀ c ∈ s, c.toUpper = id c := by
    intro c hc
    rcases h.mem hc with hcapital | hdigit | rfl
    · exact hcapital.toUpper
    · rw [isDigit_iff] at hdigit
      rw [id, ← Char.toNat_inj, toNat_toUpper, if_neg (by omega)]
    · rfl
  rw [List.map_congr_left hsame, List.map_id]

end Spells

theorem spells_toText (r : Range) : Spells r.toText.toList r := by
  have hr := r.top_le_bottom
  have hc := r.left_le_right
  unfold toText
  split
  · next hsingle =>
    have hone : r = .single r.top r.left := by
      obtain ⟨top, left, bottom, right, _, _⟩ := r
      obtain ⟨rfl, rfl⟩ : top = bottom ∧ left = right := by simpa [isSingle] using hsingle
      rfl
    rw [hone]
    exact .one (refers_positionName r.top r.left)
  · have htwo : r = .ofCorners r.top r.left r.bottom r.right := by
      simp only [ofCorners, Nat.min_eq_left hr, Nat.max_eq_right hr, Nat.min_eq_left hc,
        Nat.max_eq_right hc]
    have htext : (positionName r.top r.left ++ ":" ++ positionName r.bottom r.right).toList =
        (positionName r.top r.left).toList ++ ':' :: (positionName r.bottom r.right).toList := by
      simp
    rw [htext]
    conv_rhs => rw [htwo]
    exact .two (refers_positionName r.top r.left) (refers_positionName r.bottom r.right)

theorem toText_injective {r t : Range} (h : r.toText = t.toText) : r = t :=
  (h ▸ spells_toText r).unique (spells_toText t)

theorem ofChars?_eq_some_iff {s : List Char} (hs : ∀ c ∈ s, isLetter c → IsCapital c)
    {r : Range} : ofChars? s = some r ↔ Spells s r ∧ r.bottom < maxIndex ∧ r.right < maxIndex := by
  constructor
  · intro h
    unfold ofChars? at h
    split at h
    · next row col hcorner =>
      obtain ⟨word, rfl, hword, hrow, hcol, _⟩ := (corner?_eq_some_iff hs).mp hcorner
      obtain rfl := Option.some.inj h
      rw [List.append_nil]
      exact ⟨.one hword, hrow, hcol⟩
    · next rowA colA rest hcorner =>
      obtain ⟨word, rfl, hword, hrow, hcol, _⟩ := (corner?_eq_some_iff hs).mp hcorner
      have hrest : ∀ c ∈ rest, isLetter c → IsCapital c := fun c hc =>
        hs c (List.mem_append_right _ (List.mem_cons_of_mem _ hc))
      split at h
      · next rowB colB hcorner' =>
        obtain ⟨word', rfl, hword', hrow', hcol', _⟩ := (corner?_eq_some_iff hrest).mp hcorner'
        obtain rfl := Option.some.inj h
        rw [List.append_nil]
        exact ⟨.two hword hword', Nat.max_lt.mpr ⟨hrow, hrow'⟩, Nat.max_lt.mpr ⟨hcol, hcol'⟩⟩
      · cases h
    · cases h
  · rintro ⟨hspells, hbottom, hright⟩
    cases hspells with
    | one corner =>
      have hcorner := (corner?_eq_some_iff hs).mpr
        ⟨s, (List.append_nil s).symm, corner, hbottom, hright, by simp⟩
      rw [ofChars?, hcorner]
    | @two s t rowA colA rowB colB first second =>
      obtain ⟨hrow, hrow'⟩ := Nat.max_lt.mp hbottom
      obtain ⟨hcol, hcol'⟩ := Nat.max_lt.mp hright
      have ht : ∀ c ∈ t, isLetter c → IsCapital c := fun c hc =>
        hs c (List.mem_append_right _ (List.mem_cons_of_mem _ hc))
      have hcorner : corner? (s ++ ':' :: t) = some ((rowA, colA), ':' :: t) :=
        (corner?_eq_some_iff hs).mpr ⟨s, rfl, first, hrow, hcol, by simp⟩
      have hcorner' : corner? t = some ((rowB, colB), []) :=
        (corner?_eq_some_iff ht).mpr
          ⟨t, (List.append_nil t).symm, second, hrow', hcol', by simp⟩
      simp only [ofChars?, hcorner, hcorner']

/-- A range is spelled in a text, in capitals or not, with nothing but blanks around it. -/
def Spelled (s : String) (r : Range) : Prop :=
  ∃ before text after, s.toList = before ++ text ++ after ∧ (∀ c ∈ before, isBlank c) ∧
    (∀ c ∈ after, isBlank c) ∧ Spells (text.map Char.toUpper) r

theorem normalText_toList (s : String) :
    (normalText s).toList = (trimRight (trimLeft s.toList)).map Char.toUpper := by
  rw [normalText, String.toUpper, String.toList_map, trim, String.toList_ofList]

theorem ofText?_eq_some_iff {s : String} {r : Range} :
    ofText? s = some r ↔ Spelled s r ∧ r.bottom < maxIndex ∧ r.right < maxIndex := by
  have hs : ∀ c ∈ (normalText s).toList, isLetter c → IsCapital c := by
    intro c hc
    rw [normalText_toList] at hc
    obtain ⟨d, _, rfl⟩ := List.mem_map.mp hc
    exact isCapital_of_isLetter_toUpper
  have hspelled : Spelled s r ↔ Spells (normalText s).toList r := by
    rw [normalText_toList]
    constructor
    · rintro ⟨before, text, after, hparts, hbefore, hafter, hspells⟩
      obtain ⟨_, hhead, hcapital⟩ := hspells.head
      obtain ⟨_, hend, hdigit⟩ := hspells.last
      rw [List.head?_map] at hhead
      rw [List.getLast?_map] at hend
      obtain ⟨c, hc, rfl⟩ := Option.mem_map.mp hhead
      obtain ⟨k, hk, rfl⟩ := Option.mem_map.mp hend
      have hfirst := not_isBlank_of_toUpper (Or.inl hcapital)
      have hlast := not_isBlank_of_toUpper (Or.inr hdigit)
      rw [hparts, trimmed_eq hbefore hafter ⟨c, hc, hfirst⟩ ⟨k, hk, hlast⟩]
      exact hspells
    · intro h
      obtain ⟨before, after, hparts, hbefore, hafter⟩ := exists_trimmed s.toList
      exact ⟨before, _, after, hparts, hbefore, hafter, h⟩
  rw [ofText?, ofChars?_eq_some_iff hs, hspelled]

theorem spelled_toText (r : Range) : Spelled r.toText r := by
  refine ⟨[], r.toText.toList, [], by simp, by simp, by simp, ?_⟩
  rw [(spells_toText r).map_toUpper]
  exact spells_toText r

end Range

/-- Ranges are read from the texts that spell them within bounds, and from their own texts. Neither
two ranges nor two cells of a sheet have the same text. -/
theorem ranges_spelled :
    (∀ s r, Range.ofText? s = some r ↔
      Range.Spelled s r ∧ r.bottom < maxIndex ∧ r.right < maxIndex) ∧
    (∀ r : Range, r.bottom < maxIndex → r.right < maxIndex → Range.ofText? r.toText = some r) ∧
    (∀ r t : Range, r.toText = t.toText → r = t) ∧
    ∀ (g : Grid) (row col row' col' : Nat),
      (g.cellAt row col).reference = (g.cellAt row' col').reference →
        g.cellAt row col == g.cellAt row' col' := by
  refine ⟨fun s r => Range.ofText?_eq_some_iff, fun r hbottom hright => ?_,
    fun r t => Range.toText_injective, fun g row col row' col' h => ?_⟩
  · exact Range.ofText?_eq_some_iff.mpr ⟨Range.spelled_toText r, hbottom, hright⟩
  · exact ((g.holds_cellAt row col).beq_iff (g.holds_cellAt row' col')).mpr
      (Range.toText_injective h)

/-- Neither blanks around nor small letters matter, nor the order of the corners or a zero before a
row. -/
example : Range.ofText? "\t c5:a01 " = some (.ofCorners 0 0 4 2) := by
  decide +kernel

end SheetTables
