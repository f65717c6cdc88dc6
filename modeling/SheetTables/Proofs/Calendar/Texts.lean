import SheetTables.Grid.Value
import SheetTables.Proofs.Calendar.Gregorian

/-! # Texts of timestamps

The text of a timestamp is in one of the layouts in which timestamps are read: there is no `T` in
it, and the numbers in it are read back as they were written. So reading gives the timestamp back
but for the fraction of its second, which is not written.
-/

namespace SheetTables
namespace Timestamp

open Calendar

/-- A timestamp without the fraction of its second. -/
def wholeSeconds (t : Timestamp) : Timestamp where
  year := t.year
  month := t.month
  day := t.day
  hour := t.hour
  minute := t.minute
  second := t.second
  nanosecond := t.nanosecond / 1000000000 * 1000000000
  isDate := t.isDate
  isClock := by
    obtain ⟨hhour, hminute, hsecond, hnano⟩ := t.isClock
    refine ⟨hhour, hminute, hsecond, ?_⟩
    omega

theorem wholeSeconds_eq_iff (t : Timestamp) :
    t.wholeSeconds = t ↔ t.nanosecond % 1000000000 = 0 := by
  obtain ⟨year, month, day, hour, minute, second, nanosecond, _, _⟩ := t
  simp only [wholeSeconds, mk.injEq, true_and]
  omega

theorem of?_self (t : Timestamp) :
    of? t.year t.month t.day t.hour t.minute t.second t.nanosecond = some t := by
  rw [of?, dif_pos t.isDate, dif_pos t.isClock]

def draft (t : Timestamp) : Draft :=
  ((((({ year := some t.year : Draft }.put .month t.month).put .day t.day).put .hour t.hour).put
    .minute t.minute).put .second (t.second + t.nanosecond / 1000000000))

theorem timestamp?_draft (t : Timestamp) : t.draft.timestamp? = some t.wholeSeconds := by
  obtain ⟨_, _, hsecond, hnano⟩ := t.isClock
  have hself := t.wholeSeconds.of?_self
  have hday : t.draft.day? = some ⟨t.year, t.month, t.day, t.isDate⟩ := by
    simp [draft, Draft.day?, Draft.put, t.isDate]
  rw [Draft.timestamp?, hday]
  simp only [draft, Draft.put, wholeSeconds, if_pos, reduceCtorEq, if_false, Option.getD_some,
    Option.getD_none] at hself ⊢
  split
  · next hleap =>
    have h59 : t.second = 59 := by omega
    have hone : t.nanosecond / 1000000000 = 1 := by omega
    rw [← hself, h59, hone]
  · next hplain =>
    have hzero : t.nanosecond / 1000000000 = 0 := by omega
    rw [← hself, hzero, Nat.add_zero, Nat.zero_mul]

def dash : Part := .mark '-' rfl

def colon : Part := .mark ':' rfl

def dateParts : List Part := [.year, dash, .slot .month, dash, .slot .day]

def clockParts : List Part := [.slot .hour, colon, .slot .minute, colon, .slot .second]

def chars (t : Timestamp) : List Char :=
  (yearText t.year).toList ++ '-' :: ((padded 2 t.month).toList ++ '-' ::
    ((padded 2 t.day).toList ++ ' ' :: ((padded 2 t.hour).toList ++ ':' ::
    ((padded 2 t.minute).toList ++ ':' ::
    ((padded 2 (t.second + t.nanosecond / 1000000000)).toList ++ [])))))

theorem toList_toText [Calendar] (h : Documented) (t : Timestamp) : t.toText.toList = t.chars := by
  have hlayout : spell (dateParts ++ .blanks :: clockParts) = "%Y-%m-%d %H:%M:%S" := rfl
  rw [toText, ← hlayout, h.toList_format]
  simp [chars, dateParts, clockParts, dash, colon, Part.text, Slot.number]

theorem daysInMonth_le (year : Int) (month : Nat) : daysInMonth year month ≤ 31 := by
  unfold daysInMonth
  split
  · split <;> omega
  all_goals omega

theorem clock_second_le (t : Timestamp) : t.second + t.nanosecond / 1000000000 ≤ 60 := by
  obtain ⟨_, _, hsecond, hnano⟩ := t.isClock
  omega

theorem trimLeft_padded (n : Nat) (rest : List Char) :
    trimLeft ((padded 2 n).toList ++ rest) = (padded 2 n).toList ++ rest := by
  obtain ⟨c, s, hs⟩ := List.exists_cons_of_ne_nil (padded_ne_nil 2 n)
  rw [hs]
  exact trimLeft_cons (not_isBlank_of_isDigit (isDigit_of_mem_padded (hs ▸ List.mem_cons_self))) _

theorem fits_chars (t : Timestamp) :
    Fits (dateParts ++ .blanks :: (clockParts ++ [.fraction])) {} t.chars t.draft := by
  obtain ⟨_, _, _, hmonth, _, hday⟩ := t.isDate
  obtain ⟨hhour, hminute, _, _⟩ := t.isClock
  have hdays := daysInMonth_le t.year t.month
  have hsecond := t.clock_second_le
  refine fits_year rfl (fun c hc => by obtain rfl := Option.some.inj hc; decide) (.mark ?_)
  refine fits_slot rfl (by omega) (.mark (fits_slot rfl (by omega) (.blanks ?_)))
  rw [trimLeft, List.dropWhile_cons_of_pos (by decide), ← trimLeft, trimLeft_padded]
  exact fits_slot rfl (by omega) <| .mark <| fits_slot rfl (by omega) <| .mark <|
    fits_slot rfl (by omega) <| .fraction (Option.not_mem_none _) .nil

theorem mem_yearText {year : Int} {c : Char} (h : c ∈ (yearText year).toList) :
    c.isDigit ∨ c = '-' ∨ c = '+' := by
  unfold yearText at h
  dsimp only at h
  split at h
  · rw [String.toList_append, List.mem_append] at h
    exact h.elim (fun h => Or.inr (Or.inl (List.mem_singleton.mp h)))
      fun h => Or.inl (isDigit_of_mem_padded h)
  · split at h
    · rw [String.toList_append, List.mem_append] at h
      exact h.elim (fun h => Or.inr (Or.inr (List.mem_singleton.mp h)))
        fun h => Or.inl (isDigit_of_mem_padded h)
    · exact Or.inl (isDigit_of_mem_padded h)

/-- No letter stands in the text of a timestamp. -/
theorem mem_chars {t : Timestamp} {c : Char} (h : c ∈ t.chars) :
    c.isDigit ∨ c ∈ ['-', '+', ' ', ':'] := by
  have hpadded : ∀ {n}, c ∈ (padded 2 n).toList → c.isDigit ∨ c ∈ ['-', '+', ' ', ':'] :=
    fun h => Or.inl (isDigit_of_mem_padded h)
  simp only [chars, List.mem_append, List.mem_cons, List.not_mem_nil, or_false] at h
  rcases h with h | rfl | h | rfl | h | rfl | h | rfl | h | rfl | h
  · rcases mem_yearText h with h | rfl | rfl
    · exact Or.inl h
    all_goals decide
  all_goals first
    | exact hpadded h
    | decide

theorem head_yearText (year : Int) : ∃ c ∈ (yearText year).toList.head?, ¬ isBlank c := by
  have hne : (yearText year).toList ≠ [] := by
    unfold yearText
    dsimp only
    split
    · simp
    · split
      · simp
      · exact padded_ne_nil 4 _
  obtain ⟨c, s, hs⟩ := List.exists_cons_of_ne_nil hne
  refine ⟨c, by rw [hs]; rfl, ?_⟩
  rcases mem_yearText (hs ▸ List.mem_cons_self : c ∈ (yearText year).toList) with h | rfl | rfl
  · exact not_isBlank_of_isDigit h
  all_goals decide

theorem trim_toText [Calendar] (h : Documented) (t : Timestamp) : trim t.toText = t.toText := by
  have hfirst : ∃ c ∈ t.chars.head?, ¬ isBlank c := by
    obtain ⟨c, hc, hblank⟩ := head_yearText t.year
    exact ⟨c, List.mem_head?_append_of_mem_head? hc, hblank⟩
  have hlast : ∃ c ∈ t.chars.getLast?, ¬ isBlank c := by
    have hne := padded_ne_nil 2 (t.second + t.nanosecond / 1000000000)
    obtain ⟨before, hbefore⟩ : ∃ before, t.chars =
        before ++ (padded 2 (t.second + t.nanosecond / 1000000000)).toList := by
      refine ⟨(yearText t.year).toList ++ '-' :: ((padded 2 t.month).toList ++ '-' ::
        ((padded 2 t.day).toList ++ ' ' :: ((padded 2 t.hour).toList ++ ':' ::
        ((padded 2 t.minute).toList ++ [':'])))), ?_⟩
      simp [chars]
    refine ⟨_, ?_, not_isBlank_of_isDigit (isDigit_of_mem_padded (List.getLast_mem hne))⟩
    rw [hbefore, List.getLast?_append_of_ne_nil _ hne]
    exact List.getLast?_eq_some_getLast hne
  have hnone : ∀ c ∈ ([] : List Char), isBlank c := List.forall_mem_nil _
  rw [← String.toList_inj, trim, String.toList_ofList, toList_toText h]
  simpa using trimmed_eq hnone hnone hfirst hlast

theorem ofText?_toText [Calendar] (h : Documented) (t : Timestamp) :
    ofText? t.toText = some t.wholeSeconds := by
  have hjoined : spell (dateParts ++ .mark 'T' rfl :: (clockParts ++ [.fraction])) =
    "%Y-%m-%dT%H:%M:%S%.f" := rfl
  have hapart : spell (dateParts ++ .blanks :: (clockParts ++ [.fraction])) =
    "%Y-%m-%d %H:%M:%S%.f" := rfl
  have hnone : Calendar.timestamp? "%Y-%m-%dT%H:%M:%S%.f" t.toText = none := by
    refine Option.eq_none_iff_forall_ne_some.mpr fun t' ht' => ?_
    have hmem := h.marks _ _ _ 'T' rfl (hjoined ▸ ht') (by decide)
    rw [toList_toText h] at hmem
    exact absurd (mem_chars hmem) (by decide)
  have hsome : Calendar.timestamp? "%Y-%m-%d %H:%M:%S%.f" t.toText = some t.wholeSeconds := by
    rw [← hapart]
    exact h.reads _ _ _ _ (toList_toText h t ▸ t.fits_chars) t.timestamp?_draft
  rw [ofText?, trim_toText h, hnone, hsome]
  rfl

/-- The text of a timestamp is read back as the timestamp without the fraction of its second, so as
itself exactly if it has none, by any calendar that writes and reads as it is documented. -/
theorem timestamps_readBack [Calendar] (h : Documented) (t : Timestamp) :
    Value.moment? (.text (Value.moment t).toText) = some t.wholeSeconds ∧
      (Value.moment? (.text (Value.moment t).toText) = some t ↔
        t.nanosecond % 1000000000 = 0) := by
  have hread : Value.moment? (.text (Value.moment t).toText) = some t.wholeSeconds :=
    ofText?_toText h t
  refine ⟨hread, ?_⟩
  rw [hread, Option.some.injEq, wholeSeconds_eq_iff]

def lateLeapSecond : Timestamp where
  year := 12016
  month := 12
  day := 31
  hour := 23
  minute := 59
  second := 59
  nanosecond := 1000000000
  isDate := by decide
  isClock := by decide

theorem lateLeapSecond_readBack : Calendar.Documented ∧
    Value.moment? (.text (Value.moment lateLeapSecond).toText) = some lateLeapSecond :=
  ⟨Calendar.documented, (timestamps_readBack Calendar.documented lateLeapSecond).2.mpr rfl⟩

end Timestamp
end SheetTables
