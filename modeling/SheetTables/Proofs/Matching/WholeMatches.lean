import SheetTables.Proofs.Pattern.Groups

/-! # Patterns that match as a whole

A pattern is put into a group between two anchors before it is compiled. Where the group ends with
the pattern, the condition holds of the texts that the pattern matches from the first character to
the last. A closing parenthesis in the pattern may end the group before that, and then the rest of
the pattern is read outside, though the pattern is not well written by itself.
-/

namespace SheetTables
namespace TextOperator

theorem wholePattern_eq_append (pattern : String) :
    wholePattern pattern = "^(?:" ++ (pattern ++ ")$") :=
  String.append_assoc

theorem wholePattern_eq_group (pattern : String) :
    wholePattern pattern = "^" ++ Pattern.group pattern ++ "$" := by
  rw [← String.toList_inj]
  simp [wholePattern, Pattern.group]

/-- The group around an accepted pattern holds all of it, or ends within it. -/
theorem groups_or_ends [PatternEngine] {L : PatternLanguage} (hL : L.Documented)
    {pattern : String} {c : TextCondition} (h : matching.condition? pattern = some c) :
    L.Groups pattern ∨ ∃ a b, pattern = a ++ ")" ++ b ∧ L.Groups a := by
  have hwhole : L.WellWritten ("^(?:" ++ (pattern ++ ")$")) :=
    wholePattern_eq_append pattern ▸ hL.compiled _ c h
  obtain ⟨body, tail, hsplit, hbody⟩ := hL.closed _ hwhole
  have hchars : pattern.toList ++ ')' :: ['$'] = body.toList ++ ')' :: tail.toList := by
    simpa using congrArg String.toList hsplit
  rcases closing_cases (by decide) hchars with hall | ⟨b, hb⟩
  · exact Or.inl (String.toList_inj.mp hall ▸ hbody)
  · refine Or.inr ⟨body, String.ofList b, ?_, hbody⟩
    rw [← String.toList_inj, hb]
    simp

theorem matches_whole [PatternEngine] {L : PatternLanguage} (hL : L.Documented) {pattern : String}
    (h : L.Groups pattern) (s : List Char) :
    (∃ i j, L.Matches (wholePattern pattern) s i j) ↔ L.Matches pattern s 0 s.length := by
  simp only [wholePattern_eq_group, hL.concat pattern h, hL.group pattern h, hL.start, hL.stop]
  constructor
  · rintro ⟨_, _, _, _, ⟨-, rfl⟩, hmatch, rfl, -⟩
    exact hmatch
  · intro hmatch
    exact ⟨0, s.length, 0, s.length, ⟨rfl, rfl⟩, hmatch, rfl, rfl⟩

/-- An accepted pattern is well written by itself exactly if no part of it closes the group that
it is put into. Its condition then holds of the texts that it matches from the start to the end. So
it is with every engine that has the language that it is documented to have. -/
theorem matching_whole [PatternEngine] {L : PatternLanguage} (hL : L.Documented) (pattern : String)
    (c : TextCondition) (h : matching.condition? pattern = some c) :
    (L.WellWritten pattern ↔ ¬ ∃ a b, pattern = a ++ ")" ++ b ∧ L.Groups a) ∧
      (L.WellWritten pattern →
        ∀ s, c.test (some s) = true ↔ L.Matches pattern s.toList 0 s.toList.length) := by
  have hclosed : L.WellWritten pattern → ¬ ∃ a b, pattern = a ++ ")" ++ b ∧ L.Groups a := by
    rintro hwritten ⟨a, b, rfl, ha⟩
    exact hL.unopened a b hwritten ha
  have hgroups := groups_or_ends hL h
  refine ⟨⟨hclosed, fun hopen => (hgroups.resolve_right hopen).1⟩, fun hwritten s => ?_⟩
  rw [← matches_whole hL (hgroups.resolve_right (hclosed hwritten))]
  exact hL.found _ c h s

theorem matching_whole_either : ∃ c, matching.condition? "ab|c+" = some c ∧
    Pattern.language.Documented ∧
    (Pattern.language.WellWritten "ab|c+" →
      ∀ s, c.test (some s) = true ↔
        Pattern.language.Matches "ab|c+" s.toList 0 s.toList.length) := by
  have haccepted : (matching.condition? "ab|c+").isSome = true := by decide +kernel
  obtain ⟨c, hc⟩ := Option.isSome_iff_exists.mp haccepted
  exact ⟨c, hc, Pattern.language_documented,
    (matching_whole Pattern.language_documented "ab|c+" c hc).2⟩

/-- A pattern that is not well written is accepted, and holds of a text that only begins with what
its first half matches. -/
theorem halves_accepted :
    (matching.condition? "a)|(b").map (TextCondition.test · (some "ax")) = some true ∧
      ¬ Pattern.language.WellWritten "a)|(b" ∧
      ¬ ∀ pattern c, matching.condition? pattern = some c →
        Pattern.language.WellWritten pattern := by
  have hmet : (matching.condition? "a)|(b").map (TextCondition.test · (some "ax")) =
    some true := by decide +kernel
  have hnone : ¬ Pattern.language.WellWritten "a)|(b" := by
    change ¬ (Pattern.meaning? "a)|(b").isSome
    decide +kernel
  refine ⟨hmet, hnone, fun h => ?_⟩
  obtain ⟨c, hc, -⟩ := Option.map_eq_some_iff.mp hmet
  exact hnone (h _ c hc)

end TextOperator
end SheetTables
