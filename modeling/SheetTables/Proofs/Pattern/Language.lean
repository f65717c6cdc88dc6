import SheetTables.Matching.Operator

/-! # What engines of patterns are known to do

An engine has a language: which texts are patterns, and which stretches of a text a pattern matches,
between two places counted from its start. An anchor matches an end of the text, parts that stand
one after another match one after another, and a group matches what is in it. A parenthesis that is
opened must be closed, and one that is closed must have been opened.
-/

namespace SheetTables

/-- A pattern in a group without a number. -/
def Pattern.group (pattern : String) : String :=
  "(?:" ++ pattern ++ ")"

/-- The parenthesis that closes the group is the one put there, or one before it. -/
theorem closing_cases {k rest s t : List Char} (ht : ')' ∉ t)
    (h : s ++ ')' :: t = k ++ ')' :: rest) : s = k ∨ ∃ b, s = k ++ ')' :: b := by
  rcases List.append_eq_append_iff.mp h with ⟨x, rfl, hx⟩ | ⟨x, rfl, hx⟩
  · cases x with
    | nil => exact Or.inl (List.append_nil s).symm
    | cons c x =>
      refine absurd ?_ ht
      rw [(List.cons.inj hx).2]
      exact List.mem_append_right _ List.mem_cons_self
  · cases x with
    | nil => exact Or.inl (List.append_nil k)
    | cons c x =>
      obtain rfl : ')' = c := (List.cons.inj hx).1
      exact Or.inr ⟨x, rfl⟩

/-- Which texts are patterns, and which stretches of a text a pattern matches. -/
structure PatternLanguage where
  WellWritten : String → Prop
  Matches : String → List Char → Nat → Nat → Prop

namespace PatternLanguage

/-- A text that is a pattern by itself and stays one in a group. -/
def Groups (L : PatternLanguage) (pattern : String) : Prop :=
  L.WellWritten pattern ∧ L.WellWritten (Pattern.group pattern)

/-- An engine compiles patterns of the language only, and finds a match where there is one. -/
structure Documented [PatternEngine] (L : PatternLanguage) : Prop where
  compiled : ∀ p test, PatternEngine.compile? p = some test → L.WellWritten p
  found : ∀ p test, PatternEngine.compile? p = some test →
    ∀ s, test s = true ↔ ∃ i j, L.Matches p s.toList i j
  start : ∀ s i j, L.Matches "^" s i j ↔ i = 0 ∧ j = 0
  stop : ∀ s i j, L.Matches "$" s i j ↔ i = s.length ∧ j = s.length
  group : ∀ p, L.Groups p → ∀ s i j, L.Matches (Pattern.group p) s i j ↔ L.Matches p s i j
  concat : ∀ p, L.Groups p → ∀ s i j, L.Matches ("^" ++ Pattern.group p ++ "$") s i j ↔
    ∃ k l, L.Matches "^" s i k ∧ L.Matches (Pattern.group p) s k l ∧ L.Matches "$" s l j
  closed : ∀ rest, L.WellWritten ("^(?:" ++ rest) →
    ∃ body tail, rest = body ++ ")" ++ tail ∧ L.Groups body
  unopened : ∀ a b, L.WellWritten (a ++ ")" ++ b) → ¬ L.Groups a

end PatternLanguage
end SheetTables
