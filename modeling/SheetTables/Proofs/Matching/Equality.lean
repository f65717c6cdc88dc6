import SheetTables.Matching.CellSteps
import SheetTables.Proofs.Grid.ValueOrder

/-! # Matchers of equal values

A matcher that asks for a value accepts what the order puts level with it: the value itself, and
for a number the texts that hold it.
-/

namespace SheetTables

open Value

namespace Matcher

/-- A matcher of one leaf is that leaf, under a root of either kind. -/
theorem exists_ofSteps_leaf {α : Type} (root : Junction) (test : α → Bool) :
    ∃ m, ofSteps root [.leaf test none] = .ok m ∧ ∀ a, m.test a = test a := by
  refine ⟨⟨root, none, .leaf test none .nil⟩, rfl, fun a => ?_⟩
  unfold Matcher.test mismatch? Conditions.failure
  cases root <;> cases test a <;> rfl

theorem eq_holds_iff (order : Option Ordering) :
    Comparison.eq.holds order = true ↔ order = some .eq := by
  simp [Comparison.holds]

theorem ne_holds_iff (order : Option Ordering) :
    Comparison.ne.holds order = true ↔ ¬ order = some .eq := by
  simp [Comparison.holds]

end Matcher

open Matcher in
/-- Of two values that are not both absent, the order puts one level with the other exactly if they
are equal or one is a number that the other, a text, holds. Matchers built from the one accept the
other by the same rule. -/
theorem equality_ordered (a b : Value) (h : a ≠ .empty ∨ b ≠ .empty) :
    (compare? a b = some .eq ↔ a.equals b = true ∨ SameNumber a b) ∧
      ∀ root, ∃ same other, ofSteps root [.is compare? .eq b] = .ok same ∧
        ofSteps root [.is compare? .ne b] = .ok other ∧
        (same.test a = true ↔ a.equals b = true ∨ SameNumber a b) ∧
        (other.test a = true ↔ ¬ (a.equals b = true ∨ SameNumber a b)) := by
  have horder : compare? a b = some .eq ↔ a.equals b = true ∨ SameNumber a b :=
    compare?_eq_some_iff.trans (ordered_eq_iff h)
  refine ⟨horder, fun root => ?_⟩
  obtain ⟨same, hsame, htest⟩ :=
    exists_ofSteps_leaf root fun v => Comparison.eq.holds (compare? v b)
  obtain ⟨other, hother, htest'⟩ :=
    exists_ofSteps_leaf root fun v => Comparison.ne.holds (compare? v b)
  refine ⟨same, other, hsame, hother, ?_, ?_⟩
  · rw [htest, eq_holds_iff, horder]
  · rw [htest', ne_holds_iff, horder]

theorem equality_ordered_numeral :
    (number (.ofInt 5) ≠ .empty ∨ text " 5.0" ≠ .empty) ∧
      (compare? (number (.ofInt 5)) (text " 5.0") = some .eq ↔
        (number (.ofInt 5)).equals (text " 5.0") = true ∨
          SameNumber (number (.ofInt 5)) (text " 5.0")) :=
  have h : number (.ofInt 5) ≠ .empty ∨ text " 5.0" ≠ .empty := Or.inl nofun
  ⟨h, (equality_ordered _ _ h).1⟩

/-- A number and a text that holds it are level and not equal, and absent values are equal and not
level. -/
theorem level_not_equal :
    compare? (number (.ofInt 5)) (text "5") = some .eq ∧
      (number (.ofInt 5)).equals (text "5") = false ∧
      compare? empty empty = none ∧ empty.equals empty = true ∧
      ¬ ∀ a b, compare? a b = some .eq ↔ a.equals b = true := by
  have hlevel : compare? (number (.ofInt 5)) (text "5") = some .eq := by decide +kernel
  have hunequal : (number (.ofInt 5)).equals (text "5") = false := by decide +kernel
  refine ⟨hlevel, hunequal, rfl, rfl, fun h => ?_⟩
  cases hunequal.symm.trans ((h _ _).mp hlevel)

end SheetTables
