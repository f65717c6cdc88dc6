import Mathlib.Logic.Function.Basic
import SheetTables.Matching.CellSteps
import SheetTables.Proofs.Grid.Covers
import SheetTables.Proofs.Matching.Reading

/-! # What matchers look at

A matcher looks at no more of its subject than its leaves do. The leaves that ask for the text or
the place of a cell look at its value and its range, and not at the position where it was looked
up; so they take all cells of a grid that cover one range alike.
-/

namespace SheetTables
namespace Matcher

section Subjects

variable {α β : Type} {draw : α → β}

/-- A step whose leaf looks at no more than what is drawn from the subject. -/
def Step.LooksAt (draw : α → β) : Step α → Prop
  | .leaf test _ => test.FactorsThrough draw
  | .refused _ | .opening _ | .closing _ | .message _ => True

theorem Step.looksAt_text [PatternEngine] (op : TextOperator) (expected : String)
    {read : α → Option String} (h : read.FactorsThrough draw) :
    (Step.text op expected read).LooksAt draw := by
  unfold Step.text
  cases op.condition? expected with
  | none => trivial
  | some condition => exact fun a b hab => congrArg condition.test (h hab)

theorem Expression.holds_factorsThrough (id : Nat) (kind : Junction)
    (message : Option (α → String)) {parts : List (Expression α)}
    (h : ∀ e ∈ parts, (e.holds ·).FactorsThrough draw) :
    ((Expression.junction id kind message parts).holds ·).FactorsThrough draw := by
  intro a b hab
  have hparts : ∀ e ∈ parts, e.holds a = e.holds b := fun e he => h e he hab
  rw [Bool.eq_iff_iff]
  cases kind with
  | and =>
    simp only [holds_and, List.all_eq_true]
    exact forall₂_congr fun e he => by rw [hparts e he]
  | or =>
    simp only [holds_or, List.any_eq_true]
    exact exists_congr fun e => and_congr_right fun he => by rw [hparts e he]

theorem Reads.factorsThrough {nested : Bool} {kind : Junction} {p q : Pending α} {c : Content α}
    (h : Reads nested kind p c q) (hp : ∀ step ∈ p.steps, step.LooksAt draw) :
    (∀ e ∈ c.parts, (e.holds ·).FactorsThrough draw) ∧ ∀ step ∈ q.steps, step.LooksAt draw := by
  induction h with
  | ended => exact ⟨nofun, hp⟩
  | closed => exact ⟨nofun, (List.forall_mem_cons.mp hp).2⟩
  | kept _ _ ih => exact ih (List.forall_mem_cons.mp hp).2
  | leaf _ ih =>
    obtain ⟨hleaf, hrest⟩ := List.forall_mem_cons.mp hp
    obtain ⟨hparts, hq⟩ := ih hrest
    exact ⟨List.forall_mem_cons.mpr ⟨hleaf, hparts⟩, hq⟩
  | opened _ _ ihj ih =>
    obtain ⟨hinner, hrest⟩ := ihj (List.forall_mem_cons.mp hp).2
    obtain ⟨hparts, hq⟩ := ih hrest
    exact ⟨List.forall_mem_cons.mpr ⟨Expression.holds_factorsThrough _ _ _ hinner, hparts⟩, hq⟩
  | message _ ih => exact ih (List.forall_mem_cons.mp hp).2
  | refused _ ih => exact ih (List.forall_mem_cons.mp hp).2

theorem ofSteps_factorsThrough {root : Junction} {steps : List (Step α)} {m : Matcher α}
    (hsteps : ∀ step ∈ steps, step.LooksAt draw) (hm : ofSteps root steps = .ok m) :
    m.test.FactorsThrough draw := by
  obtain ⟨e, he, _⟩ := exists_readsAs root steps
  have hvalue := he.builds.value m hm
  obtain ⟨c, q, hreads, rfl⟩ := he
  intro a b hab
  rw [hvalue, hvalue]
  exact Expression.holds_factorsThrough _ _ _ (hreads.factorsThrough hsteps).1 hab

end Subjects

end Matcher

/-- What a cell shows wherever in it it is looked up. -/
def Cell.content (c : Cell) : Value × Range := (c.value, c.range)

namespace Matcher.Step

/-- The steps that ask for the text or the place of a cell, and those that join them. -/
inductive AsksOfCell [PatternEngine] [Calendar] : Step Cell → Prop
  | cellText (op : TextOperator) (expected : String) : AsksOfCell (.cellText op expected)
  | columnName (op : TextOperator) (expected : String) : AsksOfCell (.columnName op expected)
  | rowIndex (op : Comparison) (expected : Nat) : AsksOfCell (.rowIndex op expected)
  | colIndex (op : Comparison) (expected : Nat) : AsksOfCell (.colIndex op expected)
  | opening (kind : Junction) : AsksOfCell (.opening kind)
  | closing (kind : Junction) : AsksOfCell (.closing kind)
  | message (text : Cell → String) : AsksOfCell (.message text)

theorem AsksOfCell.looksAt [PatternEngine] [Calendar] {step : Step Cell} (h : step.AsksOfCell) :
    step.LooksAt Cell.content := by
  have hvalue : ∀ {a b : Cell}, a.content = b.content → a.value = b.value := congrArg Prod.fst
  have hrange : ∀ {a b : Cell}, a.content = b.content → a.range = b.range := congrArg Prod.snd
  cases h with
  | cellText op expected => exact looksAt_text op expected fun a b h => by rw [hvalue h]
  | columnName op expected =>
    refine looksAt_text op expected fun a b h => ?_
    rw [Cell.columnName, Cell.columnName, hrange h]
  | rowIndex op expected =>
    intro a b h
    dsimp only
    rw [hrange h]
  | colIndex op expected =>
    intro a b h
    dsimp only
    rw [hrange h]
  | opening kind => trivial
  | closing kind => trivial
  | message text => trivial

end Matcher.Step

theorem Grid.Holds.value_eq {g : Grid} {c : Cell} (h : g.Holds c) :
    c.value = g.valueAt c.range.top c.range.left := by
  rw [h.range_eq]
  exact congrArg Cell.value h

theorem Grid.Holds.content_eq {g : Grid} {c k : Cell} (hc : g.Holds c) (hk : g.Holds k)
    (h : c.range = k.range) : c.content = k.content := by
  rw [Cell.content, Cell.content, hc.value_eq, hk.value_eq, h]

end SheetTables
