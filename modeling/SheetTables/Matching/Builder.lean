import SheetTables.Matching.Conditions
import SheetTables.Matching.Operator

/-! # Building matchers

A matcher is described by steps, each of which acts on the innermost open junction: it adds a
leaf, opens a junction inside, closes the junction if it is of the kind named and not the root,
or sets the message. A description is refused at its first ill-formed pattern or script, and
else at the first junction opened that got no child.
-/

namespace SheetTables

inductive MatcherError where
  | emptyJunction (kind : Junction)
  | invalidPattern (pattern : String)
  | scriptRefused (script reason : String)
deriving DecidableEq

def MatcherError.message : MatcherError → String
  | emptyJunction kind => kind.name ++ " junction has no condition"
  | invalidPattern pattern => "Invalid pattern '" ++ pattern ++ "'"
  | scriptRefused script reason => "Compile script '" ++ script ++ "' failed: " ++ reason

namespace Matcher

inductive Step (α : Type) where
  | leaf (test : α → Bool) (message : Option (α → String))
  | refused (e : MatcherError)
  | opening (kind : Junction)
  | closing (kind : Junction)
  | message (text : α → String)

def Step.text {α : Type} [PatternEngine] (op : TextOperator) (expected : String)
    (draw : α → Option String) : Step α :=
  match op.condition? expected with
  | some condition => .leaf (fun a => condition.test (draw a)) none
  | none => .refused (.invalidPattern expected)

/-- A leaf that compares what is drawn from the subject; where nothing is drawn it fails. -/
def Step.compare {α β : Type} (order : β → β → Option Ordering) (op : Comparison) (expected : β)
    (draw : α → Option β) : Step α :=
  .leaf (fun a => (draw a).any fun b => op.holds (order b expected)) none

def Step.is {α : Type} (order : α → α → Option Ordering) (op : Comparison) (expected : α) :
    Step α :=
  .leaf (fun a => op.holds (order a expected)) none

/-- A leaf that asks for a subject between two others, both included. -/
def Step.between {α : Type} (order : α → α → Option Ordering) (low high : α) : Step α :=
  .leaf (fun a => Comparison.ge.holds (order a low) && Comparison.le.holds (order a high)) none

structure OpenJunction (α : Type) where
  id : Nat
  kind : Junction
  message : Option (α → String) := none
  children : Conditions α := .nil

namespace OpenJunction

variable {α : Type}

def addLeaf (j : OpenJunction α) (test : α → Bool) (message : Option (α → String)) :
    OpenJunction α :=
  { j with children := j.children.append (.leaf test message .nil) }

def addJunction (j child : OpenJunction α) : OpenJunction α :=
  { j with children := j.children.append (.junction child.kind child.message child.children .nil) }

end OpenJunction

/-- The junctions that are open, the innermost first, with the number of nodes so far and the
first error. -/
structure Builder (α : Type) where
  current : OpenJunction α
  outer : List (OpenJunction α) := []
  count : Nat := 1
  error : Option MatcherError := none

namespace Builder

variable {α : Type}

def ofRoot (kind : Junction) : Builder α where
  current := { id := 0, kind }

def step (b : Builder α) : Step α → Builder α
  | .leaf test message =>
    { b with current := b.current.addLeaf test message, count := b.count + 1 }
  | .refused e => { b with error := b.error.or (some e) }
  | .opening kind =>
    { b with
      current := { id := b.count, kind }
      outer := b.current :: b.outer
      count := b.count + 1 }
  | .closing kind =>
    match b.outer with
    | j :: outer =>
      if b.current.kind = kind then { b with current := j.addJunction b.current, outer } else b
    | [] => b
  | .message text => { b with current := { b.current with message := some text } }

def close (current : OpenJunction α) : List (OpenJunction α) → OpenJunction α
  | [] => current
  | j :: outer => close (j.addJunction current) outer

def build (b : Builder α) : Except MatcherError (Matcher α) :=
  match b.error with
  | some e => .error e
  | none =>
    let root := close b.current b.outer
    let childless := if root.children.isNil then some root.kind else root.children.childless?
    match childless with
    | some kind => .error (.emptyJunction kind)
    | none => .ok ⟨root.kind, root.message, root.children⟩

end Builder

def ofSteps {α : Type} (root : Junction) (steps : List (Step α)) :
    Except MatcherError (Matcher α) :=
  (steps.foldl Builder.step (Builder.ofRoot root)).build

end Matcher
end SheetTables
