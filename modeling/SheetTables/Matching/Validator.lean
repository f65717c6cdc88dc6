import SheetTables.Grid.Cell
import SheetTables.Matching.Conditions

/-! # Validators

A validator has a message for every fault that it finds in a subject, and may pass over subjects
that do not concern it.
-/

namespace SheetTables

structure Validator (α : Type) where
  concerns : α → Bool := fun _ => true
  messages : α → List String

namespace Validator

variable {α β : Type}

def rule (holds : α → Bool) (message : String) : Validator α where
  messages a := if holds a then [] else [message]

def ofMatcher (m : Matcher α) : Validator α where
  messages a := ((m.mismatch? a).map Mismatch.toText).toList

def whenever (condition : α → Bool) (v : Validator α) : Validator α :=
  { v with concerns := condition }

def on (part : β → α) (v : Validator α) : Validator β where
  concerns b := v.concerns (part b)
  messages b := v.messages (part b)

def faults (v : Validator α) (a : α) : List String :=
  if v.concerns a then v.messages a else []

end Validator

/-- A check of values is a check of cells. -/
def Validator.ofValueMatcher (m : Matcher Value) : Validator Cell :=
  (Validator.ofMatcher m).on Cell.value

end SheetTables
