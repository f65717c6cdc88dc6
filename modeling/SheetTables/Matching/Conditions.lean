/-! # Trees of conditions

A matcher is a tree whose leaves test a subject and whose junctions ask for all or for one of
their children. Nodes are numbered in the order in which they are reached from the root, the
root being zero. A node may carry a message; a node without one speaks through the nearest node
above it that does. A subject that fails a junction of all fails at its first failing child, and
one that fails a junction of one at its last child; so a failure always lies at a leaf.
-/

namespace SheetTables

inductive Junction where
  | and | or
deriving DecidableEq

def Junction.name : Junction → String
  | and => "AND"
  | or => "OR"

/-- The children of a junction: a leaf or a junction, and the children after it. -/
inductive Conditions (α : Type) where
  | nil
  | leaf (test : α → Bool) (message : Option (α → String)) (rest : Conditions α)
  | junction (kind : Junction) (message : Option (α → String)) (children rest : Conditions α)

structure Mismatch where
  node : Nat
  message : Option String
deriving DecidableEq

def Mismatch.toText (m : Mismatch) : String :=
  m.message.getD "condition not satisfied"

/-- What is known of a node without a subject: its parent, and the node that speaks for it. -/
structure NodeOrigin where
  parent : Option Nat
  source : Option Nat
deriving DecidableEq

namespace Conditions

variable {α : Type}

def isNil : Conditions α → Bool
  | nil => true
  | _ => false

def size : Conditions α → Nat
  | nil => 0
  | leaf _ _ rest => rest.size + 1
  | junction _ _ children rest => children.size + rest.size + 1

def append : Conditions α → Conditions α → Conditions α
  | nil, cs => cs
  | leaf test message rest, cs => leaf test message (rest.append cs)
  | junction kind message children rest, cs => junction kind message children (rest.append cs)

/-- Where a subject fails the children of a junction, the first of them being number `id`. The
message of the junction, own or inherited, is `voice`; `here` is the failure of the junction if
none of its children speaks for it. -/
def failure (kind : Junction) (voice : Option (α → String)) (here : Mismatch) (id : Nat) (a : α) :
    Conditions α → Option Mismatch
  | nil => match kind with
    | .and => none
    | .or => some here
  | leaf test message rest =>
    if test a then
      match kind with
      | .and => rest.failure kind voice here (id + 1) a
      | .or => none
    else
      let found : Mismatch := ⟨id, (message.or voice).map (· a)⟩
      match kind with
      | .and => some found
      | .or => rest.failure kind voice found (id + 1) a
  | junction inner message children rest =>
    let next := id + 1 + children.size
    let own := message.or voice
    match children.failure inner own ⟨id, own.map (· a)⟩ (id + 1) a with
    | none => match kind with
      | .and => rest.failure kind voice here next a
      | .or => none
    | some found => match kind with
      | .and => some found
      | .or => rest.failure kind voice found next a

/-- The nodes in the order of their numbers, from `id` on. -/
def origins (parent : Nat) (source : Option Nat) (id : Nat) : Conditions α → List NodeOrigin
  | nil => []
  | leaf _ message rest =>
    ⟨some parent, if message.isSome then some id else source⟩ ::
      rest.origins parent source (id + 1)
  | junction _ message children rest =>
    let own := if message.isSome then some id else source
    ⟨some parent, own⟩ ::
      (children.origins id own (id + 1) ++ rest.origins parent source (id + 1 + children.size))

def childless? : Conditions α → Option Junction
  | nil => none
  | leaf _ _ rest => rest.childless?
  | junction kind _ children rest =>
    if children.isNil then some kind else children.childless?.or rest.childless?

end Conditions

structure Matcher (α : Type) where
  kind : Junction
  message : Option (α → String)
  conditions : Conditions α

namespace Matcher

variable {α : Type}

/-- Where and why a subject fails, if it does. -/
def mismatch? (m : Matcher α) (a : α) : Option Mismatch :=
  m.conditions.failure m.kind m.message ⟨0, m.message.map (· a)⟩ 1 a

def test (m : Matcher α) (a : α) : Bool :=
  (m.mismatch? a).isNone

def size (m : Matcher α) : Nat :=
  m.conditions.size + 1

def origins (m : Matcher α) : List NodeOrigin :=
  let source := if m.message.isSome then some 0 else none
  ⟨none, source⟩ :: m.conditions.origins 0 source 1

def parent? (m : Matcher α) (id : Nat) : Option Nat :=
  m.origins[id]?.bind (·.parent)

/-- The node whose message applies where a node fails. -/
def source? (m : Matcher α) (id : Nat) : Option Nat :=
  m.origins[id]?.bind (·.source)

def reportNodes (count : Nat) : String :=
  "Matcher \x7b nodes: " ++ toString count ++ " \x7d"

def report (m : Matcher α) : String := reportNodes m.size

end Matcher
end SheetTables
