import SheetTables.Matching.Builder

/-! # Tables of nodes

A matcher is kept as a table of its nodes in the order in which they were made. A node knows the
number of its parent, and a junction those of its children. While the table is made, one of its
junctions is the current one. Once it is made, the node that speaks for each node is found in one
pass, since a parent comes before its children.
-/

namespace SheetTables
namespace Matcher

inductive NodeContent (α : Type) where
  | leaf (test : α → Bool)
  | junction (kind : Junction) (children : List Nat)

structure Node (α : Type) where
  content : NodeContent α
  parent : Option Nat
  message : Option (α → String)

namespace Node

variable {α : Type}

def addChild (child : Nat) (n : Node α) : Node α :=
  match n.content with
  | .leaf _ => n
  | .junction kind children => { n with content := .junction kind (children ++ [child]) }

def setMessage (text : α → String) (n : Node α) : Node α :=
  { n with message := some text }

def childless? (n : Node α) : Option Junction :=
  match n.content with
  | .junction kind [] => some kind
  | _ => none

end Node

/-- The node that speaks for a node, given those that speak for the nodes before it. -/
def Node.source {α : Type} (sources : List (Option Nat)) (n : Node α) : Option Nat :=
  if n.message.isSome then some sources.length
  else n.parent.bind fun parent => sources[parent]?.join

structure NodeTable (α : Type) where
  nodes : List (Node α)
  sources : List (Option Nat)

namespace NodeTable

variable {α : Type}

def ofNodes (nodes : List (Node α)) : NodeTable α where
  nodes := nodes
  sources := nodes.foldl (fun sources n => sources ++ [n.source sources]) []

def size (t : NodeTable α) : Nat := t.nodes.length

def parent? (t : NodeTable α) (id : Nat) : Option Nat :=
  t.nodes[id]?.bind (·.parent)

def source? (t : NodeTable α) (id : Nat) : Option Nat :=
  t.sources[id]?.join

def message? (t : NodeTable α) (id : Nat) : Option (α → String) :=
  t.nodes[id]?.bind (·.message)

def mismatch (t : NodeTable α) (a : α) (id : Nat) : Mismatch :=
  ⟨id, ((t.source? id).bind t.message?).map (· a)⟩

/-- The failure that the last of some children is left with, all having failed. -/
def lastFailure (failing? : Nat → Option Nat) (failed : Nat) : List Nat → Option Nat
  | [] => some failed
  | child :: children =>
    match failing? child with
    | none => none
    | some failed => lastFailure failing? failed children

def junctionFailure (kind : Junction) (failing? : Nat → Option Nat) (id : Nat)
    (children : List Nat) : Option Nat :=
  match kind with
  | .and => children.findSome? failing?
  | .or => lastFailure failing? id children

/-- The node at which a subject fails a node, if it does. No more than `depth` nodes lie on the
way down. -/
def failing? (nodes : List (Node α)) (a : α) : Nat → Nat → Option Nat
  | 0, _ => none
  | depth + 1, id =>
    match nodes[id]? with
    | none => none
    | some ⟨.leaf test, _, _⟩ => if test a then none else some id
    | some ⟨.junction kind children, _, _⟩ =>
      junctionFailure kind (failing? nodes a depth) id children

/-- Where and why a subject fails, if it does. No way down is longer than the table. -/
def check (t : NodeTable α) (a : α) : Option Mismatch :=
  (failing? t.nodes a t.size 0).map (t.mismatch a)

def test (t : NodeTable α) (a : α) : Bool :=
  (t.check a).isNone

end NodeTable

/-- A table in the making, with the number of the junction that steps act on. -/
structure TableBuilder (α : Type) where
  nodes : List (Node α)
  current : Nat := 0
  error : Option MatcherError := none

namespace TableBuilder

variable {α : Type}

def ofRoot (kind : Junction) : TableBuilder α where
  nodes := [⟨.junction kind [], none, none⟩]

def push (b : TableBuilder α) (content : NodeContent α) (message : Option (α → String)) :
    TableBuilder α :=
  { b with
    nodes := b.nodes.modify b.current (Node.addChild b.nodes.length) ++
      [⟨content, some b.current, message⟩] }

def step (b : TableBuilder α) : Step α → TableBuilder α
  | .leaf test message => b.push (.leaf test) message
  | .refused e => { b with error := b.error.or (some e) }
  | .opening kind => { b.push (.junction kind []) none with current := b.nodes.length }
  | .closing kind =>
    match b.nodes[b.current]? with
    | some ⟨.junction opened _, parent, _⟩ =>
      if opened = kind then { b with current := parent.getD b.current } else b
    | _ => b
  | .message text => { b with nodes := b.nodes.modify b.current (Node.setMessage text) }

def build (b : TableBuilder α) : Except MatcherError (NodeTable α) :=
  match b.error with
  | some e => .error e
  | none =>
    match b.nodes.findSome? Node.childless? with
    | some kind => .error (.emptyJunction kind)
    | none => .ok (.ofNodes b.nodes)

end TableBuilder

def NodeTable.ofSteps {α : Type} (root : Junction) (steps : List (Step α)) :
    Except MatcherError (NodeTable α) :=
  (steps.foldl TableBuilder.step (TableBuilder.ofRoot root)).build

end Matcher
end SheetTables
