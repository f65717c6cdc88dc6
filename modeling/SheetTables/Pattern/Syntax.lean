/-! # Syntax of patterns

What is written in a pattern, before flags give it a meaning.
-/

namespace SheetTables.Pattern

inductive Flag where
  | ignoreCase | multiLine | dotAll | swapGreed | unicode | crlf | extended
deriving DecidableEq

/-- Flags switched on or off, in the order in which they are written. -/
abbrev Switches := List (Flag × Bool)

structure Literal where
  char : Char
  isByte : Bool := false
deriving DecidableEq

inductive Assertion where
  | lineStart | lineStop | textStart | textStop
  | wordEdge | notWordEdge | wordStart | wordStop | wordStartHalf | wordStopHalf
deriving DecidableEq

inductive Shorthand where
  | digit | space | word
deriving DecidableEq

inductive Posix where
  | alnum | alpha | ascii | blank | cntrl | digit | graph | lower | print | punct | space
  | upper | word | xdigit
deriving DecidableEq

inductive Query where
  | named (name : String)
  | valued (name value : String)
deriving DecidableEq

inductive SetOperation where
  | intersection | difference | symmetricDifference
deriving DecidableEq

inductive ClassExpr where
  | empty
  | literal (l : Literal)
  | range (low high : Literal)
  | posix (set : Posix) (negated : Bool)
  | shorthand (set : Shorthand) (negated : Bool)
  | property (query : Query) (negated : Bool)
  | bracket (negated : Bool) (body : ClassExpr)
  | union (a b : ClassExpr)
  | operation (op : SetOperation) (a b : ClassExpr)

/-- Concatenations and alternations of several parts nest to the right. -/
inductive Expr where
  | empty
  | switches (s : Switches)
  | literal (l : Literal)
  | dot
  | assertion (a : Assertion)
  | set (e : ClassExpr)
  | repeated (e : Expr) (least : Nat) (most : Option Nat) (greedy : Bool)
  | group (s : Switches) (e : Expr)
  | capture (index : Nat) (e : Expr)
  | concat (a b : Expr)
  | alternate (a b : Expr)

def ClassExpr.ofItems : List ClassExpr → ClassExpr
  | [] => .empty
  | [e] => e
  | e :: es => .union e (ofItems es)

def Expr.concatenation : List Expr → Expr
  | [] => .empty
  | [e] => e
  | e :: es => .concat e (concatenation es)

def Expr.alternation : List Expr → Expr
  | [] => .empty
  | [e] => e
  | e :: es => .alternate e (alternation es)

/-- How deep brackets nest, where the parts of one union stand side by side: `inUnion` says that
an expression is the rest of a union already counted. -/
def ClassExpr.depth (inUnion : Bool) : ClassExpr → Nat
  | .bracket _ e => 1 + e.depth false
  | .union a b => max (a.depth false) (b.depth true) + if inUnion then 0 else 1
  | .operation _ a b => 1 + max (a.depth false) (b.depth false)
  | _ => 0

inductive Chain where
  | concat | alternate
deriving DecidableEq

/-- How deep a pattern nests, where `chain` names the sequence that an expression is the rest of. -/
def Expr.depth (chain : Option Chain) : Expr → Nat
  | .set (.bracket _ e) => 1 + e.depth false
  | .repeated e _ _ _ => 1 + e.depth none
  | .group _ e => 1 + e.depth none
  | .capture _ e => 1 + e.depth none
  | .concat a b =>
    max (a.depth none) (b.depth (some .concat)) + if chain = some .concat then 0 else 1
  | .alternate a b =>
    max (a.depth none) (b.depth (some .alternate)) + if chain = some .alternate then 0 else 1
  | _ => 0

end SheetTables.Pattern
