import SheetTables.Pattern.Engine
import SheetTables.Pattern.Regex

/-! # Name patterns with wildcards

A name pattern matches whole names. A question mark stands for any character, an asterisk for
any text, brackets for one of the characters that they hold or, after an exclamation mark, for
one of the others. Two asterisks must fill a component of a path, and stand for any number of
components.
-/

namespace SheetTables

namespace Glob

inductive Token where
  | char (c : Char)
  | any
  | many
  | deep
  | one (negated : Bool) (ranges : List (Char × Char))
deriving DecidableEq

inductive Fault where
  | wildcards (position : Nat)
  | component (position : Nat)
  | brackets (position : Nat)
deriving DecidableEq

def Fault.message : Fault → String
  | wildcards n => text n "wildcards are either regular `*` or recursive `**`"
  | component n => text n "recursive wildcards must form a single path component"
  | brackets n => text n "invalid range pattern"
where
  text (n : Nat) (reason : String) : String :=
    "Pattern syntax error near position " ++ toString n ++ ": " ++ reason

/-- The ranges between brackets; a single character is a range of its own. -/
def ranges : List Char → List (Char × Char)
  | a :: '-' :: b :: s => (a, b) :: ranges s
  | a :: s => (a, a) :: ranges s
  | [] => []

/-- Reads what stands between brackets, after the opening one: at least one character, of which
the first may be a closing bracket. -/
def brackets? (s : List Char) : Option (Token × List Char) :=
  let (negated, s) := match s with
    | '!' :: rest => (true, rest)
    | rest => (false, rest)
  match s with
  | [] => none
  | a :: rest =>
    match rest.dropWhile (· != ']') with
    | ']' :: after => some (.one negated (ranges (a :: rest.takeWhile (· != ']'))), after)
    | _ => none

/-- Reads tokens from the character at `position` on, where `before` is the one before it. -/
def tokens? : Nat → Nat → Option Char → List Char → Except Fault (List Token)
  | 0, _, _, _ | _, _, _, [] => .ok []
  | fuel + 1, position, before, '*' :: s =>
    let stars := 1 + (s.takeWhile (· == '*')).length
    let rest := s.dropWhile (· == '*')
    let after := position + stars
    if stars = 1 then do return .many :: (← tokens? fuel after (some '*') rest)
    else if 2 < stars then .error (.wildcards (position + 2))
    else if before.any (· != '/') then .error (.component (position - 1))
    else match rest with
      | [] => .ok [.deep]
      | '/' :: rest => do return .deep :: (← tokens? fuel (after + 1) (some '/') rest)
      | _ => .error (.component after)
  | fuel + 1, position, _, '[' :: s =>
    match brackets? s with
    | some (token, rest) => do
      let after := position + 1 + s.length - rest.length
      return token :: (← tokens? fuel after (some ']') rest)
    | none => .error (.brackets position)
  | fuel + 1, position, _, c :: s => do
    let token := if c = '?' then Token.any else .char c
    return token :: (← tokens? fuel (position + 1) (some c) s)

def anyChar : Regex Atom := .atom (.set .all)

def anyText : Regex Atom := .repeated anyChar 0 none true

/-- The characters of some ranges; a range whose ends stand the wrong way round is empty. -/
def setOf (ranges : List (Char × Char)) : CharSet :=
  Pattern.unionOf ((ranges.filter fun r => r.1 ≤ r.2).map fun r => .range r.1 r.2)

/-- The components that two asterisks stand for are a text that ends with a slash, or nothing, or
all of the rest. -/
def Token.regex : Token → Regex Atom
  | char c => .atom (.literal [c])
  | any => anyChar
  | many => anyText
  | deep =>
    .alt (.repeated (.cat anyText (.atom (.literal ['/']))) 0 (some 1) true)
      (.cat anyText (.atom (.look .stop)))
  | one negated ranges =>
    .atom (.set (if negated then (setOf ranges).complement else setOf ranges))

end Glob

structure Glob where
  tokens : List Glob.Token
deriving DecidableEq

namespace Glob

def ofText? (pattern : String) : Except Fault Glob := do
  let s := pattern.toList
  return ⟨← tokens? (s.length + 1) 0 none s⟩

def accepts (g : Glob) (name : String) : Bool :=
  let body := g.tokens.foldr (fun t r => Regex.cat t.regex r) (.atom (.look .stop))
  (Regex.cat (.atom (.look .start)) body).matchesIn name

instance : NamePatterns where
  read pattern := ((ofText? pattern).map accepts).mapError Fault.message

end Glob
end SheetTables
