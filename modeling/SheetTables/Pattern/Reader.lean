import SheetTables.Pattern.Syntax
import SheetTables.Text.Blank
import SheetTables.Unicode.Edition17

/-! # Reading patterns

A pattern is read from left to right. In extended mode, blanks and comments from `#` to the end
of the line stand anywhere between the parts of a pattern. There are no look-around groups and
no references back to groups, and escapes without a meaning are refused.
-/

namespace SheetTables.Pattern

/-- Drops blanks and comments; `comment` says that the text begins inside a comment. -/
def skipFrom (comment : Bool) : List Char → List Char
  | [] => []
  | c :: s =>
    if comment then skipFrom (c != '\n') s
    else if isBlank c then skipFrom false s
    else if c = '#' then skipFrom true s
    else c :: s

def skip (extended : Bool) (s : List Char) : List Char :=
  if extended then skipFrom false s else s

theorem length_skipFrom_le (comment : Bool) (s : List Char) :
    (skipFrom comment s).length ≤ s.length := by
  induction s generalizing comment with
  | nil => simp [skipFrom]
  | cons c s ih =>
    simp only [skipFrom]
    split
    · exact Nat.le_succ_of_le (ih _)
    · split
      · exact Nat.le_succ_of_le (ih _)
      · split
        · exact Nat.le_succ_of_le (ih _)
        · exact Nat.le_refl _

theorem length_skip_le (extended : Bool) (s : List Char) :
    (skip extended s).length ≤ s.length := by
  unfold skip
  split
  · exact length_skipFrom_le _ _
  · exact Nat.le_refl _

/-- The longest run of characters that satisfy `p`, with what may be skipped between them. -/
def takeRun (extended : Bool) (p : Char → Bool) : List Char → List Char × List Char
  | [] => ([], [])
  | c :: s =>
    if p c then
      let (run, rest) := takeRun extended p (skip extended s)
      (c :: run, rest)
    else ([], c :: s)
termination_by s => s.length
decreasing_by
  rw [List.length_cons]
  exact Nat.lt_succ_of_le (length_skip_le extended s)

def isHexDigit (c : Char) : Bool :=
  c.isDigit || ('a' ≤ c && c ≤ 'f') || ('A' ≤ c && c ≤ 'F')

def hexValue (digits : List Char) : Nat :=
  digits.foldl (fun n c =>
    16 * n + if c.isDigit then c.toNat - 48 else c.toUpper.toNat - 55) 0

def charOfHex? (digits : List Char) : Option Char :=
  if h : (hexValue digits).isValidChar then some (Char.ofNatAux _ h) else none

def hexDigits? (extended : Bool) : Nat → List Char → Option (List Char × List Char)
  | 0, s => some ([], s)
  | n + 1, c :: s =>
    if isHexDigit c then
      (hexDigits? extended n (skip extended s)).map fun (digits, rest) => (c :: digits, rest)
    else none
  | _ + 1, [] => none

/-- A character by its number: `width` digits, or any number of them in braces. -/
def hexLiteral? (extended : Bool) (width : Nat) (s : List Char) : Option (Literal × List Char) :=
  match skip extended s with
  | [] => none
  | '\x7b' :: rest =>
    match takeRun extended isHexDigit (skip extended rest) with
    | ([], _) => none
    | (digits, '\x7d' :: rest) => (charOfHex? digits).map fun c => (⟨c, false⟩, skip extended rest)
    | _ => none
  | rest =>
    match hexDigits? extended width rest with
    | some (digits, rest) => (charOfHex? digits).map fun c => (⟨c, width == 2⟩, rest)
    | none => none

/-- Splits at the first occurrence of a mark. -/
def splitAt? (mark : List Char) : List Char → Option (List Char × List Char)
  | [] => none
  | c :: s =>
    if mark.isPrefixOf (c :: s) then some ([], (c :: s).drop mark.length)
    else (splitAt? mark s).map fun (a, b) => (c :: a, b)

/-- What stands in braces after the escape of a property: a name, or a name and a value. A value
that is marked as different turns the question round. -/
def propertyOfChars (negated : Bool) (s : List Char) : ClassExpr :=
  let valued := fun parts : List Char × List Char =>
    Query.valued (String.ofList parts.1) (String.ofList parts.2)
  match splitAt? ['!', '='] s with
  | some parts => .property (valued parts) (!negated)
  | none =>
    match (splitAt? [':'] s).or (splitAt? ['='] s) with
    | some parts => .property (valued parts) negated
    | none => .property (.named (String.ofList s)) negated

def property? (extended negated : Bool) (s : List Char) : Option (ClassExpr × List Char) :=
  match skip extended s with
  | [] => none
  | '\x7b' :: rest =>
    match takeRun extended (· != '\x7d') (skip extended rest) with
    | (name, _ :: rest) => some (propertyOfChars negated name, rest)
    | _ => none
  | c :: rest =>
    if c = '\\' then none
    else some (.property (.named (String.ofList [c])) negated, skip extended rest)

/-- Characters that mean themselves after a backslash: all of ASCII but letters, digits and angle
brackets. -/
def isEscapable (c : Char) : Bool :=
  c.toNat < 128 && !c.isAlphanum && c != '<' && c != '>'

inductive Primitive where
  | literal (l : Literal)
  | assertion (a : Assertion)
  | set (e : ClassExpr)

/-- After the escape of a word edge: its kind in braces, unless the braces are a repetition. -/
def wordEdge? (extended : Bool) (s : List Char) : Option (Assertion × List Char) :=
  let isNamed := fun c : Char => c.isAlpha || c == '-'
  match s with
  | '\x7b' :: rest =>
    match skip extended rest with
    | [] => none
    | c :: inside =>
      if isNamed c then
        match takeRun extended isNamed (c :: inside) with
        | (name, '\x7d' :: rest) =>
          match String.ofList name with
          | "start" => some (.wordStart, rest)
          | "end" => some (.wordStop, rest)
          | "start-half" => some (.wordStartHalf, rest)
          | "end-half" => some (.wordStopHalf, rest)
          | _ => none
        | _ => none
      else some (.wordEdge, s)
  | _ => some (.wordEdge, s)

def escape? (extended : Bool) : List Char → Option (Primitive × List Char)
  | [] => none
  | c :: s =>
    let char := fun n => some (Primitive.literal ⟨Char.ofNat n, false⟩, s)
    match c with
    | 'x' => (hexLiteral? extended 2 s).map fun (l, rest) => (.literal l, rest)
    | 'u' => (hexLiteral? extended 4 s).map fun (l, rest) => (.literal l, rest)
    | 'U' => (hexLiteral? extended 8 s).map fun (l, rest) => (.literal l, rest)
    | 'p' => (property? extended false s).map fun (e, rest) => (.set e, rest)
    | 'P' => (property? extended true s).map fun (e, rest) => (.set e, rest)
    | 'd' => some (.set (.shorthand .digit false), s)
    | 'D' => some (.set (.shorthand .digit true), s)
    | 's' => some (.set (.shorthand .space false), s)
    | 'S' => some (.set (.shorthand .space true), s)
    | 'w' => some (.set (.shorthand .word false), s)
    | 'W' => some (.set (.shorthand .word true), s)
    | 'a' => char 7
    | 'f' => char 12
    | 't' => char 9
    | 'n' => char 10
    | 'r' => char 13
    | 'v' => char 11
    | 'A' => some (.assertion .textStart, s)
    | 'z' => some (.assertion .textStop, s)
    | 'b' => (wordEdge? extended s).map fun (a, rest) => (.assertion a, rest)
    | 'B' => some (.assertion .notWordEdge, s)
    | '<' => some (.assertion .wordStart, s)
    | '>' => some (.assertion .wordStop, s)
    | c => if isEscapable c then char c.toNat else none

/-- A member of a bracketed set or an end of a range. -/
def setPrimitive? (extended : Bool) : List Char → Option (Primitive × List Char)
  | [] => none
  | '\\' :: s => escape? extended s
  | c :: s => some (.literal ⟨c, false⟩, s)

/-- The first character that is neither blank nor the mark of a comment, the one mark. -/
def firstPast (marked : Bool) : List Char → Option Char
  | [] => none
  | c :: s =>
    if isBlank c then firstPast marked s
    else if !marked && c == '#' then firstPast true s
    else some c

def peekPast (extended : Bool) (s : List Char) : Option Char :=
  if extended then (firstPast false s).or s.head? else s.head?

def setItem? (extended : Bool) (s : List Char) : Option (ClassExpr × List Char) :=
  match setPrimitive? extended s with
  | none => none
  | some (first, rest) =>
    let alone := match first with
      | .literal l => some (ClassExpr.literal l, skip extended rest)
      | .set e => some (e, skip extended rest)
      | .assertion _ => none
    match skip extended rest with
    | [] => none
    | '-' :: after =>
      let peeked := peekPast extended after
      if peeked = some ']' ∨ peeked = some '-' then alone
      else match setPrimitive? extended (skip extended after) with
        | some (.literal high, rest) =>
          match first with
          | .literal low => if low.char ≤ high.char then some (.range low high, rest) else none
          | _ => none
        | _ => none
    | _ => alone

def posixOfName? : String → Option Posix
  | "alnum" => some .alnum
  | "alpha" => some .alpha
  | "ascii" => some .ascii
  | "blank" => some .blank
  | "cntrl" => some .cntrl
  | "digit" => some .digit
  | "graph" => some .graph
  | "lower" => some .lower
  | "print" => some .print
  | "punct" => some .punct
  | "space" => some .space
  | "upper" => some .upper
  | "word" => some .word
  | "xdigit" => some .xdigit
  | _ => none

def posix? : List Char → Option (ClassExpr × List Char)
  | ':' :: s =>
    let (negated, s) := match s with
      | '^' :: rest => (true, rest)
      | rest => (false, rest)
    match posixOfName? (String.ofList (s.takeWhile (· != ':'))), s.dropWhile (· != ':') with
    | some set, ':' :: ']' :: rest => some (.posix set negated, rest)
    | _, _ => none
  | _ => none

/-- What an opening bracket brings with it, after that bracket: whether the set is negated, and
leading members that would elsewhere be marks. -/
def openSet? (extended : Bool) (s : List Char) : Option (Bool × List ClassExpr × List Char) :=
  let (negated, s) := match skip extended s with
    | '^' :: rest => (true, skip extended rest)
    | rest => (false, rest)
  let (dashes, s) := takeRun extended (· == '-') s
  let items := dashes.map fun c => ClassExpr.literal ⟨c, false⟩
  match items, s with
  | _, [] => none
  | [], ']' :: rest =>
    match skip extended rest with
    | [] => none
    | rest => some (negated, [.literal ⟨']', false⟩], rest)
  | items, rest => some (negated, items, rest)

/-- Joins the members read last to the operation that waits for them. -/
def closeOperation (pending : Option (SetOperation × ClassExpr)) (items : List ClassExpr) :
    ClassExpr :=
  match pending with
  | some (op, left) => .operation op left (.ofItems items.reverse)
  | none => .ofItems items.reverse

/-- Reads a bracketed set up to its closing bracket. `items` are the members read since the last
operation, latest first. -/
def setBody? (extended : Bool) : Nat → Option (SetOperation × ClassExpr) → List ClassExpr →
    List Char → Option (ClassExpr × List Char)
  | 0, _, _, _ => none
  | fuel + 1, pending, items, s =>
    let operate := fun op rest =>
      setBody? extended fuel (some (op, closeOperation pending items)) [] rest
    match skip extended s with
    | [] => none
    | '[' :: rest =>
      match posix? rest with
      | some (item, rest) => setBody? extended fuel pending (item :: items) rest
      | none =>
        match openSet? extended rest with
        | none => none
        | some (negated, first, rest) =>
          match setBody? extended fuel none first.reverse rest with
          | none => none
          | some (body, rest) =>
            setBody? extended fuel pending (.bracket negated body :: items) rest
    | ']' :: rest => some (closeOperation pending items, rest)
    | '&' :: '&' :: rest => operate .intersection rest
    | '-' :: '-' :: rest => operate .difference rest
    | '~' :: '~' :: rest => operate .symmetricDifference rest
    | s =>
      match setItem? extended s with
      | some (item, rest) => setBody? extended fuel pending (item :: items) rest
      | none => none

def set? (extended : Bool) (s : List Char) : Option (ClassExpr × List Char) :=
  match openSet? extended s with
  | none => none
  | some (negated, first, rest) =>
    (setBody? extended (rest.length + 1) none first.reverse rest).map fun (body, rest) =>
      (.bracket negated body, rest)

/-- A decimal number below `2 ^ 32`, with blanks around it. -/
def count? (extended : Bool) (s : List Char) : Option Nat × List Char :=
  let (digits, rest) := takeRun extended Char.isDigit (s.dropWhile isBlank)
  let value := digits.foldl (fun n c => 10 * n + (c.toNat - 48)) 0
  (if digits.isEmpty || Nat.pow 2 32 ≤ value then none else some value,
    (takeRun extended isBlank rest).2)

/-- Whether a repetition is greedy: a question mark after it makes it reluctant. -/
def greed : List Char → Bool × List Char
  | '?' :: s => (false, s)
  | s => (true, s)

def bounds? (extended : Bool) (s : List Char) : Option ((Nat × Option Nat) × List Char) :=
  let (least, rest) := count? extended (skip extended s)
  let finish := fun (bounds : Nat × Option Nat) (rest : List Char) =>
    match rest with
    | '\x7d' :: rest =>
      if bounds.2.all (bounds.1 ≤ ·) then some (bounds, skip extended rest) else none
    | _ => none
  match least, rest with
  | some least, ',' :: rest =>
    match skip extended rest with
    | '\x7d' :: rest => finish (least, none) ('\x7d' :: rest)
    | rest =>
      match count? extended rest with
      | (some most, rest) => finish (least, some most) rest
      | (none, _) => none
  | some least, rest => finish (least, some least) rest
  | none, _ => none

def Flag.ofChar? : Char → Option Flag
  | 'i' => some .ignoreCase
  | 'm' => some .multiLine
  | 's' => some .dotAll
  | 'U' => some .swapGreed
  | 'u' => some .unicode
  | 'R' => some .crlf
  | 'x' => some .extended
  | _ => none

/-- Reads flags up to a colon or a closing parenthesis, and returns which of the two ended them.
`negating` and `dangling` say that a minus sign has been read, and that it was read last. -/
def flags? (negating dangling : Bool) (found : Switches) :
    List Char → Option (Switches × Char × List Char)
  | [] => none
  | c :: s =>
    if c = ':' ∨ c = ')' then if dangling then none else some (found.reverse, c, s)
    else if c = '-' then if negating then none else flags? true true found s
    else match Flag.ofChar? c with
      | none => none
      | some f =>
        if found.any (·.1 = f) then none else flags? negating false ((f, !negating) :: found) s

/-- Letters and digits of all scripts, and a few marks after the first, make a group name. -/
def isNameChar (first : Bool) (c : Char) : Bool :=
  c == '_' || Unicode.Edition17.letters.contains c ||
    (!first && (c == '.' || c == '[' || c == ']' || Unicode.Edition17.numbers.contains c))

def groupName? (s : List Char) : Option (String × List Char) :=
  match s.takeWhile (· != '>'), s.dropWhile (· != '>') with
  | c :: name, _ :: rest =>
    if isNameChar true c && name.all (isNameChar false) then some (String.ofList (c :: name), rest)
    else none
  | _, _ => none

inductive Opening where
  | switches (s : Switches)
  | group (s : Switches)
  | numbered
  | named (name : String)

def opening? (extended : Bool) (s : List Char) : Option (Opening × List Char) :=
  match skip extended s with
  | '?' :: '=' :: _ | '?' :: '!' :: _ | '?' :: '<' :: '=' :: _ | '?' :: '<' :: '!' :: _ => none
  | '?' :: 'P' :: '<' :: rest | '?' :: '<' :: rest =>
    (groupName? rest).map fun (name, rest) => (.named name, rest)
  | '?' :: rest =>
    match flags? false false [] rest with
    | some ([], ')', _) => none
    | some (switches, ')', rest) => some (.switches switches, rest)
    | some (switches, _, rest) => some (.group switches, rest)
    | none => none
  | rest => some (.numbered, rest)

def Switches.extended (s : Switches) (before : Bool) : Bool :=
  (s.reverse.lookup .extended).getD before

/-- Repeats the part read last. There must be one, and switches are none. -/
def repeatLast? (items : List Expr) (least : Nat) (most : Option Nat) (greedy : Bool) :
    Option (List Expr) :=
  match items with
  | [] | .empty :: _ | .switches _ :: _ => none
  | e :: rest => some (.repeated e least most greedy :: rest)

/-- What is left of a pattern, and the groups that have been numbered so far, with their names,
the latest first. -/
structure Progress where
  rest : List Char
  groups : List (Option String)

/-- Reads alternatives up to the end of the pattern or the parenthesis that closes their group.
`branches` are the alternatives read, and `items` the parts of the present one, latest first. -/
def alternatives? : Nat → Bool → List (Option String) → List Expr → List Expr → List Char →
    Option (Expr × Progress)
  | 0, _, _, _, _, _ => none
  | fuel + 1, extended, groups, branches, items, s =>
    let branch := Expr.concatenation items.reverse
    let finish := fun rest => some (Expr.alternation (branch :: branches).reverse, ⟨rest, groups⟩)
    let continueWith := fun item rest =>
      alternatives? fuel extended groups branches (item :: items) rest
    let repeating := fun (least : Nat) (most : Option Nat) (rest : List Char) =>
      let (greedy, rest) := greed rest
      match repeatLast? items least most greedy with
      | some items => alternatives? fuel extended groups branches items rest
      | none => none
    let capture := fun (name : Option String) (rest : List Char) =>
      match alternatives? fuel extended (name :: groups) [] [] rest with
      | some (e, ⟨')' :: rest, inner⟩) =>
        let item := .capture (groups.length + 1) e
        alternatives? fuel extended inner branches (item :: items) rest
      | _ => none
    match skip extended s with
    | [] => finish []
    | ')' :: rest => finish (')' :: rest)
    | '|' :: rest => alternatives? fuel extended groups (branch :: branches) [] rest
    | '(' :: rest =>
      match opening? extended rest with
      | none => none
      | some (.switches switches, rest) =>
        let items := .switches switches :: items
        alternatives? fuel (switches.extended extended) groups branches items rest
      | some (.group switches, rest) =>
        match alternatives? fuel (switches.extended extended) groups [] [] rest with
        | some (e, ⟨')' :: rest, inner⟩) =>
          alternatives? fuel extended inner branches (.group switches e :: items) rest
        | _ => none
      | some (.numbered, rest) => capture none rest
      | some (.named name, rest) =>
        if some name ∈ groups then none else capture (some name) rest
    | '[' :: rest =>
      match set? extended rest with
      | some (e, rest) => continueWith (.set e) rest
      | none => none
    | '?' :: rest => repeating 0 (some 1) rest
    | '*' :: rest => repeating 0 none rest
    | '+' :: rest => repeating 1 none rest
    | '\x7b' :: rest =>
      match bounds? extended rest with
      | some ((least, most), rest) => repeating least most rest
      | none => none
    | '\\' :: rest =>
      match escape? extended rest with
      | some (.literal l, rest) => continueWith (.literal l) rest
      | some (.assertion a, rest) => continueWith (.assertion a) rest
      | some (.set e, rest) => continueWith (.set e) rest
      | none => none
    | '.' :: rest => continueWith .dot rest
    | '^' :: rest => continueWith (.assertion .lineStart) rest
    | '$' :: rest => continueWith (.assertion .lineStop) rest
    | c :: rest => continueWith (.literal ⟨c, false⟩) rest

/-- The deepest nesting that is read. -/
def maxDepth : Nat := 250

def read? (pattern : String) : Option Expr :=
  let s := pattern.toList
  match alternatives? (s.length + 1) false [] [] [] s with
  | some (e, ⟨[], _⟩) => if e.depth none ≤ maxDepth then some e else none
  | _ => none

end SheetTables.Pattern
