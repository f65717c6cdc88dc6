import SheetTables.Pattern.Regex

/-! # Normal form of regular expressions

Expressions are built in a normal form: texts that stand side by side are one text, a set of one
character is a text, a choice among characters is a set, alternatives give out what they begin
with in common, and what can only match nothing is repeated once at most. The normal form is
what the size of a machine is counted on.
-/

namespace SheetTables

/-- How many characters an atom reads, if it can match at all. -/
def Atom.width? : Atom → Option Nat
  | literal s => some s.length
  | set s => if s.isEmpty then none else some 1
  | look _ => some 0

namespace Regex

def parts {α : Type} : Regex α → List (Regex α)
  | empty => []
  | cat r s => r :: s.parts
  | r => [r]

def choices {α : Type} : Regex α → List (Regex α)
  | alt r s => r :: s.choices
  | r => [r]

def ofParts {α : Type} : List (Regex α) → Regex α
  | [] => empty
  | [r] => r
  | r :: rs => cat r (ofParts rs)

/-- The shortest match, if there is any, given the lengths of what atoms match. -/
def minLength {α : Type} (width? : α → Option Nat) : Regex α → Option Nat
  | empty => some 0
  | atom a => width? a
  | cat r s =>
    match r.minLength width?, s.minLength width? with
    | some m, some n => some (m + n)
    | _, _ => none
  | alt r s =>
    match r.minLength width?, s.minLength width? with
    | some m, some n => some (min m n)
    | _, _ => none
  | repeated r least _ _ => (r.minLength width?).map (least * ·)
  | capture _ r => r.minLength width?

def maxLength {α : Type} (width? : α → Option Nat) : Regex α → Option Nat
  | empty => some 0
  | atom a => width? a
  | cat r s =>
    match r.maxLength width?, s.maxLength width? with
    | some m, some n => some (m + n)
    | _, _ => none
  | alt r s =>
    match r.maxLength width?, s.maxLength width? with
    | some m, some n => some (max m n)
    | _, _ => none
  | repeated r _ most _ =>
    match r.maxLength width?, most with
    | some m, some n => some (n * m)
    | _, _ => none
  | capture _ r => r.maxLength width?

def isEmptyOnly (r : Regex Atom) : Bool := r.maxLength Atom.width? == some 0

def never : Regex Atom := atom (.set .none)

def ofSet (s : CharSet) : Regex Atom :=
  match s.single? with
  | some c => atom (.literal [c])
  | none => atom (.set s)

def joinTexts : List (Regex Atom) → List (Regex Atom)
  | [] => []
  | r :: rs =>
    match r, joinTexts rs with
    | atom (.literal s), atom (.literal t) :: rest => atom (.literal (s ++ t)) :: rest
    | r, rest => r :: rest

def concat (rs : List (Regex Atom)) : Regex Atom :=
  ofParts (joinTexts (rs.flatMap parts))

def singleChar? : Regex Atom → Option Char
  | atom (.literal [c]) => some c
  | _ => none

def set? : Regex Atom → Option CharSet
  | atom (.set s) => some s
  | _ => none

def ofChoices : List (Regex Atom) → Regex Atom
  | [] => never
  | [r] => r
  | r :: rs => alt r (ofChoices rs)

/-- A choice among alternatives. If all of them are single characters, or all of them sets, it
is a set. -/
def choice (rs : List (Regex Atom)) : Regex Atom :=
  match rs.flatMap choices with
  | [] => never
  | [r] => r
  | all =>
    match all.mapM singleChar?, all.mapM set? with
    | some cs, _ => ofSet (Pattern.unionOf (cs.map CharSet.single))
    | none, some sets => ofSet (Pattern.unionOf sets)
    | none, none => ofChoices all

def commonPart (rs ss : List (Regex Atom)) : List (Regex Atom) :=
  match rs, ss with
  | r :: rs, s :: ss => if r = s then r :: commonPart rs ss else []
  | _, _ => []

/-- What all alternatives begin with in common, if all of them are concatenations. -/
def commonStart (rs : List (Regex Atom)) : List (Regex Atom) :=
  if rs.all fun r => 1 < r.parts.length then
    match rs.map parts with
    | [] => []
    | first :: others => others.foldl commonPart first
  else []

/-- A choice in which what all alternatives begin with stands before it. -/
def alternation (rs : List (Regex Atom)) : Regex Atom :=
  let whole := choice rs
  let all := whole.choices
  let start := commonStart all
  if all.length ≤ 1 || start.isEmpty then whole
  else concat (start ++ [choice (all.map fun r => concat (r.parts.drop start.length))])

/-- A repetition. What matches nothing but the empty text is repeated once at most. -/
def repetition (r : Regex Atom) (least : Nat) (most : Option Nat) (greedy : Bool) :
    Regex Atom :=
  let once := r.isEmptyOnly
  let least := if once then min least 1 else least
  let most := if once then some ((most.map (min 1 ·)).getD 1) else most
  if least = 0 ∧ most = some 0 then empty
  else if least = 1 ∧ most = some 1 then r
  else repeated r least most greedy

def isAnchoredAtStart : Regex Atom → Bool
  | atom (.look .start) => true
  | cat r s => r.isAnchoredAtStart || (r.isEmptyOnly && s.isAnchoredAtStart)
  | alt r s => r.isAnchoredAtStart && s.isAnchoredAtStart
  | repeated r least _ _ => 0 < least && r.isAnchoredAtStart
  | capture _ r => r.isAnchoredAtStart
  | _ => false

def isAnchoredAtStop : Regex Atom → Bool
  | atom (.look .stop) => true
  | cat r s => s.isAnchoredAtStop || (s.isEmptyOnly && r.isAnchoredAtStop)
  | alt r s => r.isAnchoredAtStop && s.isAnchoredAtStop
  | repeated r least _ _ => 0 < least && r.isAnchoredAtStop
  | capture _ r => r.isAnchoredAtStop
  | _ => false

end Regex
end SheetTables
