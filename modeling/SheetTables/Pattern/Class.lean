import SheetTables.Pattern.Syntax
import SheetTables.Unicode.Age
import SheetTables.Unicode.CaseFolding
import SheetTables.Unicode.Category
import SheetTables.Unicode.Property
import SheetTables.Unicode.Script
import SheetTables.Unicode.Segmentation

/-! # Classes of characters in patterns

The sets that the classes of a pattern stand for. With the Unicode flag off only ASCII is known:
a class that would hold more than ASCII is refused, because a text is never cut inside a
character.
-/

namespace SheetTables.Pattern

def unionOf (sets : List CharSet) : CharSet :=
  sets.foldl CharSet.union .none

def digits : CharSet := .range '0' '9'

def smallLetters : CharSet := .range 'a' 'z'

def capitals : CharSet := .range 'A' 'Z'

def letters : CharSet := capitals.union smallLetters

def asciiBlanks : CharSet := (CharSet.range '\t' '\r').union (.single ' ')

def asciiWord : CharSet := unionOf [letters, digits, .single '_']

/-- Letters, marks, decimal digits, connectors and the two joiners make words. -/
def unicodeWord : CharSet :=
  unionOf [(Unicode.property? "alphabetic").getD .none,
    Unicode.categorySet ["mn", "mc", "me", "nd", "pc"], .range '\u200c' '\u200d']

def unicodeDigits : CharSet := Unicode.categorySet ["nd"]

def unicodeBlanks : CharSet := (Unicode.property? "whitespace").getD .none

def Posix.set : Posix → CharSet
  | .alnum => letters.union digits
  | .alpha => letters
  | .ascii => .range '\x00' '\x7f'
  | .blank => (CharSet.single '\t').union (.single ' ')
  | .cntrl => (CharSet.range '\x00' '\x1f').union (.single '\x7f')
  | .digit => digits
  | .graph => .range '!' '~'
  | .lower => smallLetters
  | .print => .range ' ' '~'
  | .punct => (CharSet.range '!' '~').difference (letters.union digits)
  | .space => asciiBlanks
  | .upper => capitals
  | .word => asciiWord
  | .xdigit => unionOf [digits, .range 'A' 'F', .range 'a' 'f']

def Shorthand.set (unicode : Bool) : Shorthand → CharSet
  | .digit => if unicode then unicodeDigits else digits
  | .space => if unicode then unicodeBlanks else asciiBlanks
  | .word => if unicode then unicodeWord else asciiWord

/-- Names of properties are compared in lower case and without blanks, underscores and hyphens,
nor with a leading `is`; characters outside ASCII do not count. -/
def normalName (name : String) : String :=
  let strip := fun s : List Char =>
    (s.filter fun c => c.toNat < 128 && c != ' ' && c != '_' && c != '-').map Char.toLower
  match name.toList with
  | a :: b :: rest =>
    if a.toLower = 'i' ∧ b.toLower = 's' then
      if strip rest = ['c'] then "isc" else String.ofList (strip rest)
    else String.ofList (strip (a :: b :: rest))
  | s => String.ofList (strip s)

def categorySet? (name : String) : Option CharSet :=
  match name with
  | "any" => some .all
  | "assigned" => (Unicode.category? "cn").map CharSet.complement
  | "ascii" => some (.range '\x00' '\x7f')
  | _ => Unicode.category? name

/-- A name alone is a property, a general category or a script; three short names are known as
categories and never as properties. -/
def Query.set? : Query → Option CharSet
  | .named name =>
    let name := normalName name
    let property := if name ∈ ["cf", "sc", "lc"] then none else Unicode.property? name
    property.or ((categorySet? name).or (Unicode.scripts.find? name))
  | .valued name value =>
    let value := normalName value
    match normalName name with
    | "gc" | "generalcategory" => categorySet? value
    | "sc" | "script" => Unicode.scripts.find? value
    | "scx" | "scriptextensions" => Unicode.scriptExtensions.find? value
    | "age" => Unicode.age? value
    | "gcb" | "graphemeclusterbreak" => Unicode.graphemeBreaks.find? value
    | "wb" | "wordbreak" => Unicode.wordBreaks.find? value
    | "sb" | "sentencebreak" => Unicode.sentenceBreaks.find? value
    | _ => none

/-- How the members of sets are read. -/
structure SetMode where
  unicode : Bool
  ignoreCase : Bool

def SetMode.fold (m : SetMode) (s : CharSet) : CharSet :=
  if !m.ignoreCase then s else if m.unicode then s.fold else s.foldAscii

/-- Takes the complement if asked. Without the Unicode flag that holds more than ASCII. -/
def SetMode.negate? (m : SetMode) (negated : Bool) (s : CharSet) : Option CharSet :=
  if !negated then some s else if m.unicode then some s.complement else none

def SetMode.member? (m : SetMode) (l : Literal) : Option Char :=
  if m.unicode || l.char.toNat < 128 then some l.char else none

def SetOperation.apply : SetOperation → CharSet → CharSet → CharSet
  | .intersection => CharSet.intersection
  | .difference => CharSet.difference
  | .symmetricDifference => CharSet.symmetricDifference

def ClassExpr.set? (m : SetMode) : ClassExpr → Option CharSet
  | .empty => some .none
  | .literal l => (m.member? l).map CharSet.single
  | .range low high =>
    match m.member? low, m.member? high with
    | some a, some b => some (.range a b)
    | _, _ => none
  | .posix p negated => m.negate? negated (m.fold p.set)
  | .shorthand s negated => m.negate? negated (s.set m.unicode)
  | .property q negated =>
    if m.unicode then q.set?.bind fun s => m.negate? negated (m.fold s) else none
  | .bracket negated e => (e.set? m).bind fun s => m.negate? negated (m.fold s)
  | .union a b =>
    match a.set? m, b.set? m with
    | some s, some t => some (s.union t)
    | _, _ => none
  | .operation op a b =>
    match a.set? m, b.set? m with
    | some s, some t => some (op.apply (m.fold s) (m.fold t))
    | _, _ => none

end SheetTables.Pattern
