import SheetTables.Pattern.Class

/-! # Regular expressions on a text

A regular expression is built from atoms: texts, sets of characters, and looks at a place.
Placed on a text, each atom becomes a move between positions, and a position set is a natural
number with one bit for every position. An expression carries a position set to the set of
positions at which a match that began in the first set may end. A text holds a match if the set
of all its positions is carried to a set that is not empty; which match is found first plays no
part.
-/

namespace SheetTables

/-- Concatenations and alternations of several parts nest to the right. Greed and the numbers of
captures tell expressions apart and change no match. -/
inductive Regex (α : Type) where
  | empty
  | atom (a : α)
  | cat (r s : Regex α)
  | alt (r s : Regex α)
  | repeated (r : Regex α) (least : Nat) (most : Option Nat) (greedy : Bool)
  | capture (index : Nat) (r : Regex α)
deriving DecidableEq

namespace Regex

variable {α β : Type}

def map (f : α → β) : Regex α → Regex β
  | empty => empty
  | atom a => atom (f a)
  | cat r s => cat (r.map f) (s.map f)
  | alt r s => alt (r.map f) (s.map f)
  | repeated r least most greedy => repeated (r.map f) least most greedy
  | capture index r => capture index (r.map f)

end Regex

/-- Which edge of a word is asked for. The half edges ask about one side alone. -/
inductive WordEdge where
  | any | none | start | stop | startHalf | stopHalf
deriving DecidableEq

def WordEdge.holds (before after : Bool) : WordEdge → Bool
  | any => before != after
  | none => before == after
  | start => !before && after
  | stop => before && !after
  | startHalf => !before
  | stopHalf => !after

inductive Look where
  | start | stop
  | lineStart | lineStop
  | crlfStart | crlfStop
  | word (edge : WordEdge) (unicode : Bool)
deriving DecidableEq

/-- Whether the place between two characters is as asked, an end of the text being no character. -/
def Look.holds (before after : Option Char) : Look → Bool
  | start => before.isNone
  | stop => after.isNone
  | lineStart => before.all (· == '\n')
  | lineStop => after.all (· == '\n')
  | crlfStart => before.all fun c => c == '\n' || (c == '\r' && after != some '\n')
  | crlfStop => after.all fun c => c == '\r' || (c == '\n' && before != some '\r')
  | word edge unicode =>
    let isWord := (Pattern.Shorthand.set unicode .word).contains
    edge.holds (before.any isWord) (after.any isWord)

/-- An atom reads a text, reads a character of a set, or looks at a place. -/
inductive Atom where
  | literal (text : List Char)
  | set (s : CharSet)
  | look (l : Look)
deriving DecidableEq

/-- A move from the positions in `mask` forward by `width` characters. -/
structure Move where
  mask : Nat
  width : Nat

def Move.apply (m : Move) (positions : Nat) : Nat :=
  (positions &&& m.mask) <<< m.width

/-- The mask of the places that satisfy a test on the character before and the text after. -/
def placesWhere (test : Option Char → List Char → Bool) (before : Option Char) : List Char → Nat
  | [] => (test before []).toNat
  | c :: s => (test before (c :: s)).toNat + 2 * placesWhere test (some c) s

def Atom.move (text : List Char) : Atom → Move
  | literal s => ⟨placesWhere (fun _ after => s.isPrefixOf after) none text, s.length⟩
  | set s => ⟨placesWhere (fun _ after => after.head?.any s.contains) none text, 1⟩
  | look l => ⟨placesWhere (fun before after => l.holds before after.head?) none text, 0⟩

/-- Applies `f` at most `n` times, and no longer once it changes nothing. -/
def settle (f : Nat → Nat) : Nat → Nat → Nat
  | 0, x => x
  | n + 1, x => if f x = x then x else settle f n (f x)

namespace Regex

/-- The ends of matches that begin in a position set. Repetitions beyond `rounds` reach nothing
new, once that is the number of positions. -/
def ends (rounds : Nat) : Regex Move → Nat → Nat
  | empty, positions => positions
  | atom m, positions => m.apply positions
  | cat r s, positions => s.ends rounds (r.ends rounds positions)
  | alt r s, positions => r.ends rounds positions ||| s.ends rounds positions
  | repeated r least most _, positions =>
    let further := match most with
      | none => rounds
      | some m => min (m - least) rounds
    settle (fun x => x ||| r.ends rounds x) further
      (settle (fun x => r.ends rounds x) (min least rounds) positions)
  | capture _ r, positions => r.ends rounds positions

def matchesIn (r : Regex Atom) (text : String) : Bool :=
  let cs := text.toList
  let rounds := cs.length + 1
  (r.map (Atom.move cs)).ends rounds (Nat.pow 2 rounds - 1) != 0

end Regex
end SheetTables
