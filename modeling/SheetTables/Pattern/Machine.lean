import Std.Data.HashMap
import SheetTables.Pattern.Normal
import SheetTables.Unicode.Utf8

/-! # Machines of regular expressions

A regular expression is run by machines of states that read bytes: one that reads a text forward,
with a state where each group begins and ends, and one that reads it backward. A machine has a
size, and an expression is refused if either of its machines would be larger than a limit. Here
machines are not made, but counted state by state.
-/

namespace SheetTables.Machine

inductive Way where
  | forward | backward
deriving DecidableEq

/-- What a machine is made of: states, the branches of states that choose among others, and the
ranges of states that read one of several bytes. -/
structure Cost where
  states : Nat
  branches : Nat
  ranges : Nat
deriving DecidableEq

instance : Add Cost :=
  ⟨fun a b => ⟨a.states + b.states, a.branches + b.branches, a.ranges + b.ranges⟩⟩

def Cost.size (c : Cost) : Nat := 32 * c.states + 4 * c.branches + 8 * c.ranges

def Cost.sum (cs : List Cost) : Cost := cs.foldl (· + ·) ⟨0, 0, 0⟩

/-- The most bytes that a machine may take. -/
def maxSize : Nat := 10 * Nat.pow 2 20

/-- States that may be used again within one set, with their keys and numbers, by the slot of
the key. Of the states whose keys have the same slot, only the latest is kept. -/
abbrev Kept := Std.HashMap Nat (List Nat × Nat)

structure Sharing where
  cost : Cost
  kept : Kept

/-- The mark of a key, from which its slot is taken: each number is mixed in by a product with a
prime. -/
def mark (key : List Nat) : UInt64 :=
  key.foldl (fun h n => (h ^^^ n.toUInt64) * 1099511628211) 14695981039346656037

def Sharing.state (s : Sharing) (slots ranges : Nat) (key : List Nat) : Nat × Sharing :=
  let slot := (mark key).toNat % slots
  match (s.kept[slot]?).filter (·.1 = key) with
  | some (_, number) => (number, s)
  | none =>
    let number := s.cost.states
    (number, ⟨s.cost + ⟨1, 0, ranges⟩, s.kept.insert slot (key, number)⟩)

/-- The ranges of a state that reads the first bytes in a tree, each with the state that it leads
to. The last byte of a character leads to `target`. -/
def forwardRanges (target : Nat) : Unicode.Utf8.Branches → Sharing → List Nat × Sharing
  | .none, s => ([], s)
  | .branch low high inner rest, s =>
    let (next, s) :=
      if inner.isNone then (target, s)
      else
        let (key, s) := forwardRanges target inner s
        s.state 10000 (key.length / 3) key
    let (key, s) := forwardRanges target rest s
    (low :: high :: next :: key, s)

/-- The states that read a sequence of byte ranges backward, from the last to the first. -/
def backwardStates (target : Nat) (seq : List (Nat × Nat)) (s : Sharing) : Sharing :=
  (seq.foldl (fun (next, s) (low, high) => s.state 1000 0 [next, low, high]) (target, s)).2

inductive Piece where
  | bytes (bs : List Nat)
  | ascii (ranges : Nat)
  | tree (b : Unicode.Utf8.Branches)
  | sequences (seqs : List (List (Nat × Nat)))
  | look

def Piece.ofAtom (way : Way) : Atom → Piece
  | .literal text =>
    let bs := text.flatMap fun c => Unicode.Utf8.encode c.toNat
    .bytes (if way = .forward then bs else bs.reverse)
  | .set s =>
    if s.isAscii then .ascii s.ranges.length
    else
      let seqs := s.ranges.flatMap Unicode.Utf8.sequences
      if way = .forward then .tree (.ofSequences seqs) else .sequences seqs
  | .look _ => .look

/-- How much a piece reads, if it can match at all; only what looks at a place reads nothing. -/
def Piece.width? : Piece → Option Nat
  | .bytes bs => some bs.length
  | .ascii ranges => if ranges = 0 then none else some 1
  | .look => some 0
  | _ => some 1

def Piece.addTo (c : Cost) : Piece → Cost
  | .bytes bs => c + ⟨bs.length, 0, 0⟩
  | .ascii ranges => c + ⟨2, 0, ranges⟩
  | .tree b =>
    let (key, s) := forwardRanges c.states b ⟨c + ⟨1, 0, 0⟩, ∅⟩
    (s.state 10000 (key.length / 3) key).2.cost
  | .sequences seqs =>
    let s := seqs.foldl (fun s seq => backwardStates (c.states + 1) seq s) ⟨c + ⟨2, 0, 0⟩, ∅⟩
    s.cost + ⟨0, seqs.length, 0⟩
  | .look => c + ⟨1, 0, 0⟩

def words? : Regex Piece → Option (List (List Nat))
  | .atom (.bytes bs) => some [bs]
  | .alt (.atom (.bytes bs)) s => (words? s).map (bs :: ·)
  | _ => none

def chunks : List (List Nat) → List (List (List Nat))
  | [] => []
  | [] :: ws => [] :: chunks ws
  | w :: ws =>
    match chunks ws with
    | [] => [[w]]
    | c :: cs => (w :: c) :: cs

def afterByte (b : Nat) (ws : List (List Nat)) : List (List Nat) :=
  ws.filterMap fun w => if w.head? = some b then some w.tail else none

/-- The states that read on by words of at most some length. An empty word is a way to the end,
which stands in its place among the others; of those that come first, one is enough. -/
def wordCost : Nat → List (List Nat) → Cost
  | 0, _ => ⟨0, 0, 0⟩
  | length + 1, words =>
    let rest := words.dropWhile List.isEmpty
    if rest.isEmpty then ⟨0, 0, 0⟩
    else
      let parts := (chunks rest).filter (!·.isEmpty)
      let stops := min 1 (words.takeWhile List.isEmpty).length + rest.count []
      let partCost := fun part : List (List Nat) =>
        let bytes := (part.filterMap List.head?).eraseDups
        ⟨1, 0, if bytes.length = 1 then 0 else bytes.length⟩ +
          .sum (bytes.map fun b => wordCost length (afterByte b part))
      .sum (parts.map partCost) + ⟨1, parts.length + stops, 0⟩

/-- What has been made so far, and whether its last state chooses among others, so that a further
branch leads on from it. -/
structure Fragment where
  cost : Cost
  forks : Bool

def Fragment.linked (f : Fragment) : Cost :=
  f.cost + ⟨0, f.forks.toNat, 0⟩

/-- How an expression stands in a choice: in none, or as the second alternative, after one whose
last state forks or not, or as a later one. -/
inductive Standing where
  | alone
  | second (forks : Bool)
  | later

/-- Adds what a choice needs for an alternative, and refuses what is too large. -/
def Standing.join? (p : Standing) (f : Fragment) : Option Fragment :=
  let joined := match p with
    | alone => f
    | second forks => ⟨f.linked + ⟨2, 2 + forks.toNat, 0⟩, false⟩
    | later => ⟨f.linked + ⟨0, 1, 0⟩, false⟩
  if joined.cost.size ≤ maxSize then some joined else none

def chain? (part : Cost → Option Fragment) : Nat → Fragment → Option Fragment
  | 0, f => some f
  | n + 1, f =>
    match part f.linked with
    | some g => chain? part n g
    | none => none

/-- Chains copies to a fragment, before each of which a choice leads to the end. -/
def chainOptional? (part : Cost → Option Fragment) : Nat → Fragment → Option Fragment
  | 0, f => some ⟨f.linked, false⟩
  | n + 1, f =>
    match part (f.linked + ⟨1, 2, 0⟩) with
    | some g => chainOptional? part n g
    | none => none

def exactly? (part : Cost → Option Fragment) (c : Cost) : Nat → Option Fragment
  | 0 => some ⟨c + ⟨1, 0, 0⟩, false⟩
  | n + 1 =>
    match part c with
    | some f => chain? part n f
    | none => none

/-- Repeats a part without a bound; `advances` says that the part never matches the empty text,
so that a single choice is enough. -/
def atLeast? (part : Cost → Option Fragment) (advances : Bool) (c : Cost) :
    Nat → Option Fragment
  | 0 =>
    if advances then (part (c + ⟨1, 1, 0⟩)).map fun f => ⟨f.linked, true⟩
    else (part c).map fun f => ⟨f.linked + ⟨3, 4, 0⟩, false⟩
  | 1 => (part c).map fun f => ⟨f.linked + ⟨1, 1, 0⟩, true⟩
  | n + 2 =>
    match exactly? part c (n + 1) with
    | some f => (part f.linked).map fun g => ⟨g.linked + ⟨1, 1, 0⟩, true⟩
    | none => none

def repeated? (part : Cost → Option Fragment) (advances : Bool) (least : Nat)
    (most : Option Nat) (c : Cost) : Option Fragment :=
  match most with
  | none => atLeast? part advances c least
  | some most =>
    if least = 0 ∧ most = 1 then
      (part (c + ⟨1, 2, 0⟩)).map fun f => ⟨f.linked + ⟨1, 0, 0⟩, false⟩
    else
      match exactly? part c least with
      | some f =>
        if least = most then some f
        else chainOptional? part (most - least) ⟨f.cost + ⟨1, 0, 0⟩, f.forks⟩
      | none => none

/-- Adds the machine of an expression to what has been made, unless it grows too large. -/
def add? (way : Way) : Regex Piece → Standing → Cost → Option Fragment
  | .empty, p, c => p.join? ⟨c + ⟨1, 0, 0⟩, false⟩
  | .atom a, p, c => p.join? ⟨a.addTo c, false⟩
  | .cat r s, p, c =>
    match way with
    | .forward =>
      match add? way r .alone c with
      | some f => (add? way s .alone f.linked).bind p.join?
      | none => none
    | .backward =>
      match add? way s .alone c with
      | some f => (add? way r .alone f.linked).bind p.join?
      | none => none
  | .alt r s, .alone, c =>
    match words? (.alt r s) with
    | some words =>
      let longest := (words.map List.length).foldl max 0
      Standing.alone.join? ⟨c + ⟨1, 0, 0⟩ + wordCost longest words, false⟩
    | none =>
      match add? way r .alone c with
      | some f => add? way s (.second f.forks) f.cost
      | none => none
  | .alt r s, p, c =>
    match (add? way r .alone c).bind p.join? with
    | some f => add? way s .later f.cost
    | none => none
  | .repeated r least most _, p, c =>
    let advances := (r.minLength Piece.width?).any (0 < ·)
    (repeated? (add? way r .alone) advances least most c).bind p.join?
  | .capture _ r, p, c =>
    match way with
    | .forward =>
      match add? way r .alone (c + ⟨1, 0, 0⟩) with
      | some f => p.join? ⟨f.linked + ⟨1, 0, 0⟩, false⟩
      | none => none
    | .backward => (add? way r .alone c).bind p.join?

/-- The states that come before an expression: a match that need not begin at the start of a text
is found by reading any bytes before it. -/
def search (anchored : Bool) : Cost :=
  if anchored then ⟨1, 0, 0⟩ else ⟨3, 2, 1⟩

def fits (r : Regex Atom) : Bool :=
  [(Way.forward, r.isAnchoredAtStart), (.backward, r.isAnchoredAtStop)].all fun (way, anchored) =>
    match add? way (.capture 0 (r.map (Piece.ofAtom way))) .alone (search anchored) with
    | some f => (f.linked + ⟨1, 0, 0⟩).size ≤ maxSize
    | none => false

end SheetTables.Machine
