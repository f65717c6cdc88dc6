import SheetTables.Unicode.Runs

/-! # Sets of characters

Characters are counted in order, without the gap that surrogates leave among their numbers. A
set is kept as its boundaries: the places, in order, at which membership changes, the place
before the first being outside. So each set is written in one way only, a complement adds or
drops the boundary zero, and two sets are joined in one sweep over both.
-/

namespace SheetTables

structure CharSet where
  boundaries : List Nat
deriving DecidableEq

namespace CharSet

def placeOf (code : Nat) : Nat := if code < 0xD800 then code else code - 0x800

def place (c : Char) : Nat := placeOf c.toNat

def codeAt (place : Nat) : Nat := if place < 0xD800 then place else place + 0x800

def count : Nat := 0x10F800

/-- Whether a place lies inside, where `inside` says it of what is before the boundaries. -/
def holdsFrom (inside : Bool) : List Nat → Nat → Bool
  | [], _ => inside
  | b :: bs, n => if n < b then inside else holdsFrom (!inside) bs n

def contains (s : CharSet) (c : Char) : Bool :=
  holdsFrom false s.boundaries (place c)

protected def none : CharSet := ⟨[]⟩

protected def all : CharSet := ⟨[0]⟩

def isEmpty (s : CharSet) : Bool := s.boundaries.isEmpty

def range (low high : Char) : CharSet :=
  ⟨place low :: if place high + 1 < count then [place high + 1] else []⟩

def single (c : Char) : CharSet := range c c

def complement (s : CharSet) : CharSet :=
  match s.boundaries with
  | 0 :: bs => ⟨bs⟩
  | bs => ⟨0 :: bs⟩

/-- The boundaries of what `f` makes of the membership in two sets; `a` and `b` say it of what
is before the boundaries. -/
def sweep (f : Bool → Bool → Bool) (a b : Bool) : List Nat → List Nat → List Nat
  | [], [] => []
  | x :: xs, [] =>
    let rest := sweep f (!a) b xs []
    if f (!a) b = f a b then rest else x :: rest
  | [], y :: ys =>
    let rest := sweep f a (!b) [] ys
    if f a (!b) = f a b then rest else y :: rest
  | x :: xs, y :: ys =>
    if x < y then
      let rest := sweep f (!a) b xs (y :: ys)
      if f (!a) b = f a b then rest else x :: rest
    else if y < x then
      let rest := sweep f a (!b) (x :: xs) ys
      if f a (!b) = f a b then rest else y :: rest
    else
      let rest := sweep f (!a) (!b) xs ys
      if f (!a) (!b) = f a b then rest else x :: rest
termination_by xs ys => xs.length + ys.length

def union (s t : CharSet) : CharSet := ⟨sweep or false false s.boundaries t.boundaries⟩

def intersection (s t : CharSet) : CharSet := ⟨sweep and false false s.boundaries t.boundaries⟩

def difference (s t : CharSet) : CharSet :=
  ⟨sweep (fun a b => a && !b) false false s.boundaries t.boundaries⟩

def symmetricDifference (s t : CharSet) : CharSet :=
  ⟨sweep xor false false s.boundaries t.boundaries⟩

def boundariesOf : List Nat → List Nat
  | [] => []
  | n :: ns =>
    match boundariesOf ns with
    | b :: bs => if b = n + 1 then n :: bs else n :: (n + 1) :: b :: bs
    | [] => if n + 1 < count then [n, n + 1] else [n]

def ofCodes (codes : List Nat) : CharSet :=
  ⟨boundariesOf ((codes.map placeOf).mergeSort)⟩

/-- The boundaries reached from `n` on by steps of some lengths. -/
def boundariesFrom (n : Nat) : List Nat → List Nat
  | [] => []
  | size :: sizes => (n + size) :: boundariesFrom (n + size) sizes

/-- A set written as the lengths of the runs that lie in turn outside and inside it. -/
def ofRuns (texts : List String) : CharSet :=
  ⟨boundariesFrom 0 (Unicode.numbers texts)⟩

def runsOf : List Nat → List (Nat × Nat)
  | low :: next :: bs => (low, next - 1) :: runsOf bs
  | [low] => [(low, count - 1)]
  | [] => []

def ranges (s : CharSet) : List (Nat × Nat) :=
  (runsOf s.boundaries).map fun r => (codeAt r.1, codeAt r.2)

def single? (s : CharSet) : Option Char :=
  match s.ranges with
  | [(low, high)] => if low = high then some (Char.ofNat low) else .none
  | _ => .none

def isAscii (s : CharSet) : Bool :=
  s.ranges.all fun r => r.2 < 128

theorem holdsFrom_not (a : Bool) (bs : List Nat) (n : Nat) :
    holdsFrom (!a) bs n = !holdsFrom a bs n := by
  induction bs generalizing a with
  | nil => rfl
  | cons b bs ih =>
    unfold holdsFrom
    split
    · rfl
    · exact ih (!a)

@[simp] theorem contains_complement (s : CharSet) (c : Char) :
    s.complement.contains c = !s.contains c := by
  obtain ⟨bs⟩ := s
  match bs with
  | [] => rfl
  | 0 :: bs =>
    have h := congrArg Bool.not (holdsFrom_not false bs (place c))
    exact (h.trans (Bool.not_not _)).symm
  | (b + 1) :: bs => exact holdsFrom_not false ((b + 1) :: bs) (place c)

end CharSet

namespace Unicode

/-- Sets with their names, which stand in one text with blanks between them, and their runs. -/
abbrev NamedSets := List (String × List String)

def NamedSets.find? (sets : NamedSets) (name : String) : Option CharSet :=
  (List.find? (fun e : String × List String => name ∈ e.1.splitOn " ") sets).map fun e =>
    .ofRuns e.2

end Unicode
end SheetTables
