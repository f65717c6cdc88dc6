/-! # Bytes of characters

A character is written as one to four bytes. The characters from one number to another are
written as some sequences of byte ranges, in order: a sequence of ranges stands for all the
sequences of bytes that take one byte of each.
-/

namespace SheetTables.Unicode.Utf8

def encode (code : Nat) : List Nat :=
  let tail := fun shift => 0x80 + code / Nat.pow 2 shift % 64
  if code < 0x80 then [code]
  else if code < 0x800 then [0xC0 + code / Nat.pow 2 6, tail 0]
  else if code < 0x10000 then [0xE0 + code / Nat.pow 2 12, tail 6, tail 0]
  else [0xF0 + code / Nat.pow 2 18, tail 12, tail 6, tail 0]

def clip (low high : Nat) (r : Nat × Nat) : List (Nat × Nat) :=
  if max low r.1 ≤ min high r.2 then [(max low r.1, min high r.2)] else []

/-- Cuts a range so that each part fills whole blocks of a size or lies in one block. -/
def cut (size : Nat) (r : Nat × Nat) : List (Nat × Nat) :=
  let cutLast := fun low high =>
    let last := high / size * size
    if low / size = high / size ∨ high + 1 = last + size then [(low, high)]
    else [(low, last - 1), (last, high)]
  let next := (r.1 / size + 1) * size
  if r.1 / size = r.2 / size ∨ r.1 % size = 0 then cutLast r.1 r.2
  else (r.1, next - 1) :: cutLast next r.2

def sequences (r : Nat × Nat) : List (List (Nat × Nat)) :=
  let longer := clip 0x80 0x7FF r ++ clip 0x800 0xD7FF r ++ clip 0xE000 0xFFFF r ++
    clip 0x10000 0x10FFFF r
  let blocks := [6, 12, 18].map (Nat.pow 2)
  let parts := blocks.foldl (fun parts size => parts.flatMap (cut size)) longer
  (clip 0 0x7F r ++ parts).map fun part => (encode part.1).zip (encode part.2)

/-- Sequences of byte ranges as a tree: the ranges that stand first, in order, each with what
follows it. Nothing follows the last byte of a character. -/
inductive Branches where
  | none
  | branch (low high : Nat) (inner rest : Branches)

namespace Branches

def isNone : Branches → Bool
  | none => true
  | branch _ _ _ _ => false

def path : List (Nat × Nat) → Branches
  | [] => none
  | (low, high) :: seq => branch low high (path seq) none

def add : Branches → List (Nat × Nat) → Branches
  | b, [] => b
  | none, seq => path seq
  | branch low high inner rest, r :: seq =>
    if (low, high) = r then branch low high (inner.add seq) rest
    else branch low high inner (rest.add (r :: seq))

def ofSequences (seqs : List (List (Nat × Nat))) : Branches :=
  seqs.foldl add none

end Branches
end SheetTables.Unicode.Utf8
