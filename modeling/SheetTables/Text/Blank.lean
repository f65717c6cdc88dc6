/-! # Blank characters

The characters with the Unicode property `White_Space`, and the operations on text that look
only at them: trimming, and splitting into words.
-/

namespace SheetTables

def isBlank (c : Char) : Bool :=
  let n := c.toNat
  (9 ≤ n && n ≤ 13) || n == 0x20 || n == 0x85 || n == 0xA0 || n == 0x1680 ||
    (0x2000 ≤ n && n ≤ 0x200A) || n == 0x2028 || n == 0x2029 || n == 0x202F || n == 0x205F ||
    n == 0x3000

def trimLeft (s : List Char) : List Char :=
  s.dropWhile isBlank

def trimRight (s : List Char) : List Char :=
  (s.reverse.dropWhile isBlank).reverse

/-- Blanks are removed at both ends and kept inside. -/
def trim (s : String) : String :=
  String.ofList (trimRight (trimLeft s.toList))

/-- The maximal runs of characters that are not blank, where `word` is the run being read. -/
def wordsFrom (word : List Char) : List Char → List String
  | [] => if word.isEmpty then [] else [String.ofList word.reverse]
  | c :: s =>
    if isBlank c then
      if word.isEmpty then wordsFrom [] s else String.ofList word.reverse :: wordsFrom [] s
    else wordsFrom (c :: word) s

def words (s : String) : List String :=
  wordsFrom [] s.toList

end SheetTables
