/-! # Parts of text

Texts within texts: whether one occurs in another, and messages with gaps to be filled.
-/

namespace SheetTables

def containsChars (part : List Char) : List Char → Bool
  | [] => part.isEmpty
  | c :: s => part.isPrefixOf (c :: s) || containsChars part s

def containsText (s part : String) : Bool :=
  containsChars part.toList s.toList

/-- A template with a text in place of every gap, which is a pair of empty braces. -/
def fillChars (filling : List Char) : List Char → List Char
  | '\x7b' :: '\x7d' :: s => filling ++ fillChars filling s
  | c :: s => c :: fillChars filling s
  | [] => []

def fill (template filling : String) : String :=
  String.ofList (fillChars filling.toList template.toList)

end SheetTables
