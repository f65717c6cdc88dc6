import SheetTables.Unicode.Edition17

/-! # Quoted text

Text between quotation marks, as it stands in a report of a configuration. Quotation marks and
backslashes are escaped, and so is every character that would not show by itself: controls,
blanks other than the space, unassigned characters, and marks that extend the one before.
-/

namespace SheetTables

def hexDigits (n : Nat) : String :=
  String.ofList (Nat.toDigits 16 n)

def isShown (c : Char) : Bool :=
  if c.toNat < 128 then 32 ≤ c.toNat && c.toNat < 127
  else !Unicode.Edition17.hidden.contains c && !Unicode.Edition17.extenders.contains c

def quotedChar (c : Char) : String :=
  match c with
  | '"' => "\\\""
  | '\\' => "\\\\"
  | '\n' => "\\n"
  | '\r' => "\\r"
  | '\t' => "\\t"
  | _ =>
    if c.toNat = 0 then "\\0"
    else if isShown c then String.singleton c
    else "\\u\x7b" ++ hexDigits c.toNat ++ "\x7d"

def quoted (s : String) : String :=
  "\"" ++ String.join (s.toList.map quotedChar) ++ "\""

end SheetTables
