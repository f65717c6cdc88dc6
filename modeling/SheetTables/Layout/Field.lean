import SheetTables.Grid.Direction
import SheetTables.Layout.Forest
import SheetTables.Matching.Validator
import SheetTables.Text.Blank

/-! # Fields

A field is a header to look for, and what hangs off it: a leaf has a run of data cells, a group
has fields for children. Fields are declared first, where a direction may be left to the field
around and anything may be missing, and are settled when their table is built.
-/

namespace SheetTables

inductive Necessity where
  | required | optional
deriving DecidableEq

namespace Necessity

def isRequired : Necessity → Bool
  | required => true
  | optional => false

def name : Necessity → String
  | required => "required"
  | optional => "optional"

def ofName? (name : String) : Option Necessity :=
  match (trim name).toUpper with
  | "REQUIRED" => some required
  | "OPTIONAL" => some optional
  | _ => none

end Necessity

/-- How far a run of data reaches: a number of cells, up to a header or the border, or up to a
boundary as well. -/
inductive DataLayout where
  | fixed (count : Nat)
  | unfixed
  | mixed
deriving DecidableEq

structure DataSpec where
  layout : DataLayout
  matcher : Option (Matcher Value) := none
  boundary : Option (Matcher Cell) := none
  validators : List (Validator Cell) := []

inductive Role where
  | group | leaf
deriving DecidableEq

/-- A field as declared. -/
structure FieldSpec where
  name : String
  matcher : Matcher Cell
  role : Role
  necessity : Necessity := .required
  direction : Option Direction := none
  distance : Nat := 1
  data : Option DataSpec := none

/-- What hangs off the header of a settled field. -/
inductive FieldBody where
  | group
  | leaf (data : DataSpec)

/-- A settled field. Its number is its place among the fields of the table, its path the names
from the root down to it. -/
structure Field where
  id : Nat
  parent : Option Nat
  path : String
  name : String
  matcher : Matcher Cell
  necessity : Necessity
  direction : Direction
  distance : Nat
  body : FieldBody

namespace Field

def role (f : Field) : Role :=
  match f.body with
  | .group => .group
  | .leaf _ => .leaf

def isLeaf (f : Field) : Bool := f.role == .leaf

def data? (f : Field) : Option DataSpec :=
  match f.body with
  | .group => none
  | .leaf data => some data

end Field
end SheetTables
