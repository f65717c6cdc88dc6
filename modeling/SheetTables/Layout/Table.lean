import SheetTables.Extraction.Record
import SheetTables.Layout.ConfigError
import SheetTables.Layout.Field

/-! # Table layouts

A table is described by its fields, of which the first is the anchor: each place where it is
found opens a table. A description is settled in the order in which it is written, each field
before its children, and is refused at the first field that is not as it should be.
-/

namespace SheetTables

structure TableSpec where
  name : String
  necessity : Necessity := .required
  fields : Forest FieldSpec
  validators : List (Validator Record) := []

/-- A settled table. -/
structure TableLayout where
  name : String
  necessity : Necessity
  anchor : Field
  anchorChildren : Forest Field
  others : Forest Field
  validators : List (Validator Record)

/-- What a field takes over from the one around it. -/
structure Surroundings where
  id : Nat
  path : String
  direction : Direction

namespace FieldSpec

def body (f : FieldSpec) (children : Forest FieldSpec) : Except ConfigError FieldBody :=
  match f.role with
  | .group =>
    if children.isNil then .error .emptyGroup
    else if f.data.isSome then .error .dataOnGroup
    else .ok .group
  | .leaf =>
    if !children.isNil then .error .childrenOnLeaf
    else match f.data with
      | none => .error .missingData
      | some data =>
        if data.layout = .fixed 0 then .error .emptyFixedLayout
        else if data.boundary.isSome ∧ data.layout ≠ .mixed then .error .boundaryWithoutMixed
        else .ok (.leaf data)

def path (f : FieldSpec) (around : Option Surroundings) : String :=
  match around with
  | some s => s.path ++ "." ++ f.name
  | none => f.name

def settle (f : FieldSpec) (around : Option Surroundings) (id : Nat)
    (children : Forest FieldSpec) : Except ConfigError Field :=
  match f.direction.or (around.map (·.direction)) with
  | none => .error .missingDirection
  | some direction =>
    if f.distance = 0 then .error .zeroDistance
    else (f.body children).map fun body =>
      { id, parent := around.map (·.id), path := f.path around, name := f.name,
        matcher := f.matcher, necessity := f.necessity, direction, distance := f.distance, body }

end FieldSpec

/-- Puts the path of the field around, if there is one, before an error. -/
def Surroundings.blame (around : Option Surroundings) (e : ConfigError) : DescriptionError :=
  match around with
  | some s => .within s.path (.config e)
  | none => .config e

/-- Settles fields that stand side by side, the first as number `id`; `seen` are the names of
those before them. -/
def settleFields (around : Option Surroundings) (id : Nat) (seen : List String) :
    Forest FieldSpec → Except DescriptionError (Forest Field)
  | .nil => .ok .nil
  | .node f children siblings =>
    if f.name ∈ seen then .error (Surroundings.blame around (.duplicateField f.name))
    else match f.settle around id children with
      | .error e => .error (.within (f.path around) (.config e))
      | .ok field =>
        match settleFields (some ⟨id, field.path, field.direction⟩) (id + 1) [] children with
        | .error e => .error e
        | .ok inner =>
          match settleFields around (id + 1 + children.size) (f.name :: seen) siblings with
          | .error e => .error e
          | .ok rest => .ok (.node field inner rest)

def TableSpec.build (t : TableSpec) : Except DescriptionError TableLayout :=
  match settleFields none 0 [] t.fields with
  | .error e => .error (.within t.name e)
  | .ok .nil => .error (.within t.name (.config .emptyTable))
  | .ok (.node anchor anchorChildren others) =>
    .ok { name := t.name, necessity := t.necessity, anchor, anchorChildren, others,
          validators := t.validators }

namespace TableLayout

def forest (t : TableLayout) : Forest Field :=
  .node t.anchor t.anchorChildren t.others

def fields (t : TableLayout) : List Field := t.forest.toList

def roots (t : TableLayout) : List Field := t.forest.roots

def leaves (t : TableLayout) : List Field := t.fields.filter (·.isLeaf)

def find? (t : TableLayout) (path : String) : Option Field :=
  t.fields.find? (·.path == path)

end TableLayout
end SheetTables
