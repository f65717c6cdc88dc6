import SheetTables.Layout.Table

/-! # Tables of fields

The fields of a table are kept in the order in which they are declared, each before its children,
with the numbers of their parents and children. A field is entered when it has been settled, its
children are entered after it, and then it is linked to the field around it or to the roots.
-/

namespace SheetTables

structure FieldEntry where
  field : Field
  children : List Nat

structure FieldTable where
  entries : List FieldEntry := []
  roots : List Nat := []

namespace FieldTable

def size (t : FieldTable) : Nat := t.entries.length

def field? (t : FieldTable) (id : Nat) : Option Field :=
  t.entries[id]?.map (·.field)

def anchor? (t : FieldTable) : Option Field :=
  t.roots.head?.bind t.field?

def find? (t : FieldTable) (path : String) : Option Field :=
  (t.entries.find? fun e => e.field.path == path).map (·.field)

def leaves (t : FieldTable) : List Field :=
  (t.entries.map (·.field)).filter (·.isLeaf)

def around (t : FieldTable) (parent : Option Nat) : Option Surroundings :=
  parent.bind fun p => (t.field? p).map fun f => ⟨p, f.path, f.direction⟩

def push (t : FieldTable) (field : Field) : FieldTable :=
  { t with entries := t.entries ++ [⟨field, []⟩] }

def link (t : FieldTable) (parent : Option Nat) (ids : List Nat) : FieldTable :=
  match parent with
  | none => { t with roots := t.roots ++ ids }
  | some p =>
    { t with entries := t.entries.modify p fun e => { e with children := e.children ++ ids } }

/-- Enters fields that stand side by side; `seen` are the names of those before them. -/
def enter (parent : Option Nat) (seen : List String) (t : FieldTable) :
    Forest FieldSpec → Except DescriptionError FieldTable
  | .nil => .ok t
  | .node f children siblings =>
    if f.name ∈ seen then .error (Surroundings.blame (t.around parent) (.duplicateField f.name))
    else match f.settle (t.around parent) t.size children with
      | .error e => .error (.within (f.path (t.around parent)) (.config e))
      | .ok field =>
        match enter (some t.size) [] (t.push field) children with
        | .error e => .error e
        | .ok inner => enter parent (f.name :: seen) (inner.link parent [t.size]) siblings

end FieldTable

/-- The fields of a table as they are kept. -/
def TableSpec.fieldTable (t : TableSpec) : Except DescriptionError FieldTable :=
  match t.fields with
  | .nil => .error (.within t.name (.config .emptyTable))
  | fields => (FieldTable.enter none [] {} fields).mapError (.within t.name)

end SheetTables
