import SheetTables.Layout.FieldTable
import SheetTables.Proofs.Layout.Settling

/-! # Tables of fields and forests

The fields of a table are entered one by one, and settled by what is found in the table of those
around them. What is kept in the end are the fields of the settled forest in order, with the numbers
of its roots and of the children of each field.
-/

namespace SheetTables

namespace FieldTable

variable {t : FieldTable} {parent : Option Nat}

def entriesOf (G : Forest Field) : List FieldEntry :=
  G.families.map fun family => ⟨family.1, family.2.map (·.id)⟩

def append (t : FieldTable) (entries : List FieldEntry) : FieldTable :=
  { t with entries := t.entries ++ entries }

theorem length_entriesOf (G : Forest Field) : (entriesOf G).length = G.size := by
  rw [entriesOf, List.length_map, ← List.length_map (f := Prod.fst), Forest.families_fst,
    Forest.length_toList]

theorem entriesOf_node (field : Field) (inner rest : Forest Field) :
    entriesOf (.node field inner rest) =
      ⟨field, inner.roots.map (·.id)⟩ :: (entriesOf inner ++ entriesOf rest) := by
  simp [entriesOf, Forest.families]

@[simp] theorem size_push (field : Field) : (t.push field).size = t.size + 1 := by
  simp [push, size]

@[simp] theorem size_append (entries : List FieldEntry) :
    (t.append entries).size = t.size + entries.length := by
  simp [append, size]

@[simp] theorem size_link (ids : List Nat) : (t.link parent ids).size = t.size := by
  cases parent <;> simp [link, size]

theorem field?_append {id : Nat} (h : id < t.size) (entries : List FieldEntry) :
    (t.append entries).field? id = t.field? id := by
  rw [field?, field?, append, List.getElem?_append_left h]

@[simp] theorem field?_link (ids : List Nat) (id : Nat) :
    (t.link parent ids).field? id = t.field? id := by
  cases parent with
  | none => rfl
  | some p =>
    simp only [field?, link, List.getElem?_modify]
    split <;> cases t.entries[id]? <;> rfl

theorem around_link_append (h : ∀ p ∈ parent, p < t.size) (ids : List Nat)
    (entries : List FieldEntry) (parent' : Option Nat) :
    ((t.append entries).link parent' ids).around parent = t.around parent := by
  cases parent with
  | none => rfl
  | some p => simp only [around, Option.bind_some, field?_link, field?_append (h p rfl)]

theorem around_push (field : Field) :
    (t.push field).around (some t.size) = some ⟨t.size, field.path, field.direction⟩ := by
  simp [around, field?, push, size]

@[simp] theorem link_nil : t.link parent [] = t := by
  cases parent with
  | none => simp [link]
  | some p =>
    have hid : (fun e : FieldEntry => { e with children := e.children ++ [] }) = id := by
      funext e
      rw [List.append_nil]
      rfl
    rw [link, hid, List.modify_id]

/-- Links to a field that has been entered before others can be made before as well as after. -/
theorem link_append (h : ∀ p ∈ parent, p < t.size) (ids : List Nat)
    (entries : List FieldEntry) :
    (t.append entries).link parent ids = (t.link parent ids).append entries := by
  cases parent with
  | none => rfl
  | some p =>
    have hp : p < t.entries.length := h p rfl
    have hp' : p < (t.entries ++ entries).length := by
      rw [List.length_append]
      omega
    simp only [link, append]
    rw [List.modify_eq_take_cons_drop hp', List.modify_eq_take_cons_drop hp,
      List.take_append_of_le_length (Nat.le_of_lt hp), List.drop_append_of_le_length hp,
      List.getElem_append_left hp, List.append_assoc, List.cons_append]

theorem link_link (ids ids' : List Nat) :
    (t.link parent ids).link parent ids' = t.link parent (ids ++ ids') := by
  cases parent with
  | none => simp [link]
  | some p => simp [link, List.modify_modify_eq, Function.comp_def]

/-- A field is linked to its children once these have been entered after it. -/
theorem link_push (field : Field) (ids : List Nat) (entries : List FieldEntry) :
    ((t.push field).append entries).link (some t.size) ids =
      t.append (⟨field, ids⟩ :: entries) := by
  simp only [link, append, push, List.append_assoc, List.singleton_append, size, mk.injEq, and_true]
  exact List.modifyTailIdx_add (List.modifyHead _) 0 t.entries (_ :: entries)

theorem length_entriesOf_settled {above : Option Surroundings} {id : Nat} {seen : List String}
    {F : Forest FieldSpec} {G : Forest Field} (h : settleFields above id seen F = .ok G) :
    (entriesOf G).length = F.size := by
  rw [length_entriesOf, ← Forest.length_toList, ← List.length_map (f := (·.id)),
    settleFields_ids h, List.length_range']

/-- Fields are entered as the forest of them is settled. -/
theorem enter_eq (t : FieldTable) (parent : Option Nat) (h : ∀ p ∈ parent, p < t.size)
    (seen : List String) (F : Forest FieldSpec) :
    enter parent seen t F = (settleFields (t.around parent) t.size seen F).map fun G =>
      (t.append (entriesOf G)).link parent (G.roots.map (·.id)) := by
  induction F generalizing t parent seen with
  | nil => simp [enter, settleFields, Except.map, entriesOf, Forest.families, Forest.roots, append]
  | node f children siblings ihc ihs =>
    rw [enter, settleFields]
    split
    · rfl
    cases hsettle : f.settle (t.around parent) t.size children with
    | error e => rfl
    | ok field =>
      have hid : field.id = t.size := by
        obtain ⟨_, _, _, _, _, rfl⟩ := FieldSpec.settle_eq_ok_iff.mp hsettle
        rfl
      dsimp only
      rw [ihc (t.push field) (some t.size) (by simp), around_push, size_push]
      cases hinner : settleFields (some ⟨t.size, field.path, field.direction⟩) (t.size + 1) []
          children with
      | error e => rfl
      | ok inner =>
        have hbelow : ∀ p ∈ parent, p <
            (t.append (⟨field, inner.roots.map (·.id)⟩ :: entriesOf inner)).size :=
          fun p hp => Nat.lt_of_lt_of_le (h p hp) (by simp)
        simp only [Except.map]
        rw [link_push, ihs _ parent (by simpa using hbelow), around_link_append h, size_link,
          size_append, List.length_cons, length_entriesOf_settled hinner,
          show t.size + (children.size + 1) = t.size + 1 + children.size by omega]
        cases hrest : settleFields (t.around parent) (t.size + 1 + children.size)
            (f.name :: seen) siblings with
        | error e => rfl
        | ok rest =>
          have happend : (t.append (⟨field, inner.roots.map (·.id)⟩ :: entriesOf inner)).append
              (entriesOf rest) = t.append (entriesOf (.node field inner rest)) := by
            simp [append, entriesOf_node]
          simp only [Except.map]
          rw [← link_append hbelow, link_link, happend, Forest.roots, List.map_cons, hid]
          rfl

end FieldTable

def TableLayout.fieldTable (t : TableLayout) : FieldTable where
  entries := FieldTable.entriesOf t.forest
  roots := t.roots.map (·.id)

namespace TableLayout

theorem field?_fieldTable (t : TableLayout) (id : Nat) :
    t.fieldTable.field? id = t.fields[id]? := by
  have hfields : t.fieldTable.entries.map (·.field) = t.fields := by
    simp [fieldTable, FieldTable.entriesOf, fields, ← Forest.families_fst]
  rw [FieldTable.field?, ← List.getElem?_map, hfields]

theorem leaves_fieldTable (t : TableLayout) : t.fieldTable.leaves = t.leaves := by
  simp [FieldTable.leaves, fieldTable, FieldTable.entriesOf, leaves, fields,
    ← Forest.families_fst, Function.comp_def]

theorem find?_fieldTable (t : TableLayout) (path : String) :
    t.fieldTable.find? path = t.find? path := by
  rw [FieldTable.find?, find?, fields, ← Forest.families_fst, List.find?_map, fieldTable,
    FieldTable.entriesOf, List.find?_map, Option.map_map]
  rfl

end TableLayout

/-- The fields of a table are kept as they are settled, or refused for the same reason. -/
theorem TableSpec.fieldTable_eq (spec : TableSpec) :
    spec.fieldTable = spec.build.map TableLayout.fieldTable := by
  have henter := FieldTable.enter_eq {} none nofun [] spec.fields
  unfold fieldTable build
  cases hfields : spec.fields with
  | nil => rfl
  | node f children siblings =>
    rw [hfields] at henter
    dsimp only
    rw [henter]
    change Except.mapError _ (Except.map _ (settleFields none 0 [] _)) = _
    cases hsettle : settleFields none 0 [] (.node f children siblings) with
    | error e => rfl
    | ok G =>
      obtain ⟨field, inner, rest, -, -, -, -, rfl⟩ := settleFields_node_eq_ok_iff.mp hsettle
      simp [Except.map, Except.mapError, FieldTable.append, FieldTable.link,
        TableLayout.fieldTable, TableLayout.forest, TableLayout.roots]

end SheetTables
