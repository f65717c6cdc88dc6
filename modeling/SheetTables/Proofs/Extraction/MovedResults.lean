import SheetTables.Extraction.Sheet
import SheetTables.Proofs.Extraction.Mirroring
import SheetTables.Proofs.Extraction.TableProblems
import SheetTables.Proofs.Grid.Moves

/-! # Moved results

What it means that a result is another one moved: cells lie elsewhere, and problems name cells by
their new references, while all else is the same. Tables that are assembled from moved headers are
moved, if nothing in their layout looks at where cells lie.
-/

namespace SheetTables

inductive ProbeError.Moved (m : Offset) : ProbeError → ProbeError → Prop
  | noCell (r : Range) (d : Direction) (n : Nat) :
    Moved m (.noCell r.toText d n) (.noCell (r.moved m).toText d n)
  | ambiguous (r : Range) (d : Direction) (n count : Nat) :
    Moved m (.ambiguous r.toText d n count) (.ambiguous (r.moved m).toText d n count)

/-- The same problem, with the references of moved ranges. -/
inductive Problem.Moved (m : Offset) : Problem → Problem → Prop
  | headerNotFound (path : String) : Moved m (.headerNotFound path) (.headerNotFound path)
  | inconsistentGeometry (r : Range) {e e' : ProbeError} (cause : e.Moved m e') :
    Moved m (.inconsistentGeometry r.toText e) (.inconsistentGeometry (r.moved m).toText e')
  | invalidValue (r : Range) (value message : String) :
    Moved m (.invalidValue r.toText value message) (.invalidValue (r.moved m).toText value message)
  | invalidRecord (index : Nat) (message : String) :
    Moved m (.invalidRecord index message) (.invalidRecord index message)
  | emptySheet : Moved m .emptySheet .emptySheet
  | tableNotFound (table : String) : Moved m (.tableNotFound table) (.tableNotFound table)
  | within (context : String) {p p' : Problem} (problem : Moved m p p') :
    Moved m (.within context p) (.within context p')

structure Header.Moved (m : Offset) (h h' : Header) : Prop where
  field : h'.field = h.field
  cell : h'.cell = h.cell.moved m
  data : h'.data = h.data.map (.moved m)
  problems : List.Forall₂ (Problem.Moved m) h.problems h'.problems
  mismatches : ∀ i, Option.Rel (Problem.Moved m) (h.mismatch? i) (h'.mismatch? i)

structure Table.Moved (m : Offset) (t t' : Table) : Prop where
  layout : t'.layout = t.layout
  headers : Forest.Forall₂ (Header.Moved m) t.headers t'.headers
  records : t'.records = t.records.map (.map (.moved m))
  problems : List.Forall₂ (Problem.Moved m) t.problems t'.problems

structure SheetResult.Moved (m : Offset) (r r' : SheetResult) : Prop where
  layout : r'.layout = r.layout
  sheet : r'.sheet = r.sheet
  tables : List.Forall₂ (Table.Moved m) r.tables r'.tables
  problems : List.Forall₂ (Problem.Moved m) r.problems r'.problems

def Record.values (r : Record) : Nat × List (Nat × String × Value) :=
  (r.index, r.entries.map fun e => (e.field, e.path, e.cell.value))

/-- A layout that leads down and to the right only, and whose matchers and validators look at
values and not at where they lie. -/
structure TableLayout.Relative (t : TableLayout) : Prop where
  forward : ∀ f ∈ t.fields, f.direction.Forward
  matcher : ∀ f ∈ t.fields, f.matcher.test.FactorsThrough Cell.value
  boundary : ∀ f ∈ t.fields, ∀ data, f.body = .leaf data → ∀ b, data.boundary = some b →
    b.test.FactorsThrough Cell.value
  validators : ∀ f ∈ t.fields, ∀ data, f.body = .leaf data → ∀ v ∈ data.validators,
    v.faults.FactorsThrough Cell.value
  recordValidators : ∀ v ∈ t.validators, v.faults.FactorsThrough Record.values

section Pairs

variable {α β γ : Type} {R : β → γ → Prop} {as : List α}

theorem forall₂_map_same {f : α → β} {g : α → γ} (h : ∀ a ∈ as, R (f a) (g a)) :
    List.Forall₂ R (as.map f) (as.map g) := by
  rw [List.forall₂_map_left_iff, List.forall₂_map_right_iff, List.forall₂_same]
  exact h

theorem forall₂_flatMap_same {f : α → List β} {g : α → List γ}
    (h : ∀ a ∈ as, List.Forall₂ R (f a) (g a)) :
    List.Forall₂ R (as.flatMap f) (as.flatMap g) :=
  List.rel_flatten (forall₂_map_same h)

theorem map_eq_of_forall₂ {δ : Type} {bs : List β} {cs : List γ} {f : β → δ} {g : γ → δ}
    (h : List.Forall₂ R bs cs) (hR : ∀ b c, R b c → f b = g c) : bs.map f = cs.map g := by
  rw [← List.forall₂_eq_eq_eq, List.forall₂_map_left_iff, List.forall₂_map_right_iff]
  exact h.imp hR

theorem isEmpty_alike {bs : List β} {cs : List γ} (h : List.Forall₂ R bs cs) :
    cs.isEmpty = bs.isEmpty := by
  cases h <;> rfl

end Pairs

variable {m : Offset}

theorem prefixed_moved (context : String) {ps ps' : List Problem}
    (h : List.Forall₂ (Problem.Moved m) ps ps') :
    List.Forall₂ (Problem.Moved m) (prefixed context ps) (prefixed context ps') :=
  List.rel_map (fun _ _ hp => .within context hp) h

theorem lacks_moved (fields : List Field) :
    List.Forall₂ (Problem.Moved m) (fields.filterMap lack) (fields.filterMap lack) := by
  rw [List.forall₂_same]
  intro p hp
  obtain ⟨f, _, hf⟩ := List.mem_filterMap.mp hp
  simp only [lack, Option.ite_none_right_eq_some, Option.some.injEq] at hf
  exact hf.2 ▸ .headerNotFound f.path

theorem mismatches_moved (data : DataSpec) (cells : List Cell) (i : Nat) :
    Option.Rel (Problem.Moved m) ((Search.mismatches data cells).lookup i)
      ((Search.mismatches data (cells.map (.moved m))).lookup i) := by
  rw [Search.mismatches_lookup, Search.mismatches_lookup, List.getElem?_map]
  cases cells[i]? with
  | none => exact .none
  | some c =>
    cases data.matcher with
    | none => exact .none
    | some k =>
      simp only [Option.map_some, Option.bind_some, Cell.moved_value]
      cases k.mismatch? c.value with
      | none => exact .none
      | some e => exact .some (.invalidValue c.range _ _)

theorem Field.body_of_data? {f : Field} {data : DataSpec} (h : f.data? = some data) :
    f.body = .leaf data := by
  unfold data? at h
  cases hb : f.body with
  | group => simp [hb] at h
  | leaf data' => simpa [hb] using h

@[simp] theorem Record.values_map_moved (r : Record) :
    (r.map (.moved m)).values = r.values := by
  simp [values, map, Function.comp_def]

namespace Header.Moved

variable {h h' : Header} (hm : h.Moved m h')
include hm

theorem path : h'.path = h.path := congrArg Field.path hm.field

theorem feeds : FeedsAlike (.moved m) h h' where
  leaf := congrArg Field.isLeaf hm.field
  id := congrArg Field.id hm.field
  path := hm.path
  data := hm.data

theorem faults {t : TableLayout} (ht : t.Relative) (hf : h.field ∈ t.fields) (i : Nat) :
    List.Forall₂ (Problem.Moved m) (h.faults i) (h'.faults i) := by
  unfold Header.faults
  rw [hm.data, hm.field, hm.path, List.getElem?_map]
  cases h.data[i]? with
  | none => exact .nil
  | some c =>
    cases hd : h.field.data? with
    | none => exact .nil
    | some data =>
      have hbody := Field.body_of_data? hd
      refine forall₂_flatMap_same fun v hv => ?_
      have hfaults : v.faults (c.moved m) = v.faults c := ht.validators _ hf data hbody v hv rfl
      rw [hfaults]
      exact forall₂_map_same fun message _ => .within _ (.invalidValue c.range _ message)

end Header.Moved

section Assembly

variable {t : TableLayout} (ht : t.Relative)
include ht

theorem recordProblems_moved {leaves leaves' : List Header}
    (hleaves : List.Forall₂ (Header.Moved m) leaves leaves')
    (hfields : ∀ h ∈ leaves, h.field ∈ t.fields) (r : Record) :
    List.Forall₂ (Problem.Moved m) (recordProblems t leaves r)
      (recordProblems t leaves' (r.map (.moved m))) := by
  have hindex : (r.map (.moved m)).index = r.index := rfl
  unfold recordProblems
  rw [hindex]
  refine List.rel_append (List.rel_append ?_ ?_) ?_
  · refine List.rel_filterMap (fun h h' hm => ?_) hleaves
    have hmismatch := hm.mismatches r.index
    rw [hm.path]
    generalize h.mismatch? r.index = p, h'.mismatch? r.index = p' at hmismatch ⊢
    cases hmismatch with
    | none => exact .none
    | some problem => exact .some (.within _ problem)
  · have hfaults := (List.forall₂_and_left leaves leaves').mpr ⟨hfields, hleaves⟩
    exact List.rel_flatMap hfaults fun h h' hm => hm.2.faults ht hm.1 r.index
  · refine forall₂_flatMap_same fun v hv => ?_
    have hsame : v.faults (r.map (.moved m)) = v.faults r :=
      ht.recordValidators v hv r.values_map_moved
    rw [hsame]
    exact forall₂_map_same fun message _ => .invalidRecord r.index message

theorem assemble_moved {headers headers' : Forest Header} {missing missing' : List Problem}
    (hheaders : Forest.Forall₂ (Header.Moved m) headers headers')
    (hfields : ∀ h ∈ headers.toList, h.field ∈ t.fields)
    (hmissing : List.Forall₂ (Problem.Moved m) missing missing') :
    (Table.assemble t headers missing).Moved m (.assemble t headers' missing') := by
  have hrecords : records (leafHeaders headers') =
      (records (leafHeaders headers)).map (.map (.moved m)) :=
    records_alike (hheaders.imp fun _ _ hm => hm.feeds) Cell.moved_isEmpty
  have hleaves : List.Forall₂ (Header.Moved m) (leafHeaders headers) (leafHeaders headers') :=
    List.rel_filter (fun _ _ hm => iff_of_eq (congrArg (·.isLeaf = true) hm.field.symm))
      hheaders.toList
  refine ⟨rfl, hheaders, hrecords, ?_⟩
  refine List.rel_append (List.rel_append hmissing ?_) ?_
  · refine List.rel_flatMap hheaders.toList fun h h' hm => ?_
    rw [hm.path]
    exact prefixed_moved _ hm.problems
  · rw [hrecords, List.flatMap_map]
    exact forall₂_flatMap_same fun r _ => recordProblems_moved ht hleaves
      (fun h hh => hfields h (List.mem_filter.mp hh).1) r

end Assembly
end SheetTables
