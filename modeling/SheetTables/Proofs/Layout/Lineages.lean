import SheetTables.Proofs.Layout.Forests
import SheetTables.Proofs.Layout.FieldTables

/-! # Lineages

The lineage of a field is the chain of declarations from its root down to itself. A description
that is accepted is copied as it stands: the same fields in the same tree, each with the path and
the direction that its lineage gives it, and with links to its parent and its children that agree.
-/

namespace SheetTables
namespace Forest

variable {α β : Type}

/-- The labels from the root down to each label, in the order of `toList`; `above` are those
above the forest. -/
def lineages (above : List α) : Forest α → List (List α)
  | nil => []
  | node a children siblings =>
    (above ++ [a]) :: (children.lineages (above ++ [a]) ++ siblings.lineages above)

theorem mem_lineages {above l : List α} {F : Forest α} (h : l ∈ F.lineages above) :
    ∃ a ∈ F.roots, ∃ below, l = above ++ a :: below := by
  induction F generalizing above with
  | nil => cases h
  | node a children siblings ihc ihs =>
    simp only [lineages, List.mem_cons, List.mem_append] at h
    rcases h with rfl | h | h
    · exact ⟨a, List.mem_cons_self, [], rfl⟩
    · obtain ⟨c, _, below, rfl⟩ := ihc h
      exact ⟨a, List.mem_cons_self, c :: below, by simp⟩
    · obtain ⟨b, hb, below, rfl⟩ := ihs h
      exact ⟨b, List.mem_cons_of_mem _ hb, below, rfl⟩

theorem Forall₂.roots {R : α → β → Prop} {F : Forest α} {G : Forest β} (h : Forall₂ R F G) :
    List.Forall₂ R F.roots G.roots := by
  induction h with
  | nil => exact .nil
  | node label _ _ _ ihs => exact .cons label ihs

theorem Forall₂.families {R : α → β → Prop} {F : Forest α} {G : Forest β} (h : Forall₂ R F G) :
    List.Forall₂ (fun a b => R a.1 b.1 ∧ List.Forall₂ R a.2 b.2) F.families G.families := by
  induction h with
  | nil => exact .nil
  | node label children _ ihc ihs =>
    exact .cons ⟨label, children.roots⟩ (List.rel_append ihc ihs)

theorem mem_toList_of_mem_families {F : Forest α} {a : α} {kids : List α}
    (h : (a, kids) ∈ F.families) : a ∈ F.toList := by
  rw [← families_fst]
  exact List.mem_map_of_mem (f := Prod.fst) h

/-- What holds of every label and those after it holds of a label and its children. -/
theorem rel_of_mem_families {R : α → α → Prop} {F : Forest α} (hR : F.toList.Pairwise R)
    {a : α} {kids : List α} (h : (a, kids) ∈ F.families) : ∀ k ∈ kids, R a k := by
  induction F with
  | nil => cases h
  | node b children siblings ihc ihs =>
    obtain ⟨hb, hrest⟩ := List.pairwise_cons.mp hR
    obtain ⟨hc, hs, _⟩ := List.pairwise_append.mp hrest
    simp only [families, List.mem_cons, List.mem_append, Prod.mk.injEq] at h
    rcases h with ⟨rfl, rfl⟩ | h | h
    · exact fun k hk => hb k (List.mem_append_left _ (children.roots_sublist.subset hk))
    · exact ihc hc h
    · exact ihs hs h

theorem mem_toList_of_mem_kids {F : Forest α} {a k : α} {kids : List α}
    (h : (a, kids) ∈ F.families) (hk : k ∈ kids) : k ∈ F.toList := by
  induction F with
  | nil => cases h
  | node b children siblings ihc ihs =>
    simp only [families, List.mem_cons, List.mem_append, Prod.mk.injEq] at h
    simp only [toList, List.mem_cons, List.mem_append]
    rcases h with ⟨rfl, rfl⟩ | h | h
    · exact Or.inr (Or.inl (children.roots_sublist.subset hk))
    · exact Or.inr (Or.inl (ihc h))
    · exact Or.inr (Or.inr (ihs h))

theorem mem_roots_or_kids {F : Forest α} {k : α} (hk : k ∈ F.toList) :
    k ∈ F.roots ∨ ∃ a kids, (a, kids) ∈ F.families ∧ k ∈ kids := by
  induction F with
  | nil => cases hk
  | node b children siblings ihc ihs =>
    simp only [toList, List.mem_cons, List.mem_append] at hk
    simp only [families, roots, List.mem_cons, List.mem_append]
    rcases hk with rfl | hk | hk
    · exact Or.inl (Or.inl rfl)
    · rcases ihc hk with hk | ⟨a, kids, h, hk⟩
      · exact Or.inr ⟨b, _, Or.inl rfl, hk⟩
      · exact Or.inr ⟨a, kids, Or.inr (Or.inl h), hk⟩
    · rcases ihs hk with hk | ⟨a, kids, h, hk⟩
      · exact Or.inl (Or.inr hk)
      · exact Or.inr ⟨a, kids, Or.inr (Or.inr h), hk⟩

end Forest

/-- A settled field that says what its declaration says. -/
structure Declares (spec : FieldSpec) (f : Field) : Prop where
  name : f.name = spec.name
  matcher : f.matcher = spec.matcher
  role : f.role = spec.role
  necessity : f.necessity = spec.necessity
  distance : f.distance = spec.distance
  data : f.data? = spec.data

/-- A settled field with what it takes over from the fields above it: its path is made of all
their names, its direction is set by the nearest of them that sets one, the field itself first. -/
structure Descends (lineage : List FieldSpec) (f : Field) : Prop where
  declared : ∃ spec, lineage.getLast? = some spec ∧ Declares spec f
  path : f.path = ".".intercalate (lineage.map (·.name))
  direction : lineage.reverse.findSome? (·.direction) = some f.direction

/-- A layout that is the settled copy of a description. -/
structure Copies (spec : TableSpec) (layout : TableLayout) : Prop where
  table : layout.name = spec.name ∧ layout.necessity = spec.necessity ∧
    layout.validators = spec.validators
  shape : spec.fields.Forall₂ Declares layout.forest
  fields : List.Forall₂ Declares spec.fields.toList layout.fields
  listed : List.Forall₂ Descends (spec.fields.lineages []) layout.fields
  numbered : ∀ i f, layout.fields[i]? = some f ↔ f ∈ layout.fields ∧ f.id = i
  anchor : layout.roots.head? = some layout.anchor ∧ layout.fields[0]? = some layout.anchor
  roots : List.Forall₂ Declares spec.fields.roots layout.roots ∧
    ∀ f ∈ layout.roots, layout.fields[f.id]? = some f ∧ f.parent = none
  families : List.Forall₂ (fun s f => Declares s.1 f.1 ∧ List.Forall₂ Declares s.2 f.2)
    spec.fields.families layout.forest.families
  children : ∀ f kids, (f, kids) ∈ layout.forest.families → ∀ k ∈ kids,
    layout.fields[k.id]? = some k ∧ k.parent = some f.id ∧ f.id < k.id
  parents : ∀ k ∈ layout.fields, ∀ p, k.parent = some p → ∃ f kids,
    layout.fields[p]? = some f ∧ (f, kids) ∈ layout.forest.families ∧ k ∈ kids
  kept : spec.fieldTable = .ok layout.fieldTable ∧
    layout.fieldTable.anchor? = some layout.anchor ∧
    ∀ id, layout.fieldTable.field? id = layout.fields[id]?

theorem FieldSpec.body_eq_ok {f : FieldSpec} {children : Forest FieldSpec} {body : FieldBody}
    (h : f.body children = .ok body) :
    (f.role = .group ∧ f.data = none ∧ body = .group) ∨
      ∃ data, f.role = .leaf ∧ f.data = some data ∧ body = .leaf data := by
  unfold FieldSpec.body at h
  cases hrole : f.role with
  | group =>
    rw [hrole] at h
    cases hdata : f.data with
    | none => cases hc : children.isNil <;> simp [hc, hdata] at h ⊢; exact h.symm
    | some data => cases hc : children.isNil <;> simp [hc, hdata] at h
  | leaf =>
    rw [hrole] at h
    cases hdata : f.data with
    | none => cases hc : children.isNil <;> simp [hc, hdata] at h
    | some data =>
      simp only [hdata] at h
      split_ifs at h
      cases h
      exact Or.inr ⟨data, rfl, rfl, rfl⟩

theorem FieldSpec.settle_declares {f : FieldSpec} {around : Option Surroundings} {id : Nat}
    {children : Forest FieldSpec} {g : Field} (h : f.settle around id children = .ok g) :
    Declares f g := by
  obtain ⟨_, body, _, _, hb, rfl⟩ := settle_eq_ok_iff.mp h
  rcases body_eq_ok hb with ⟨hrole, hdata, rfl⟩ | ⟨data, hrole, hdata, rfl⟩
  · exact ⟨rfl, rfl, hrole.symm, rfl, rfl, hdata.symm⟩
  · exact ⟨rfl, rfl, hrole.symm, rfl, rfl, hdata.symm⟩

/-- What fields below a lineage take over from it. -/
structure Surrounds (above : List FieldSpec) (around : Option Surroundings) : Prop where
  path : ∀ f : FieldSpec, f.path around = ".".intercalate ((above ++ [f]).map (·.name))
  direction : around.map (·.direction) = above.reverse.findSome? (·.direction)

theorem surrounds_nil : Surrounds [] none := by
  constructor
  · intro f
    simp [FieldSpec.path]
  · rfl

section Settle

variable {above : List FieldSpec} {around : Option Surroundings} {f : FieldSpec} {id : Nat}
  {children : Forest FieldSpec} {g : Field}

theorem Surrounds.settle (ha : Surrounds above around)
    (h : f.settle around id children = .ok g) : Descends (above ++ [f]) g := by
  constructor
  · exact ⟨f, List.getLast?_concat, FieldSpec.settle_declares h⟩
  · obtain ⟨_, _, _, _, _, rfl⟩ := FieldSpec.settle_eq_ok_iff.mp h
    exact ha.path f
  · obtain ⟨direction, _, hd, _, _, rfl⟩ := FieldSpec.settle_eq_ok_iff.mp h
    rw [ha.direction] at hd
    simp only [List.reverse_append, List.reverse_singleton, List.singleton_append,
      List.findSome?_cons]
    cases hf : f.direction with
    | none => rwa [hf, Option.none_or] at hd
    | some d => rwa [hf, Option.some_or] at hd

theorem Surrounds.below (ha : Surrounds above around)
    (h : f.settle around id children = .ok g) :
    Surrounds (above ++ [f]) (some ⟨id, g.path, g.direction⟩) := by
  obtain ⟨_, hpath, hdirection⟩ := ha.settle h
  constructor
  · intro k
    have hcons : (above ++ [f]).map (·.name) ≠ [] := by simp
    rw [List.map_append, String.intercalate_append_of_ne_nil hcons (by simp), ← hpath]
    simp [FieldSpec.path]
  · exact hdirection.symm

end Settle

section SettleFields

variable {around : Option Surroundings} {id : Nat} {seen : List String} {F : Forest FieldSpec}
  {G : Forest Field}

theorem settleFields_shape (h : settleFields around id seen F = .ok G) :
    F.Forall₂ Declares G := by
  induction F generalizing around id seen G with
  | nil =>
    cases h
    exact .nil
  | node f children siblings ihc ihs =>
    obtain ⟨field, inner, rest, _, hf, hi, hr, rfl⟩ := settleFields_node_eq_ok_iff.mp h
    exact .node (FieldSpec.settle_declares hf) (ihc hi) (ihs hr)

theorem settleFields_lineages {above : List FieldSpec} (ha : Surrounds above around)
    (h : settleFields around id seen F = .ok G) :
    List.Forall₂ Descends (F.lineages above) G.toList := by
  -- Siblings keep the lineage above them, children have that of their parent.
  induction F generalizing above around id seen G with
  | nil =>
    cases h
    exact .nil
  | node f children siblings ihc ihs =>
    obtain ⟨field, inner, rest, _, hf, hi, hr, rfl⟩ := settleFields_node_eq_ok_iff.mp h
    exact .cons (ha.settle hf) (List.rel_append (ihc (ha.below hf) hi) (ihs ha hr))

theorem settleFields_root_parents (h : settleFields around id seen F = .ok G) :
    ∀ g ∈ G.roots, g.parent = around.map (·.id) := by
  induction F generalizing id seen G with
  | nil =>
    cases h
    simp [Forest.roots]
  | node f children siblings _ ihs =>
    obtain ⟨field, inner, rest, _, hf, _, hr, rfl⟩ := settleFields_node_eq_ok_iff.mp h
    obtain ⟨_, _, _, _, _, rfl⟩ := FieldSpec.settle_eq_ok_iff.mp hf
    intro g hg
    rcases List.mem_cons.mp hg with rfl | hg
    · rfl
    · exact ihs hr g hg

theorem settleFields_parents (h : settleFields around id seen F = .ok G) :
    ∀ f kids, (f, kids) ∈ G.families → ∀ k ∈ kids, k.parent = some f.id := by
  induction F generalizing around id seen G with
  | nil =>
    cases h
    simp [Forest.families]
  | node f children siblings ihc ihs =>
    obtain ⟨field, inner, rest, _, hf, hi, hr, rfl⟩ := settleFields_node_eq_ok_iff.mp h
    obtain ⟨_, _, _, _, _, rfl⟩ := FieldSpec.settle_eq_ok_iff.mp hf
    intro g kids hg
    simp only [Forest.families, List.mem_cons, List.mem_append, Prod.mk.injEq] at hg
    rcases hg with ⟨rfl, rfl⟩ | hg | hg
    · exact settleFields_root_parents hi
    · exact ihc hi g kids hg
    · exact ihs hr g kids hg

end SettleFields

namespace TableLayout

variable {spec : TableSpec} {layout : TableLayout}

theorem header_of_build (h : spec.build = .ok layout) : layout.name = spec.name ∧
    layout.necessity = spec.necessity ∧ layout.validators = spec.validators := by
  unfold TableSpec.build at h
  split at h
  · cases h
  · cases h
  · cases h
    exact ⟨rfl, rfl, rfl⟩

theorem fields_getElem?_iff (h : spec.build = .ok layout) (i : Nat) (f : Field) :
    layout.fields[i]? = some f ↔ f ∈ layout.fields ∧ f.id = i := by
  -- The numbers of all fields in order are 0, 1, 2 and so on.
  have hid : ∀ (j : Nat) (g : Field), layout.fields[j]? = some g → g.id = j := by
    intro j g hg
    have hj : j < layout.fields.length := (List.getElem?_eq_some_iff.mp hg).1
    have hmap : (layout.fields.map (·.id))[j]? = (List.range layout.fields.length)[j]? := by
      rw [fields_ids h]
    rw [List.getElem?_map, hg, List.getElem?_range hj] at hmap
    exact Option.some.inj hmap
  constructor
  · exact fun hf => ⟨List.mem_of_getElem? hf, hid i f hf⟩
  · rintro ⟨hf, rfl⟩
    obtain ⟨j, hj⟩ := List.mem_iff_getElem?.mp hf
    rwa [hid j f hj]

theorem fields_getElem?_id (h : spec.build = .ok layout) {f : Field} (hf : f ∈ layout.fields) :
    layout.fields[f.id]? = some f :=
  (fields_getElem?_iff h f.id f).mpr ⟨hf, rfl⟩

end TableLayout

open TableLayout in
/-- A description that is accepted is copied as it stands. -/
theorem build_copies {spec : TableSpec} {layout : TableLayout} (h : spec.build = .ok layout) :
    Copies spec layout := by
  have hs := settleFields_of_build h
  have hparents := settleFields_parents hs
  have hroots := settleFields_root_parents hs
  constructor
  · exact header_of_build h
  · exact settleFields_shape hs
  · exact (settleFields_shape hs).toList
  · exact settleFields_lineages surrounds_nil hs
  · exact fields_getElem?_iff h
  · exact ⟨rfl, rfl⟩
  · exact ⟨(settleFields_shape hs).roots, fun f hf =>
      ⟨fields_getElem?_id h (layout.forest.roots_sublist.subset hf), hroots f hf⟩⟩
  · exact (settleFields_shape hs).families
  · intro f kids hf k hk
    have hlt := Forest.rel_of_mem_families (fields_sorted h) hf k hk
    exact ⟨fields_getElem?_id h (Forest.mem_toList_of_mem_kids hf hk), hparents f kids hf k hk, hlt⟩
  · intro k hk p hp
    rcases Forest.mem_roots_or_kids hk with hk | ⟨f, kids, hf, hk⟩
    · rw [hroots k hk] at hp
      cases hp
    · have hid : f.id = p := Option.some.inj ((hparents f kids hf k hk).symm.trans hp)
      exact ⟨f, kids, hid ▸ fields_getElem?_id h (Forest.mem_toList_of_mem_families hf), hf, hk⟩
  · refine ⟨by rw [spec.fieldTable_eq, h]; rfl, ?_, layout.field?_fieldTable⟩
    exact (layout.field?_fieldTable _).trans (fields_getElem?_id h List.mem_cons_self)

def orderSpec : TableSpec where
  name := "Orders"
  fields :=
    let leaf := fun (name : String) (direction : Option Direction) =>
      { name, matcher := labelled name, role := .leaf, direction,
        data := some { layout := .fixed 1 } : FieldSpec }
    let group := fun (name : String) (direction : Direction) =>
      { name, matcher := labelled name, role := .group, direction := some direction : FieldSpec }
    .node (group "Order" .down)
      (.node (group "Item" .right) (.node (leaf "Code" none) .nil .nil)
        (.node (leaf "Price" none) .nil .nil))
      (.node (leaf "Note" (some .up)) .nil .nil)

def orderField (id : Nat) (parent : Option Nat) (path name : String) (direction : Direction)
    (body : FieldBody) : Field :=
  { id, parent, path, name, matcher := labelled name, necessity := .required, direction,
    distance := 1, body }

def orderLayout : TableLayout where
  name := "Orders"
  necessity := .required
  anchor := orderField 0 none "Order" "Order" .down .group
  anchorChildren :=
    .node (orderField 1 (some 0) "Order.Item" "Item" .right .group)
      (.node (orderField 2 (some 1) "Order.Item.Code" "Code" .right (.leaf { layout := .fixed 1 }))
        .nil .nil)
      (.node (orderField 3 (some 0) "Order.Price" "Price" .down (.leaf { layout := .fixed 1 }))
        .nil .nil)
  others := .node (orderField 4 none "Note" "Note" .up (.leaf { layout := .fixed 1 })) .nil .nil
  validators := []

theorem build_copies_order : orderSpec.build = .ok orderLayout ∧ Copies orderSpec orderLayout :=
  ⟨rfl, build_copies rfl⟩

end SheetTables
