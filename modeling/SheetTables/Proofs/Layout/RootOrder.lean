import Mathlib.Data.List.Perm.Basic
import SheetTables.Proofs.Layout.Lineages

/-! # The order of roots

Fields that stand side by side may be described in another order. The description is accepted as
well, and gives the same trees of fields in that order, with other numbers.
-/

namespace SheetTables
namespace Forest

variable {α β : Type}

def trees : Forest α → List (α × Forest α)
  | nil => []
  | node a children siblings => (a, children) :: siblings.trees

@[simp] theorem trees_ofTrees (T : List (α × Forest α)) : (ofTrees T).trees = T := by
  induction T with
  | nil => rfl
  | cons t T ih => rw [ofTrees, trees, ih]

@[simp] theorem ofTrees_trees (F : Forest α) : ofTrees F.trees = F := by
  induction F with
  | nil => rfl
  | node a children siblings _ ih => rw [trees, ofTrees, ih]

theorem roots_map (f : α → β) (F : Forest α) : (F.map f).roots = F.roots.map f := by
  induction F with
  | nil => rfl
  | node a children siblings _ ih => rw [map, roots, ih, roots, List.map_cons]

theorem toList_trees (F : Forest α) : F.toList = F.trees.flatMap fun t => t.1 :: t.2.toList := by
  induction F with
  | nil => rfl
  | node a children siblings _ ih => rw [toList, ih, trees, List.flatMap_cons, List.cons_append]

theorem roots_trees (F : Forest α) : F.roots = F.trees.map Prod.fst := by
  induction F with
  | nil => rfl
  | node a children siblings _ ih => rw [roots, ih, trees, List.map_cons]

/-- The same trees side by side, in another order. -/
def Reorders (F G : Forest α) : Prop := G.trees.Perm F.trees

theorem Reorders.toList {F G : Forest α} (h : F.Reorders G) : G.toList.Perm F.toList := by
  rw [toList_trees, toList_trees]
  exact List.Perm.flatMap_right _ h

theorem Reorders.roots {F G : Forest α} (h : F.Reorders G) : G.roots.Perm F.roots := by
  rw [roots_trees, roots_trees]
  exact List.Perm.map _ h

end Forest

def Field.unnumbered (f : Field) : Field := { f with id := 0, parent := none }

@[simp] theorem Field.unnumbered_path (f : Field) : f.unnumbered.path = f.path := rfl

@[simp] theorem Field.unnumbered_direction (f : Field) : f.unnumbered.direction = f.direction := rfl

@[simp] theorem Field.unnumbered_matcher (f : Field) : f.unnumbered.matcher = f.matcher := rfl

def Surroundings.Alike (around around' : Option Surroundings) : Prop :=
  around'.map (fun s => (s.path, s.direction)) = around.map fun s => (s.path, s.direction)

theorem FieldSpec.path_alike (f : FieldSpec) {around around' : Option Surroundings}
    (h : Surroundings.Alike around around') : f.path around' = f.path around := by
  unfold Surroundings.Alike at h
  cases around <;> cases around' <;> simp_all [FieldSpec.path]

theorem Surroundings.Alike.direction {around around' : Option Surroundings}
    (h : Surroundings.Alike around around') :
    around'.map (·.direction) = around.map (·.direction) := by
  have hmap := congrArg (Option.map Prod.snd) h
  rwa [Option.map_map, Option.map_map] at hmap

theorem Surroundings.alike_of_unnumbered {f f' : Field} (h : f'.unnumbered = f.unnumbered)
    (id id' : Nat) :
    Alike (some ⟨id, f.path, f.direction⟩) (some ⟨id', f'.path, f'.direction⟩) := by
  have hpath : f'.path = f.path := by simpa using congrArg Field.path h
  have hdirection : f'.direction = f.direction := by simpa using congrArg Field.direction h
  simp only [Alike, Option.map_some, hpath, hdirection]

theorem FieldSpec.settle_renumbered {f : FieldSpec} {around around' : Option Surroundings}
    (h : Surroundings.Alike around around') {id : Nat} {children : Forest FieldSpec} {g : Field}
    (hg : f.settle around id children = .ok g) (id' : Nat) :
    ∃ g', f.settle around' id' children = .ok g' ∧ g'.unnumbered = g.unnumbered := by
  obtain ⟨direction, body, hd, hz, hb, rfl⟩ := settle_eq_ok_iff.mp hg
  rw [← h.direction] at hd
  refine ⟨_, settle_eq_ok_iff.mpr ⟨direction, body, hd, hz, hb, rfl⟩, ?_⟩
  simp only [Field.unnumbered, f.path_alike h]

/-- Numbers have no part in what is accepted, nor has the order of the names before. -/
theorem settleFields_renumbered {F : Forest FieldSpec} {around around' : Option Surroundings}
    (h : Surroundings.Alike around around') {id : Nat} {seen seen' : List String}
    {G : Forest Field} (hG : settleFields around id seen F = .ok G)
    (hseen : ∀ name ∈ seen', name ∈ seen) (id' : Nat) :
    ∃ G', settleFields around' id' seen' F = .ok G' ∧
      G'.map Field.unnumbered = G.map Field.unnumbered := by
  induction F generalizing around around' id id' seen seen' G with
  | nil =>
    cases hG
    exact ⟨.nil, rfl, rfl⟩
  | node f children siblings ihc ihs =>
    obtain ⟨field, inner, rest, hs, hf, hi, hr, rfl⟩ := settleFields_node_eq_ok_iff.mp hG
    obtain ⟨field', hf', hfield⟩ := FieldSpec.settle_renumbered h hf id'
    obtain ⟨inner', hi', hinner⟩ :=
      ihc (Surroundings.alike_of_unnumbered hfield id id') hi (fun _ hn => hn) (id' + 1)
    have hnames : ∀ name ∈ f.name :: seen', name ∈ f.name :: seen :=
      fun name hn => List.mem_cons.mpr ((List.mem_cons.mp hn).imp_right (hseen name))
    obtain ⟨rest', hr', hrest⟩ := ihs h hr hnames (id' + 1 + children.size)
    refine ⟨.node field' inner' rest', settleFields_node_eq_ok_iff.mpr
      ⟨field', inner', rest', fun hn => hs (hseen f.name hn), hf', hi', hr', rfl⟩, ?_⟩
    rw [Forest.map, Forest.map, hfield, hinner, hrest]

theorem settleTree_renumbered {f : FieldSpec} {children : Forest FieldSpec}
    {around : Option Surroundings} {id : Nat} {field : Field} {inner : Forest Field}
    (hf : f.settle around id children = .ok field)
    (hi : settleFields (some ⟨id, field.path, field.direction⟩) (id + 1) [] children = .ok inner)
    (id' : Nat) : ∃ field' inner', f.settle around id' children = .ok field' ∧
      settleFields (some ⟨id', field'.path, field'.direction⟩) (id' + 1) [] children =
        .ok inner' ∧
      field'.unnumbered = field.unnumbered ∧
      inner'.map Field.unnumbered = inner.map Field.unnumbered := by
  obtain ⟨field', hf', hfield⟩ := FieldSpec.settle_renumbered rfl hf id'
  obtain ⟨inner', hi', hinner⟩ := settleFields_renumbered
    (Surroundings.alike_of_unnumbered hfield id id') hi (fun _ hn => hn) (id' + 1)
  exact ⟨field', inner', hf', hi', hfield, hinner⟩

def FieldsReordered (G G' : Forest Field) : Prop :=
  (G.map Field.unnumbered).Reorders (G'.map Field.unnumbered)

theorem FieldsReordered.node {G G' : Forest Field} (h : FieldsReordered G G') {f f' : Field}
    {inner inner' : Forest Field} (hf : f'.unnumbered = f.unnumbered)
    (hinner : inner'.map Field.unnumbered = inner.map Field.unnumbered) :
    FieldsReordered (.node f inner G) (.node f' inner' G') := by
  unfold FieldsReordered Forest.Reorders at h ⊢
  rw [Forest.map, Forest.map, Forest.trees, Forest.trees, hf, hinner]
  exact h.cons _

theorem settleFields_reordered {T T' : List (FieldSpec × Forest FieldSpec)} (hT : T.Perm T')
    {around : Option Surroundings} {id : Nat} {seen : List String} {G : Forest Field}
    (h : settleFields around id seen (.ofTrees T) = .ok G) :
    ∃ G', settleFields around id seen (.ofTrees T') = .ok G' ∧ FieldsReordered G G' := by
  induction hT generalizing id seen G with
  | nil => exact ⟨G, h, .refl _⟩
  | cons t _ ih =>
    obtain ⟨field, inner, rest, hs, hf, hi, hr, rfl⟩ := settleFields_node_eq_ok_iff.mp h
    obtain ⟨rest', hr', hrest⟩ := ih hr
    exact ⟨.node field inner rest', settleFields_node_eq_ok_iff.mpr
      ⟨field, inner, rest', hs, hf, hi, hr', rfl⟩, hrest.node rfl rfl⟩
  | swap t u T =>
    obtain ⟨a, innerA, restA, hsa, ha, hia, hra, rfl⟩ := settleFields_node_eq_ok_iff.mp h
    obtain ⟨b, innerB, rest, hsb, hb, hib, hr, rfl⟩ := settleFields_node_eq_ok_iff.mp hra
    rw [List.mem_cons, not_or] at hsb
    -- The second tree takes the number of the first, and the first comes after it.
    obtain ⟨b', innerB', hb', hib', hfieldB, hinnerB⟩ := settleTree_renumbered hb hib id
    obtain ⟨a', innerA', ha', hia', hfieldA, hinnerA⟩ :=
      settleTree_renumbered ha hia (id + 1 + t.2.size)
    have hnames : ∀ name ∈ u.1.name :: t.1.name :: seen, name ∈ t.1.name :: u.1.name :: seen := by
      simp only [List.mem_cons]
      tauto
    obtain ⟨rest', hr', hrest⟩ :=
      settleFields_renumbered rfl hr hnames (id + 1 + t.2.size + 1 + u.2.size)
    have hna : u.1.name ∉ t.1.name :: seen := by
      rw [List.mem_cons, not_or]
      exact ⟨Ne.symm hsb.1, hsa⟩
    refine ⟨.node b' innerB' (.node a' innerA' rest'), settleFields_node_eq_ok_iff.mpr
      ⟨b', innerB', _, hsb.2, hb', hib', settleFields_node_eq_ok_iff.mpr
        ⟨a', innerA', rest', hna, ha', hia', hr', rfl⟩, rfl⟩, ?_⟩
    simp only [FieldsReordered, Forest.Reorders, Forest.map, Forest.trees, hfieldA, hfieldB,
      hinnerA, hinnerB, hrest]
    exact .swap _ _ _
  | trans _ _ ih ih' =>
    obtain ⟨G', hG', hreordered⟩ := ih h
    obtain ⟨G'', hG'', hreordered'⟩ := ih' hG'
    exact ⟨G'', hG'', hreordered'.trans hreordered⟩

theorem FieldsReordered.exists_root {G G' : Forest Field} (h : FieldsReordered G G') {f' : Field}
    (hf : f' ∈ G'.roots) : ∃ f ∈ G.roots, f.unnumbered = f'.unnumbered := by
  have hroots := Forest.Reorders.roots h
  rw [Forest.roots_map, Forest.roots_map] at hroots
  exact List.mem_map.mp (hroots.mem_iff.mp (List.mem_map_of_mem hf))

theorem FieldsReordered.exists_node {f : Field} {inner G H : Forest Field}
    (h : FieldsReordered (.node f inner G) H) : ∃ f' inner' G', H = .node f' inner' G' := by
  cases H with
  | nil => cases List.Perm.length_eq h
  | node f' inner' G' => exact ⟨f', inner', G', rfl⟩

/-- A description with its roots in another order is accepted as well. The anchor is the same if
the first root is. -/
theorem TableSpec.build_reordered {spec : TableSpec} {layout : TableLayout}
    (hb : spec.build = .ok layout) {fields' : Forest FieldSpec}
    (h : spec.fields.Reorders fields') :
    ∃ layout', ({ spec with fields := fields' } : TableSpec).build = .ok layout' ∧
      FieldsReordered layout.forest layout'.forest ∧
      (fields'.trees.head? = spec.fields.trees.head? → layout'.anchor = layout.anchor) := by
  have hsettled := TableLayout.settleFields_of_build hb
  have hfrom := hsettled
  rw [← spec.fields.ofTrees_trees] at hfrom
  obtain ⟨G', hG', hreordered⟩ := settleFields_reordered h.symm hfrom
  rw [Forest.ofTrees_trees] at hG'
  obtain ⟨anchor', children', others', rfl⟩ := hreordered.exists_node
  refine ⟨⟨spec.name, spec.necessity, anchor', children', others', spec.validators⟩, ?_, hreordered,
    fun hhead => ?_⟩
  · simp only [TableSpec.build, hG']
  · cases hF : spec.fields with
    | nil =>
      rw [hF] at hsettled
      cases hsettled
    | node f children siblings =>
      cases hF' : fields' with
      | nil => simp [hF, hF', Forest.trees] at hhead
      | node f' children' siblings' =>
        -- Both are settled as the first field, and so in the same way.
        obtain ⟨rfl, rfl⟩ : f' = f ∧ children' = children := by
          simpa [hF, hF', Forest.trees] using hhead
        rw [hF] at hsettled
        rw [hF'] at hG'
        obtain ⟨a, _, _, _, ha, _, _, he⟩ := settleFields_node_eq_ok_iff.mp hsettled
        obtain ⟨a', _, _, _, ha', _, _, he'⟩ := settleFields_node_eq_ok_iff.mp hG'
        obtain rfl := Except.ok.inj (ha.symm.trans ha')
        exact (Forest.node.inj he').1.trans (Forest.node.inj he).1.symm

end SheetTables
