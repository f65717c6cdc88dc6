import Mathlib.Data.List.Find
import SheetTables.Proofs.Extraction.Assembly
import SheetTables.Proofs.Layout.Lineages

/-! # Paths of fields

Fields of an accepted description never have the same chain of names, as names side by side
differ. Their paths join these names with dots, and a name may have dots of its own: then two
chains can be joined to one path, which no longer tells the fields apart. Where all joined chains
differ, and so where no name has a dot, a path stands for its field in every look-up, and a record
has a value under each of its paths.
-/

namespace SheetTables

/-- The names from the root down to a field. -/
def chainOf (lineage : List FieldSpec) : List String := lineage.map (·.name)

def TableSpec.chains (spec : TableSpec) : List (List String) :=
  (spec.fields.lineages []).map chainOf

structure PathsIdentify (layout : TableLayout) : Prop where
  distinct : (layout.fields.map (·.path)).Nodup
  found : ∀ f ∈ layout.fields, layout.find? f.path = some f
  values : ∀ (s : Sheet) (criteria : Criteria), ∀ t ∈ (recognize layout s.grid criteria).1,
    ∀ r ∈ t.records, ∀ f ∈ layout.leaves, r.value? f.path = r.get? f.id
  keys : ∀ (s : Sheet) (criteria : Criteria), ∀ t ∈ (recognize layout s.grid criteria).1,
    ∀ r ∈ t.records, r.toMap = r.entries.map (fun e => (e.path, e.cell.value)) ∧
      (r.toMap.map Prod.fst).Nodup

theorem settleFields_unseen {around : Option Surroundings} {id : Nat} {seen : List String}
    {F : Forest FieldSpec} {G : Forest Field} (h : settleFields around id seen F = .ok G) :
    ∀ f ∈ F.roots, f.name ∉ seen := by
  induction F generalizing id seen G with
  | nil => simp [Forest.roots]
  | node f children siblings _ ihs =>
    obtain ⟨_, _, _, hseen, _, _, hr, _⟩ := settleFields_node_eq_ok_iff.mp h
    intro g hg
    rcases List.mem_cons.mp hg with rfl | hg
    · exact hseen
    · exact fun hm => ihs hr g hg (List.mem_cons_of_mem _ hm)

theorem settleFields_chains (above : List FieldSpec) {around : Option Surroundings} {id : Nat}
    {seen : List String} {F : Forest FieldSpec} {G : Forest Field}
    (h : settleFields around id seen F = .ok G) : ((F.lineages above).map chainOf).Nodup := by
  induction F generalizing above around id seen G with
  | nil => exact List.nodup_nil
  | node f children siblings ihc ihs =>
    obtain ⟨field, inner, rest, _, _, hi, hr, _⟩ := settleFields_node_eq_ok_iff.mp h
    -- A chain of the node or below it goes on with the name of the node, one of a sibling does not.
    have hsiblings : ∀ below : List FieldSpec, ∀ l ∈ siblings.lineages above,
        chainOf (above ++ f :: below) ≠ chainOf l := by
      intro below l hl he
      obtain ⟨g, hg, below', rfl⟩ := Forest.mem_lineages hl
      simp only [chainOf, List.map_append, List.map_cons, List.append_cancel_left_eq,
        List.cons.injEq] at he
      exact settleFields_unseen hr g hg (he.1 ▸ List.mem_cons_self)
    simp only [Forest.lineages, List.map_cons, List.map_append, List.nodup_cons,
      List.mem_append, List.mem_map, not_or, not_exists, not_and]
    refine ⟨⟨?_, ?_⟩, List.Nodup.append (ihc (above ++ [f]) hi) (ihs above hr) ?_⟩
    · intro l hl he
      obtain ⟨g, _, below, rfl⟩ := Forest.mem_lineages hl
      have hlen := congrArg List.length he
      simp [chainOf] at hlen
    · exact fun l hl he => hsiblings [] l hl he.symm
    · intro chain hc hs
      obtain ⟨l, hl, rfl⟩ := List.mem_map.mp hc
      obtain ⟨l', hl', he⟩ := List.mem_map.mp hs
      obtain ⟨g, _, below, rfl⟩ := Forest.mem_lineages hl
      exact hsiblings (g :: below) l' hl' (by simpa using he.symm)

theorem mem_of_mem_lineages {above l : List FieldSpec} {F : Forest FieldSpec}
    (hl : l ∈ F.lineages above) : ∀ f ∈ l, f ∈ above ∨ f ∈ F.toList := by
  induction F generalizing above with
  | nil => cases hl
  | node a children siblings ihc ihs =>
    simp only [Forest.lineages, Forest.toList, List.mem_cons, List.mem_append] at hl ⊢
    intro f hf
    rcases hl with rfl | hl | hl
    · simp only [List.mem_append, List.mem_singleton] at hf
      tauto
    · rcases ihc hl f hf with h | h
      · simp only [List.mem_append, List.mem_singleton] at h
        tauto
      · tauto
    · have := ihs hl f hf
      tauto

theorem splitOn_intercalate_dot {chain : List String} (hne : chain ≠ [])
    (hdot : ∀ name ∈ chain, '.' ∉ name.toList) :
    (".".intercalate chain).toList.splitOn '.' = chain.map String.toList := by
  rw [String.toList_intercalate]
  refine List.splitOn_intercalate '.' ?_ (by simpa using hne)
  intro l hl
  obtain ⟨name, hname, rfl⟩ := List.mem_map.mp hl
  exact hdot name hname

theorem Record.toMap_eq {r : Record} (h : (r.entries.map (·.path)).Nodup) :
    r.toMap = r.entries.map fun e => (e.path, e.cell.value) := by
  -- What is there already has none of the paths to come, so nothing is replaced.
  have hfold : ∀ (entries : List Entry) (m : List (String × Value)),
      (entries.map (·.path)).Nodup → (∀ e ∈ entries, ∀ p ∈ m, p.1 ≠ e.path) →
      entries.foldl (fun m e => (m.filter (·.1 != e.path)) ++ [(e.path, e.cell.value)]) m =
        m ++ entries.map fun e => (e.path, e.cell.value) := by
    intro entries
    induction entries with
    | nil => simp
    | cons e entries ih =>
      intro m hnodup hm
      obtain ⟨he, hnodup⟩ := List.nodup_cons.mp hnodup
      have hkeep : m.filter (·.1 != e.path) = m :=
        List.filter_eq_self.mpr fun p hp => by simpa using hm e List.mem_cons_self p hp
      rw [List.foldl_cons, hkeep, ih _ hnodup]
      · simp
      · intro e' he' p hp
        rcases List.mem_append.mp hp with hp | hp
        · exact hm e' (List.mem_cons_of_mem _ he') p hp
        · obtain rfl := List.mem_singleton.mp hp
          exact fun heq => he (List.mem_map.mpr ⟨e', he', heq.symm⟩)
  exact hfold r.entries [] h (by simp)

namespace TableLayout

variable {layout : TableLayout} (hpaths : (layout.fields.map (·.path)).Nodup)
include hpaths

theorem find?_path {f : Field} (hf : f ∈ layout.fields) : layout.find? f.path = some f := by
  obtain ⟨g, hg⟩ : ∃ g, layout.find? f.path = some g := by
    rw [← Option.isSome_iff_exists, find?, List.find?_isSome]
    exact ⟨f, hf, by simp⟩
  have hpath : g.path = f.path := by
    unfold find? at hg
    simpa using List.find?_some hg
  rw [hg, List.inj_on_of_nodup_map hpaths (List.mem_of_find?_eq_some hg) hf hpath]

end TableLayout

theorem recognize_entries {layout : TableLayout} {s : Sheet} {criteria : Criteria} {t : Table}
    (ht : t ∈ (recognize layout s.grid criteria).1) {r : Record} (hr : r ∈ t.records) {e : Entry}
    (he : e ∈ r.entries) : ∃ f ∈ layout.fields, e.field = f.id ∧ e.path = f.path := by
  obtain ⟨area, _, ht⟩ := mem_recognize ht
  let search := searchIn layout s.grid criteria area
  rw [search.table_records ht] at hr
  rw [(mem_records.mp hr).2] at he
  obtain ⟨h, hh, hentry⟩ := mem_recordAt_entries.mp he
  have hview : search.grid.Tiled := criteria.tiled_view s.tiled
  obtain ⟨_, hfield, _⟩ := search.header_of_mem hview ht (List.mem_filter.mp hh).1
  exact ⟨h.field, hfield, hentry.field, hentry.path⟩

section Built

variable {spec : TableSpec} {layout : TableLayout} (h : spec.build = .ok layout)
include h

theorem chains_nodup : spec.chains.Nodup :=
  settleFields_chains [] (TableLayout.settleFields_of_build h)

theorem fields_paths : layout.fields.map (·.path) = spec.chains.map ".".intercalate := by
  have hlisted := settleFields_lineages surrounds_nil (TableLayout.settleFields_of_build h)
  have hpaths : List.Forall₂ (fun l (f : Field) => ".".intercalate (chainOf l) = f.path)
      (spec.fields.lineages []) layout.fields := hlisted.imp fun _ _ hd => hd.path.symm
  rw [TableSpec.chains, List.map_map]
  exact (List.forall₂_eq_eq_eq ▸ List.forall₂_map_left_iff.mpr
    (List.forall₂_map_right_iff.mpr hpaths)).symm

theorem chains_joined_nodup (hdot : ∀ f ∈ spec.fields.toList, '.' ∉ f.name.toList) :
    (spec.chains.map ".".intercalate).Nodup := by
  have hnames : ∀ chain ∈ spec.chains, chain ≠ [] ∧ ∀ name ∈ chain, '.' ∉ name.toList := by
    intro chain hc
    obtain ⟨l, hl, rfl⟩ := List.mem_map.mp hc
    constructor
    · obtain ⟨f, _, below, rfl⟩ := Forest.mem_lineages hl
      simp [chainOf]
    · intro name hname
      obtain ⟨f, hf, rfl⟩ := List.mem_map.mp hname
      exact hdot f (by simpa using mem_of_mem_lineages hl f hf)
  refine List.Nodup.map_on (fun chain hc chain' hc' he => ?_) (chains_nodup h)
  obtain ⟨hne, hd⟩ := hnames chain hc
  obtain ⟨hne', hd'⟩ := hnames chain' hc'
  have hsplit := congrArg (fun s : String => s.toList.splitOn '.') he
  simp only [splitOn_intercalate_dot hne hd, splitOn_intercalate_dot hne' hd'] at hsplit
  exact List.map_injective_iff.mpr (fun _ _ => String.toList_inj.mp) hsplit

theorem recognize_entries_sorted {s : Sheet} {criteria : Criteria} {t : Table}
    (ht : t ∈ (recognize layout s.grid criteria).1) {r : Record} (hr : r ∈ t.records) :
    r.entries.Pairwise fun e e' => e.field < e'.field := by
  obtain ⟨area, _, ht⟩ := mem_recognize ht
  let search := searchIn layout s.grid criteria area
  rw [search.table_records ht] at hr
  rw [(mem_records.mp hr).2]
  exact recordAt_sorted (search.leafHeaders_sorted h ht) r.index

theorem pathsIdentify_of_nodup (hpaths : (layout.fields.map (·.path)).Nodup) :
    PathsIdentify layout := by
  have hids : (layout.fields.map (·.id)).Nodup :=
    TableLayout.fields_ids h ▸ List.nodup_range
  constructor
  · exact hpaths
  · exact fun f hf => TableLayout.find?_path hpaths hf
  · intro s criteria t ht r hr f hf
    have hf := (List.mem_filter.mp hf).1
    have hfind : r.entries.find? (·.path == f.path) = r.entries.find? (·.field == f.id) := by
      refine List.find?_congr fun e he => ?_
      obtain ⟨g, hg, hid, hpath⟩ := recognize_entries ht hr he
      have hiff : g.path = f.path ↔ g.id = f.id :=
        ⟨fun hp => congrArg _ (List.inj_on_of_nodup_map hpaths hg hf hp),
          fun hi => congrArg _ (List.inj_on_of_nodup_map hids hg hf hi)⟩
      rw [hid, hpath, Bool.eq_iff_iff]
      simpa using hiff
    cases he : r.entries.find? (·.field == f.id) <;>
      simp [Record.value?, Record.get?, Record.cell?, hfind, he]
  · intro s criteria t ht r hr
    have hnodup : (r.entries.map (·.path)).Nodup := by
      refine List.pairwise_map.mpr ((recognize_entries_sorted h ht hr).imp_of_mem ?_)
      intro e e' he he' hlt heq
      obtain ⟨g, hg, hid, hpath⟩ := recognize_entries ht hr he
      obtain ⟨g', hg', hid', hpath'⟩ := recognize_entries ht hr he'
      obtain rfl := List.inj_on_of_nodup_map hpaths hg hg' (hpath ▸ hpath' ▸ heq)
      omega
    have hmap := Record.toMap_eq hnodup
    exact ⟨hmap, by rw [hmap, List.map_map]; exact hnodup⟩

end Built

/-- Chains of names tell the fields of an accepted description apart, and paths do so exactly where
no two chains are joined to one path, for which it is enough that no name has a dot. -/
theorem build_paths {spec : TableSpec} {layout : TableLayout} (h : spec.build = .ok layout) :
    spec.chains.Nodup ∧ layout.fields.map (·.path) = spec.chains.map ".".intercalate ∧
      (PathsIdentify layout ↔ (spec.chains.map ".".intercalate).Nodup) ∧
      ((∀ f ∈ spec.fields.toList, '.' ∉ f.name.toList) → PathsIdentify layout) := by
  have hpaths := fields_paths h
  have hiff : PathsIdentify layout ↔ (spec.chains.map ".".intercalate).Nodup := by
    rw [← hpaths]
    exact ⟨fun hp => hp.distinct, pathsIdentify_of_nodup h⟩
  exact ⟨chains_nodup h, hpaths, hiff, fun hdot => hiff.mpr (chains_joined_nodup h hdot)⟩

theorem build_paths_order : orderSpec.build = .ok orderLayout ∧
    (∀ f ∈ orderSpec.fields.toList, '.' ∉ f.name.toList) ∧ PathsIdentify orderLayout := by
  have hbuild : orderSpec.build = .ok orderLayout := rfl
  have hdot : ∀ f ∈ orderSpec.fields.toList, '.' ∉ f.name.toList := by
    simp [orderSpec, Forest.toList]
  exact ⟨hbuild, hdot, (build_paths hbuild).2.2.2 hdot⟩

/-- A group with one value, and a value beside it whose name is the path of the other. -/
def dottedSpec : TableSpec where
  name := "Sales"
  fields :=
    let leaf := fun (name : String) (direction : Option Direction) =>
      { name, matcher := labelled name, role := .leaf, direction,
        data := some { layout := .fixed 1 } : FieldSpec }
    .node { name := "Q", matcher := labelled "Q", role := .group, direction := some .down }
      (.node (leaf "1" none) .nil .nil)
      (.node (leaf "Q.1" (some .down)) .nil .nil)

def dottedField (id : Nat) (parent : Option Nat) (name : String) : Field :=
  { id, parent, path := "Q.1", name, matcher := labelled name, necessity := .required,
    direction := .down, distance := 1, body := .leaf { layout := .fixed 1 } }

def dottedLayout : TableLayout where
  name := "Sales"
  necessity := .required
  anchor :=
    { id := 0, parent := none, path := "Q", name := "Q", matcher := labelled "Q",
      necessity := .required, direction := .down, distance := 1, body := .group }
  anchorChildren := .node (dottedField 1 (some 0) "1") .nil .nil
  others := .node (dottedField 2 none "Q.1") .nil .nil
  validators := []

def dottedSheet : Sheet :=
  .ofEdits "Sheet1"
    [.push 0 0 (.text "Q"), .push 0 1 (.text "Q.1"), .push 1 0 (.text "1"),
      .push 1 1 (.text "20"), .push 2 0 (.text "10")]

/-- Both values go under one path: looked up by it, only the first is found, and in the record of
both only the second is left under it. -/
theorem dotted_path_shared :
    dottedSpec.build = .ok dottedLayout ∧ ¬ PathsIdentify dottedLayout ∧
      dottedLayout.fields.map (fun f => (f.id, f.path)) = [(0, "Q"), (1, "Q.1"), (2, "Q.1")] ∧
      (dottedLayout.find? "Q.1").map (·.id) = some 1 ∧
      (recognize dottedLayout dottedSheet.grid {}).1.map (fun t => t.records.map fun r =>
          (r.get? 1, r.get? 2, r.value? "Q.1", r.toMap)) =
        [[(some (.text "10"), some (.text "20"), some (.text "10"), [("Q.1", .text "20")])]] := by
  refine ⟨rfl, fun h => ?_, rfl, rfl, rfl⟩
  have hdistinct := h.distinct
  revert hdistinct
  decide

end SheetTables
