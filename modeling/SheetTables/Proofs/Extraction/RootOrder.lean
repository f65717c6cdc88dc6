import Mathlib.Data.List.Perm.Basic
import SheetTables.Proofs.Extraction.Agreement
import SheetTables.Proofs.Extraction.MovedResults
import SheetTables.Proofs.Extraction.Ownership
import SheetTables.Proofs.Extraction.TableProblems
import SheetTables.Proofs.Layout.RootOrder

/-! # The order of roots

Which cells count as headers does not depend on the order of the fields, and each root is bound by
itself. So with its roots in another order a table has the same trees of headers in that order, as
long as each root is found where it was: because the anchor is the same, or because there is only
one cell for every root.
-/

namespace SheetTables

def Header.unnumbered (h : Header) : Header := { h with field := h.field.unnumbered }

def HeadersReordered (H H' : Forest Header) : Prop :=
  (H.map Header.unnumbered).Reorders (H'.map Header.unnumbered)

def Entry.content (e : Entry) : String × Cell := (e.path, e.cell)

/-- Records of one place with the same cells under the same paths. -/
structure Record.Rearranged (r r' : Record) : Prop where
  index : r'.index = r.index
  entries : (r'.entries.map Entry.content).Perm (r.entries.map Entry.content)

/-- Tables with the same headers, however their roots are ordered, and with the same records. -/
structure Table.Rearranged (t t' : Table) : Prop where
  headers : HeadersReordered t.headers t'.headers
  bound : ∀ path, ((t'.headers.toList.filter (·.path == path)).map Header.unnumbered).Perm
    ((t.headers.toList.filter (·.path == path)).map Header.unnumbered)
  header : (t.headers.toList.map (·.path)).Nodup → ∀ path,
    (t'.header? path).map Header.unnumbered = (t.header? path).map Header.unnumbered
  records : List.Forall₂ Record.Rearranged t.records t'.records

namespace Search

variable (s : Search)

theorem header_unnumbered (f : Field) (c : Cell) (missing : List Problem) :
    s.header f.unnumbered c missing = (s.header f c missing).unnumbered := by
  obtain ⟨id, parent, path, name, matcher, necessity, direction, distance, body⟩ := f
  cases body with
  | group => rfl
  | leaf data =>
    simp only [header, leafHeader, Field.unnumbered]
    cases s.grid.probe c direction distance <;> rfl

theorem bind_unnumbered {F : Forest Field} {L locate : Field → Option Cell}
    (h : ∀ f ∈ F.roots, L f.unnumbered = locate f) :
    s.bind L (F.map Field.unnumbered) =
      ((s.bind locate F).1.map Header.unnumbered, (s.bind locate F).2) := by
  induction F generalizing L locate with
  | nil => rfl
  | node f children siblings ihc ihs =>
    have hsiblings := ihs fun g hg => h g (List.mem_cons_of_mem _ hg)
    have hf := h f List.mem_cons_self
    cases hl : locate f with
    | none =>
      have habsence : absence L f.unnumbered = absence locate f := by
        unfold absence
        rw [hf]
        rfl
      rw [s.bind_none hl, Forest.map, s.bind_none (hf.trans hl), hsiblings, habsence]
    | some c =>
      -- Children are looked for by their matchers, in a region that their parent leads to.
      have hchildren : s.bind (s.locateChild f.unnumbered c) (children.map Field.unnumbered) =
          ((s.bind (s.locateChild f c) children).1.map Header.unnumbered,
            (s.bind (s.locateChild f c) children).2) := ihc fun _ _ => rfl
      rw [s.bind_some hl, Forest.map, s.bind_some (hf.trans hl), hsiblings, hchildren,
        header_unnumbered]
      rfl

theorem bind_trees (L : Field → Option Cell) (F : Forest Field) :
    (s.bind L F).1.trees = F.trees.flatMap fun t => (s.bind L (.node t.1 t.2 .nil)).1.trees := by
  induction F with
  | nil => rfl
  | node f children siblings _ ihs =>
    rw [Forest.trees, List.flatMap_cons, ← ihs]
    cases hl : L f with
    | none => rw [s.bind_none hl, s.bind_none hl]; rfl
    | some c => rw [s.bind_some hl, s.bind_some hl]; rfl

theorem bind_reordered (L : Field → Option Cell) {F G : Forest Field} (h : F.Reorders G) :
    (s.bind L F).1.Reorders (s.bind L G).1 := by
  unfold Forest.Reorders
  rw [bind_trees, bind_trees]
  exact List.Perm.flatMap_right _ h

variable {s} {s' : Search}

namespace Agree

variable (hs : s.Agree s')
include hs

theorem childRegion_eq (f : Field) (c : Cell) : s'.childRegion f c = s.childRegion f c := by
  unfold childRegion
  rw [hs.grid]

theorem header_eq (f : Field) (c : Cell) (missing : List Problem) :
    s'.header f c missing = s.header f c missing := by
  unfold header leafHeader
  rw [hs.childRegion_eq, hs.grid]
  simp only [hs.run_eq rfl rfl]

theorem bind_eq (L : Field → Option Cell) (F : Forest Field) : s'.bind L F = s.bind L F := by
  induction F generalizing L with
  | nil => rfl
  | node f children siblings ihc ihs =>
    cases hl : L f with
    | none => rw [s.bind_none hl, s'.bind_none hl, ihs]
    | some c =>
      have hchild : s'.locateChild f c = s.locateChild f c := by
        unfold locateChild
        rw [hs.childRegion_eq]
      rw [s.bind_some hl, s'.bind_some hl, ihs, hchild, ihc, hs.header_eq]

end Agree

theorem headersReordered (hs : s.Agree s') {F F' : Forest Field} (hF : FieldsReordered F F')
    {L locate locate' : Field → Option Cell} (h : ∀ f ∈ F.roots, L f.unnumbered = locate f)
    (h' : ∀ f ∈ F'.roots, L f.unnumbered = locate' f) :
    HeadersReordered (s.bind locate F).1 (s'.bind locate' F').1 := by
  have hbound : (s.bind L (F.map Field.unnumbered)).1 =
      (s.bind locate F).1.map Header.unnumbered := congrArg Prod.fst (s.bind_unnumbered h)
  have hbound' : (s.bind L (F'.map Field.unnumbered)).1 =
      (s'.bind locate' F').1.map Header.unnumbered := by
    rw [← hs.bind_eq]
    exact congrArg Prod.fst (s'.bind_unnumbered h')
  unfold HeadersReordered
  rw [← hbound, ← hbound']
  exact s.bind_reordered L hF

theorem isHeader_reordered (h : FieldsReordered s.layout.forest s'.layout.forest) (c : Cell) :
    s'.isHeader c = s.isHeader c := by
  have hany : ∀ s : Search, s.isHeader c =
      (s.layout.forest.map Field.unnumbered).toList.any (·.matcher.test c) := by
    intro s
    rw [Forest.toList_map, List.any_map]
    rfl
  rw [hany, hany]
  exact List.Perm.any_eq h.toList

end Search

theorem recordAt_content (leaves : List Header) (i : Nat) :
    (recordAt leaves i).entries.map Entry.content =
      (leaves.map Header.unnumbered).filterMap fun h => h.data[i]?.map fun c => (h.path, c) := by
  rw [recordAt, List.map_filterMap, List.filterMap_map]
  refine List.filterMap_congr fun h _ => ?_
  simp only [Header.entryAt?, Option.map_map]
  rfl

theorem Record.isEmpty_content (r : Record) :
    r.isEmpty = (r.entries.map Entry.content).all fun e => e.2.isEmpty := by
  rw [List.all_map]
  rfl

theorem longestRun_unnumbered (leaves : List Header) :
    longestRun leaves =
      (leaves.map Header.unnumbered).foldl (fun n h => max n h.data.length) 0 := by
  rw [List.foldl_map]
  rfl

section Leaves

variable {leaves leaves' : List Header}
  (h : (leaves'.map Header.unnumbered).Perm (leaves.map Header.unnumbered))
include h

theorem longestRun_perm : longestRun leaves' = longestRun leaves := by
  have hcomm : RightCommutative fun (n : Nat) (h : Header) => max n h.data.length :=
    ⟨fun n a b => Nat.max_right_comm n a.data.length b.data.length⟩
  rw [longestRun_unnumbered, longestRun_unnumbered]
  exact h.foldl_eq 0

theorem recordAt_rearranged (i : Nat) : (recordAt leaves i).Rearranged (recordAt leaves' i) where
  index := rfl
  entries := by
    rw [recordAt_content, recordAt_content]
    exact h.filterMap _

theorem records_rearranged : List.Forall₂ Record.Rearranged (records leaves) (records leaves') := by
  have hkept : ∀ r r' : Record, r.Rearranged r' → (!r.isEmpty) = !r'.isEmpty := by
    intro r r' hr
    rw [r.isEmpty_content, r'.isEmpty_content, hr.entries.all_eq]
  unfold records
  rw [longestRun_perm h]
  exact List.rel_filter (fun r r' hr => iff_of_eq (congrArg (· = true) (hkept r r' hr)))
    (forall₂_map_same fun i _ => recordAt_rearranged h i)

end Leaves

section Headers

variable {H H' : Forest Header} (h : HeadersReordered H H')
include h

theorem HeadersReordered.filter (p : Header → Bool) (hp : ∀ k : Header, p k.unnumbered = p k) :
    ((H'.toList.filter p).map Header.unnumbered).Perm
      ((H.toList.filter p).map Header.unnumbered) := by
  have hlist := h.toList
  rw [Forest.toList_map, Forest.toList_map] at hlist
  have hsame : p ∘ Header.unnumbered = p := funext hp
  have hfilter : ∀ l : List Header,
      (l.filter p).map Header.unnumbered = (l.map Header.unnumbered).filter p := by
    intro l
    rw [List.filter_map, hsame]
  rw [hfilter, hfilter]
  exact hlist.filter p

theorem HeadersReordered.find? (hpaths : (H.toList.map (·.path)).Nodup) (path : String) :
    (H'.toList.find? (·.path == path)).map Header.unnumbered =
      (H.toList.find? (·.path == path)).map Header.unnumbered := by
  have hfilter := h.filter (fun k => k.path == path) fun _ => rfl
  -- There is one header with this path at most, so that there is nothing to reorder.
  have hcount : (H.toList.filter (·.path == path)).length ≤ 1 := by
    have hle := List.nodup_iff_count_le_one.mp hpaths path
    rwa [List.count_eq_countP, List.countP_map, List.countP_eq_length_filter] at hle
  have heq : (H'.toList.filter (·.path == path)).map Header.unnumbered =
      (H.toList.filter (·.path == path)).map Header.unnumbered := by
    cases hl : H.toList.filter (·.path == path) with
    | nil =>
      rw [hl] at hfilter
      exact hfilter.eq_nil
    | cons k ks =>
      rw [hl, List.length_cons] at hcount
      obtain rfl := List.length_eq_zero_iff.mp (Nat.le_zero.mp (Nat.le_of_succ_le_succ hcount))
      rw [hl] at hfilter
      exact List.perm_singleton.mp hfilter
  rw [← List.head?_filter, ← List.head?_filter, ← List.head?_map, ← List.head?_map, heq]

theorem HeadersReordered.assemble (t t' : TableLayout) (missing missing' : List Problem) :
    (Table.assemble t H missing).Rearranged (.assemble t' H' missing') where
  headers := h
  bound path := h.filter (fun k => k.path == path) fun _ => rfl
  header := h.find?
  records := records_rearranged (h.filter (fun k => k.field.isLeaf) fun _ => rfl)

end Headers

namespace Search

variable {spec spec' : TableSpec} {s s' : Search} (hb : spec.build = .ok s.layout)
  (hb' : spec'.build = .ok s'.layout) (hs : s.Agree s')
  (hF : FieldsReordered s.layout.forest s'.layout.forest)

include hb in
theorem locateRoot_path {f : Field} (hf : f ∈ s.layout.roots) (candidates anchors : List Cell)
    (occurrence : Nat) (a : Cell) : s.locateRoot candidates anchors occurrence a f =
      if f.path = s.layout.anchor.path then some a
      else leastBy a.distance <| candidates.filter fun c =>
        f.matcher.test c && nearestAnchor? anchors c == some occurrence := by
  have hiff : f.id = s.layout.anchor.id ↔ f.path = s.layout.anchor.path := by
    rcases List.mem_cons.mp hf with rfl | hother
    · exact iff_of_true rfl rfl
    · have hpaths := (List.nodup_cons.mp (TableLayout.roots_paths hb)).1
      refine iff_of_false (TableLayout.id_ne_anchor hb hother) fun hpath => hpaths ?_
      exact List.mem_map.mpr ⟨f, hother, hpath⟩
  unfold locateRoot
  simp only [hiff]

include hb hb' hs hF in
theorem tables_rearranged_anchor (hanchor : s'.layout.anchor = s.layout.anchor) :
    List.Forall₂ Table.Rearranged s.tables s'.tables := by
  have hanchors : s'.anchors = s.anchors := by
    unfold anchors
    rw [hs.candidates, hanchor]
  rw [tables_eq, tables_eq, hanchors, hs.candidates]
  refine forall₂_map_same fun p _ => ?_
  -- With the anchor told by its path, one rule finds the roots of both, and it knows no numbers.
  let L := fun f : Field =>
    if f.path = s.layout.anchor.path then some p.1
    else leastBy p.1.distance <| s.candidates.filter fun c =>
      f.matcher.test c && nearestAnchor? s.anchors c == some p.2
  have hroots : ∀ f ∈ s.layout.forest.roots,
      L f.unnumbered = s.locateRoot s.candidates s.anchors p.2 p.1 f :=
    fun f hf => (locateRoot_path hb hf _ _ _ _).symm
  have hroots' : ∀ f ∈ s'.layout.forest.roots,
      L f.unnumbered = s'.locateRoot s.candidates s.anchors p.2 p.1 f := by
    intro f hf
    rw [locateRoot_path hb' hf, hanchor]
    rfl
  exact (headersReordered hs hF hroots hroots').assemble _ _ _ _

/-- Each root has a single cell among the candidates. -/
def OneCellEach (s : Search) : Prop :=
  ∀ f ∈ s.layout.roots, ∃ c, (s.candidates.filter fun c => f.matcher.test c) = [c]

include hs hF in
theorem OneCellEach.reordered (h : s.OneCellEach) : s'.OneCellEach := by
  intro f' hf'
  obtain ⟨f, hf, hsame⟩ := hF.exists_root hf'
  have hmatcher : f.matcher = f'.matcher := by simpa using congrArg Field.matcher hsame
  rw [hs.candidates, ← hmatcher]
  exact h f hf

include hb in
theorem OneCellEach.locateRoot (h : s.OneCellEach) : ∃ a, s.anchors = [a] ∧
    ∀ f ∈ s.layout.roots, s.locateRoot s.candidates s.anchors 0 a f =
      s.candidates.find? fun c => f.matcher.test c := by
  obtain ⟨a, ha⟩ := h s.layout.anchor List.mem_cons_self
  have hanchors : s.anchors = [a] := ha
  refine ⟨a, hanchors, fun f hf => ?_⟩
  obtain ⟨c, hc⟩ := h f hf
  rw [← List.head?_filter, hc]
  rcases List.mem_cons.mp hf with rfl | hother
  · rw [locateRoot_anchor, List.head?_cons]
    exact List.cons.inj (ha.symm.trans hc) |>.1 ▸ rfl
  · have hnear : (s.candidates.filter fun c =>
        f.matcher.test c && nearestAnchor? [a] c == some 0) = [c] := by
      have hnearest : ∀ c, (nearestAnchor? [a] c == some 0) = true := fun _ => rfl
      simp only [hnearest, Bool.and_true, hc]
    rw [Search.locateRoot, if_neg (TableLayout.id_ne_anchor hb hother), hanchors, hnear]
    rfl

include hb hb' hs hF in
theorem tables_rearranged_single (h : s.OneCellEach) :
    List.Forall₂ Table.Rearranged s.tables s'.tables := by
  obtain ⟨a, ha, hroots⟩ := h.locateRoot hb
  obtain ⟨a', ha', hroots'⟩ := (h.reordered hs hF).locateRoot hb'
  -- The matchers alone find the roots.
  let L := fun f : Field => s.candidates.find? fun c => f.matcher.test c
  have hL : ∀ f ∈ s.layout.forest.roots,
      L f.unnumbered = s.locateRoot s.candidates s.anchors 0 a f := fun f hf => (hroots f hf).symm
  have hL' : ∀ f ∈ s'.layout.forest.roots,
      L f.unnumbered = s'.locateRoot s'.candidates s'.anchors 0 a' f := by
    intro f hf
    rw [hroots' f hf, hs.candidates]
    rfl
  rw [s.tables_eq_single ha, s'.tables_eq_single ha']
  exact .cons ((headersReordered hs hF hL hL').assemble _ _ _ _) .nil

end Search

theorem existsUnique_candidate_iff {g : Grid} (ht : g.Tiled) (layout : TableLayout)
    {criteria : Criteria} {area : Range} (ha : searchArea? g criteria = some area)
    (p : Cell → Bool) : (∃! c, Candidate g criteria c ∧ p c) ↔
      ∃ c, (searchIn layout g criteria area).candidates.filter p = [c] := by
  have hmem : ∀ c, c ∈ (searchIn layout g criteria area).candidates.filter p ↔
      Candidate g criteria c ∧ p c := by
    intro c
    rw [List.mem_filter, mem_candidates ht ha]
  constructor
  · rintro ⟨c, hc, hunique⟩
    have hnodup : ((searchIn layout g criteria area).candidates.filter p).Nodup :=
      ((Grid.cellsIn_distinct (criteria.tiled_view ht) area).imp
        fun hne he => hne (congrArg Cell.range he)).filter p
    have hsingle : ∀ k, k ∈ (searchIn layout g criteria area).candidates.filter p ↔ k ∈ [c] := by
      intro k
      rw [hmem, List.mem_singleton]
      exact ⟨hunique k, fun he => he ▸ hc⟩
    exact ⟨c, List.perm_singleton.mp
      ((List.perm_ext_iff_of_nodup hnodup (List.nodup_singleton c)).mpr hsingle)⟩
  · rintro ⟨c, hc⟩
    refine ⟨c, (hmem c).mp (hc ▸ List.mem_singleton_self c), fun k hk => ?_⟩
    exact List.mem_singleton.mp (hc ▸ (hmem k).mpr hk)

/-- The order of the roots beyond the anchor has no part in what is found, and where every root has
one cell neither has the choice of the anchor. -/
theorem recognize_rearranged {spec : TableSpec} {layout : TableLayout}
    (hb : spec.build = .ok layout) {fields' : Forest FieldSpec}
    (h : spec.fields.Reorders fields') (s : Sheet) (criteria : Criteria)
    (hwhen : fields'.trees.head? = spec.fields.trees.head? ∨
      ∀ f ∈ layout.roots, ∃! c, Candidate s.grid criteria c ∧ f.matcher.test c) :
    ∃ layout', ({ spec with fields := fields' } : TableSpec).build = .ok layout' ∧
      List.Forall₂ Table.Rearranged (recognize layout s.grid criteria).1
        (recognize layout' s.grid criteria).1 := by
  obtain ⟨layout', hb', hF, hhead⟩ := TableSpec.build_reordered hb h
  refine ⟨layout', hb', ?_⟩
  rw [recognize_fst, recognize_fst]
  cases ha : searchArea? s.grid criteria with
  | none => exact .nil
  | some area =>
    let search := searchIn layout s.grid criteria area
    let search' := searchIn layout' s.grid criteria area
    have hs : search.Agree search' := ⟨rfl, rfl, rfl, Search.isHeader_reordered hF⟩
    rcases hwhen with hsame | hone
    · exact Search.tables_rearranged_anchor hb hb' hs hF (hhead hsame)
    · refine Search.tables_rearranged_single hb hb' hs hF fun f hf => ?_
      exact (existsUnique_candidate_iff s.tiled layout ha _).mp (hone f hf)

def keyedReversed : Forest FieldSpec := .ofTrees keyedSpec.fields.trees.reverse

def keyedReversedLayout : TableLayout :=
  { keyedLayout with
    anchor := keyedField 0 "Name"
    others := .node (keyedField 1 "Age") .nil .nil }

def rosterReordered : Forest FieldSpec :=
  .ofTrees (rosterSpec.fields.trees.take 1 ++ (rosterSpec.fields.trees.drop 1).reverse)

theorem keyedReversed_reorders : keyedSpec.fields.Reorders keyedReversed := by
  unfold Forest.Reorders keyedReversed
  rw [Forest.trees_ofTrees]
  exact List.reverse_perm _

theorem rosterReordered_reorders : rosterSpec.fields.Reorders rosterReordered := by
  unfold Forest.Reorders rosterReordered
  rw [Forest.trees_ofTrees]
  have hrest := (List.reverse_perm (rosterSpec.fields.trees.drop 1)).append_left
    (rosterSpec.fields.trees.take 1)
  rwa [List.take_append_drop] at hrest

theorem keyedColumn_single : ∀ f ∈ keyedLayout.roots,
    ∃! c, Candidate (keyedColumn [0] [3]).grid {} c ∧ f.matcher.test c := by
  have harea : searchArea? (keyedColumn [0] [3]).grid {} = some (.ofCorners 0 0 3 0) := by decide
  intro f hf
  refine (existsUnique_candidate_iff (keyedColumn [0] [3]).tiled keyedLayout harea _).mpr ?_
  rcases List.mem_cons.mp hf with rfl | hf
  · exact ⟨(keyedColumn [0] [3]).grid.cellAt 0 0, rfl⟩
  · obtain rfl := List.mem_singleton.mp hf
    exact ⟨(keyedColumn [0] [3]).grid.cellAt 3 0, rfl⟩

/-- With one cell for each value either may be the anchor; the anchor of the roster stays. -/
theorem recognize_rearranged_keyed :
    let s := keyedColumn [0] [3]
    (keyedSpec.build = .ok keyedLayout ∧ keyedSpec.fields.Reorders keyedReversed ∧
      (recognize keyedReversedLayout s.grid {}).1.map
          (fun t => t.headers.toList.map fun h => (h.path, h.cell.row)) =
        [[("Name", 3), ("Age", 0)]] ∧
      List.Forall₂ Table.Rearranged (recognize keyedLayout s.grid {}).1
        (recognize keyedReversedLayout s.grid {}).1) ∧
    rosterSpec.build = .ok rosterLayout ∧ rosterSpec.fields.Reorders rosterReordered ∧
      rosterReordered.trees.head? = rosterSpec.fields.trees.head? ∧
      ∃ layout', ({ rosterSpec with fields := rosterReordered } : TableSpec).build = .ok layout' ∧
        List.Forall₂ Table.Rearranged (recognize rosterLayout rosterSheet.grid {}).1
          (recognize layout' rosterSheet.grid {}).1 := by
  intro s
  obtain ⟨layout', hb, htables⟩ := recognize_rearranged keyedSpec_build keyedReversed_reorders s {}
    (Or.inr keyedColumn_single)
  have hkeyed : ({ keyedSpec with fields := keyedReversed } : TableSpec).build =
      .ok keyedReversedLayout := rfl
  obtain rfl := Except.ok.inj (hkeyed.symm.trans hb)
  exact ⟨⟨keyedSpec_build, keyedReversed_reorders, by decide, htables⟩, rosterSpec_build,
    rosterReordered_reorders, rfl, recognize_rearranged rosterSpec_build rosterReordered_reorders
      rosterSheet {} (Or.inl rfl)⟩

end SheetTables
