import Mathlib.Data.List.Chain
import SheetTables.Proofs.Extraction.FixedRun
import SheetTables.Proofs.Extraction.HeadersApart
import SheetTables.Proofs.Extraction.Ownership

/-! # Data of different tables

Without merged regions no cell is reached by one step from two others. So two tables that do not
share the header of a field share none of the headers below it either. And two runs that meet have
come the same way: one of them has then gone over the header of the other, which no open run does.
-/

namespace SheetTables

section Chains

variable {α : Type} {R : α → α → Prop} {a b x : α} {as bs : List α}

theorem exists_of_isChain (h : (a :: as).IsChain R) (hx : x ∈ as) : ∃ k ∈ a :: as, R k x := by
  induction as generalizing a with
  | nil => cases hx
  | cons b bs ih =>
    obtain ⟨hab, hrest⟩ := List.isChain_cons_cons.mp h
    rcases List.mem_cons.mp hx with rfl | hx
    · exact ⟨a, List.mem_cons_self, hab⟩
    · obtain ⟨k, hk, hkx⟩ := ih hrest hx
      exact ⟨k, List.mem_cons_of_mem _ hk, hkx⟩

/-- Where nothing comes after two different items, chains that meet past their heads have one head,
or one of them goes over the head of the other. -/
theorem heads_of_meeting (hback : ∀ a b k, R a k → R b k → a = b) (ha : (a :: as).IsChain R)
    (hb : (b :: bs).IsChain R) (hx : x ∈ as) (hx' : x ∈ bs) : a = b ∨ a ∈ bs ∨ b ∈ as := by
  induction as generalizing a with
  | nil => cases hx
  | cons k ks ih =>
    obtain ⟨hak, hrest⟩ := List.isChain_cons_cons.mp ha
    -- Where the other chain goes over `k`, it comes from `a` as well.
    have hstep : k ∈ bs → a = b ∨ a ∈ bs ∨ b ∈ k :: ks := by
      intro hk
      obtain ⟨l, hl, hlk⟩ := exists_of_isChain hb hk
      obtain rfl := hback _ _ _ hak hlk
      rcases List.mem_cons.mp hl with rfl | hl
      · exact Or.inl rfl
      · exact Or.inr (Or.inl hl)
    rcases List.mem_cons.mp hx with rfl | hx
    · exact hstep hx'
    · rcases ih hrest hx with rfl | hk | hmem
      · exact Or.inr (Or.inr List.mem_cons_self)
      · exact hstep hk
      · exact Or.inr (Or.inr (List.mem_cons_of_mem _ hmem))

end Chains

theorem Direction.single_of_shift? {d : Direction} {row col row' col' n : Nat} {strip : Range}
    (h : d.shift? (.single row col) n = some strip)
    (h' : d.shift? (.single row' col') n = some strip) : row = row' ∧ col = col' := by
  cases d <;> simp only [shift?, Option.ite_none_right_eq_some, Option.some.injEq] at h h' <;>
    obtain ⟨_, rfl⟩ := h <;> obtain ⟨_, h'⟩ := h' <;>
    simp only [Range.mk.injEq, Range.single] at * <;> omega

namespace Grid

variable {g : Grid} {d : Direction} {a b c k : Cell}

def Next (g : Grid) (d : Direction) (c k : Cell) : Prop :=
  g.Holds c ∧ k ∈ g.beside d c

namespace Unmerged

variable (hg : g.Unmerged)
include hg

theorem range_eq (hc : g.Holds c) : c.range = .single c.row c.col :=
  hc.range_eq.trans (hg.coverAt c.row c.col)

theorem eq_of_range_eq (hc : g.Holds c) (hk : g.Holds k) (h : c.range = k.range) : c = k := by
  rw [hg.range_eq hc, hg.range_eq hk] at h
  obtain ⟨hrow, hcol, _⟩ := Range.mk.inj h
  rw [hc, hk, hrow, hcol]

theorem shift?_of_next (h : g.Next d c k) : d.shift? c.range 1 = some k.range := by
  obtain ⟨hc, hk⟩ := h
  unfold beside at hk
  rw [hg.range_eq hc] at hk ⊢
  cases hstrip : d.shift? (.single c.row c.col) 1 with
  | none => simp [hstrip] at hk
  | some strip =>
    obtain ⟨row, col, rfl⟩ := Direction.exists_single_of_shift? hstrip
    simp only [hstrip, hg.cellsIn_single, List.mem_singleton] at hk
    rw [hk]
    exact congrArg some (hg.coverAt row col).symm

theorem next_unique (ha : g.Next d a k) (hb : g.Next d b k) : a = b := by
  have hak := hg.shift?_of_next ha
  have hbk := hg.shift?_of_next hb
  rw [hg.range_eq ha.1] at hak
  rw [hg.range_eq hb.1] at hbk
  obtain ⟨hrow, hcol⟩ := Direction.single_of_shift? hak hbk
  rw [ha.1, hb.1, hrow, hcol]

theorem probeAll_unique (ht : g.Tiled) {n : Nat} (ha : g.Holds a) (hb : g.Holds b)
    (hak : k ∈ g.probeAll a d n) (hbk : k ∈ g.probeAll b d n) : a = b := by
  have hlast : ∀ {c k : Cell} {n : Nat}, g.Holds c → k ∈ g.probeAll c d (n + 1) →
      ∃ l ∈ g.probeAll c d n, g.Next d l k := by
    intro c k n hc hk
    rw [probeAll_add ht hc] at hk
    obtain ⟨l, hl, hlk⟩ := List.mem_flatMap.mp (mem_of_mem_eraseDups _ hk)
    exact ⟨l, hl, probeAll_holds ht hc l hl, probeAll_one ht l d ▸ hlk⟩
  induction n generalizing k with
  | zero => exact (List.mem_singleton.mp hak).symm.trans (List.mem_singleton.mp hbk)
  | succ n ih =>
    obtain ⟨l, hl, hlk⟩ := hlast ha hak
    obtain ⟨m, hm, hmk⟩ := hlast hb hbk
    exact ih hl (hg.next_unique hlk hmk ▸ hm)

end Unmerged

theorem next_of_probe (ht : g.Tiled) (hc : g.Holds c) (h : g.probe c d 1 = .ok k) :
    g.Next d c k := by
  rw [probe_eq_ok_iff, probeAll_one ht] at h
  exact ⟨hc, h ▸ List.mem_singleton_self k⟩

end Grid

theorem Walks.isChain {g : Grid} (ht : g.Tiled) {d : Direction} {a c : Cell} {cells : List Cell}
    {problems : List Problem} (ha : g.Next d a c) (h : Walks g d c cells problems) :
    (a :: cells).IsChain (g.Next d) := by
  induction h generalizing a with
  | turned c => exact .singleton a
  | halted c => exact .cons_cons ha (.singleton c)
  | failed h => exact .cons_cons ha (.singleton _)
  | stepped h _ ih =>
    have hc := (Grid.mem_beside ht ha.1 ha.2).1
    exact .cons_cons ha (ih (Grid.next_of_probe ht hc h))

namespace Search

variable (s : Search)

theorem mem_bind_node {locate : Field → Option Cell} {f : Field} {children siblings : Forest Field}
    {h : Header} (hh : h ∈ (s.bind locate (.node f children siblings)).1.toList) :
    (∃ c, locate f = some c ∧ (h.field = f ∧ h.cell = c ∨
      h ∈ (s.bind (s.locateChild f c) children).1.toList)) ∨
      h ∈ (s.bind locate siblings).1.toList := by
  cases hl : locate f with
  | none =>
    rw [s.bind_none hl] at hh
    exact Or.inr hh
  | some c =>
    rw [s.bind_some hl] at hh
    simp only [Forest.toList, List.mem_cons, List.mem_append] at hh
    rcases hh with rfl | hh | hh
    · exact Or.inl ⟨c, rfl, Or.inl ⟨s.header_field f c _, s.header_cell f c _⟩⟩
    · exact Or.inl ⟨c, rfl, Or.inr hh⟩
    · exact Or.inr hh

theorem field_of_mem_bind {locate : Field → Option Cell} {F : Forest Field} {h : Header}
    (hh : h ∈ (s.bind locate F).1.toList) : h.field ∈ F.toList :=
  (s.bind_fields_sublist locate F).subset (List.mem_map_of_mem hh)

/-- A relation between two cells of a field that holds of the roots, and of the children of all
that are in it, holds of the cells that any field has in two results. -/
theorem bind_paired {R : Field → Cell → Cell → Prop}
    (hchild : ∀ f c c', R f c c' → ∀ g k k', s.locateChild f c g = some k →
      s.locateChild f c' g = some k' → R g k k')
    {locate locate' : Field → Option Cell} {F : Forest Field} (hnodup : F.toList.Nodup)
    (hroots : ∀ f ∈ F.roots, ∀ c c', locate f = some c → locate' f = some c' → R f c c')
    {h h' : Header} (hh : h ∈ (s.bind locate F).1.toList) (hh' : h' ∈ (s.bind locate' F).1.toList)
    (hfield : h.field = h'.field) : R h.field h.cell h'.cell := by
  induction F generalizing locate locate' with
  | nil => cases hh
  | node f children siblings ihc ihs =>
    obtain ⟨hown, hrest⟩ := List.nodup_cons.mp hnodup
    obtain ⟨hchildren, hsiblings, hapart⟩ := List.nodup_append'.mp hrest
    rw [List.mem_append, not_or] at hown
    -- Both results have the field at one place of the forest.
    rcases s.mem_bind_node hh with ⟨c, hc, ⟨hf, rfl⟩ | hh⟩ | hh
    · rcases s.mem_bind_node hh' with ⟨c', hc', ⟨_, rfl⟩ | hh'⟩ | hh'
      · exact hf ▸ hroots f List.mem_cons_self _ _ hc hc'
      · exact absurd (hf ▸ hfield ▸ s.field_of_mem_bind hh') hown.1
      · exact absurd (hf ▸ hfield ▸ s.field_of_mem_bind hh') hown.2
    · have hmem := s.field_of_mem_bind hh
      rcases s.mem_bind_node hh' with ⟨c', hc', ⟨hf', _⟩ | hh'⟩ | hh'
      · exact absurd (hf' ▸ hfield ▸ hmem) hown.1
      · have hf := hroots f List.mem_cons_self c c' hc hc'
        exact ihc hchildren (fun g _ k k' => hchild f c c' hf g k k') hh hh'
      · exact absurd (hfield ▸ s.field_of_mem_bind hh') (hapart hmem)
    · have hmem := s.field_of_mem_bind hh
      rcases s.mem_bind_node hh' with ⟨c', hc', ⟨hf', _⟩ | hh'⟩ | hh'
      · exact absurd (hf' ▸ hfield ▸ hmem) hown.2
      · exact absurd hmem (hapart (hfield ▸ s.field_of_mem_bind hh'))
      · exact ihs hsiblings (fun g hg => hroots g (List.mem_cons_of_mem _ hg)) hh hh'

theorem data_isChain (ht : s.grid.Tiled) {f : Field} (hf : f.distance = 1) {c : Cell}
    (hc : s.grid.Holds c) (missing : List Problem) :
    (c :: (s.header f c missing).data).IsChain (s.grid.Next f.direction) := by
  rcases s.header_data f c missing with hnone | ⟨data, origin, _, hp, hrun⟩
  · rw [hnone]
    exact .singleton c
  · rw [hf] at hp
    rw [hrun]
    exact (s.run_walks f.direction data origin).isChain ht (Grid.next_of_probe ht hc hp)

/-- A header with an open run next to it: the run goes on from the header, and only the header is
one. -/
structure OpenHeader (h : Header) : Prop where
  holds : s.grid.Holds h.cell
  matched : h.field.matcher.test h.cell
  known : h.field ∈ s.layout.fields
  chain : (h.cell :: h.data).IsChain (s.grid.Next h.field.direction)
  held : ∀ c ∈ h.data, s.grid.Holds c
  unmatched : ∀ c ∈ h.data, ∀ f ∈ s.layout.fields, ¬ f.matcher.test c

theorem openHeader {spec : TableSpec} (hb : spec.build = .ok s.layout) (ht : s.grid.Tiled)
    {t : Table} (htable : t ∈ s.tables) {h : Header} (hh : h ∈ t.headers.toList) {data : DataSpec}
    (hbody : h.field.body = .leaf data) (hopen : ∀ count, data.layout ≠ .fixed count)
    (hdistance : h.field.distance = 1) : s.OpenHeader h := by
  obtain ⟨hcell, hfield, missing, he⟩ := s.header_of_mem ht htable hh
  obtain ⟨kids, hkids⟩ := Forest.exists_family hh
  have hchain := s.data_isChain ht hdistance hcell missing
  rw [← he] at hchain
  have hdata : ∀ c ∈ h.data, s.grid.Holds c ∧ s.Admits data.openBoundary c := by
    rw [he]
    exact fun c hc => s.header_data_admits ht hbody hopen hcell hc
  exact
    { holds := hcell
      matched := (s.heads_of_mem hb htable hkids).1
      known := hfield
      chain := hchain
      held := fun c hc => (hdata c hc).1
      unmatched := fun c hc => (hdata c hc).2.header }

/-- On a grid without merged regions the open runs of a field meet only if they have one header. -/
theorem OpenHeader.meet (hg : s.grid.Unmerged) {h k : Header} (hh : s.OpenHeader h)
    (hk : s.OpenHeader k) (hf : h.field = k.field) {c : Cell} (hc : c ∈ h.data)
    (hc' : c ∈ k.data) : h.cell = k.cell := by
  have hchain := hk.chain
  rw [← hf] at hchain
  have hback : ∀ a b k, s.grid.Next h.field.direction a k → s.grid.Next h.field.direction b k →
      a = b := fun _ _ _ => hg.next_unique
  rcases heads_of_meeting hback hh.chain hchain hc hc' with he | hm | hm
  · exact he
  · exact absurd hh.matched (hk.unmatched _ hm _ hh.known)
  · exact absurd hk.matched (hh.unmatched _ hm _ hk.known)

/-- Where cells of a field lie in two tables: both on the grid, and apart. -/
def ApartAt (_ : Field) (c c' : Cell) : Prop := s.grid.Holds c ∧ s.grid.Holds c' ∧ c ≠ c'

theorem ApartAt.child (ht : s.grid.Tiled) (hg : s.grid.Unmerged) {f g : Field} {c c' k k' : Cell}
    (h : s.ApartAt f c c') (hk : s.locateChild f c g = some k)
    (hk' : s.locateChild f c' g = some k') : s.ApartAt g k k' := by
  obtain ⟨hc, hc', hne⟩ := h
  have hmem := List.mem_of_find?_eq_some hk
  have hmem' := List.mem_of_find?_eq_some hk'
  refine ⟨s.childRegion_holds ht f hc k hmem, s.childRegion_holds ht f hc' k' hmem', ?_⟩
  rintro rfl
  cases hf : f.body with
  | leaf data => simp [s.locateChild_leaf hf] at hk
  | group =>
    rw [s.childRegion_group hf] at hmem hmem'
    exact hne (hg.probeAll_unique ht hc hc' hmem hmem')

end Search

def DataApart (f : Field) (tables : List Table) : Prop :=
  ∀ (t u : Nat) (x y : Table), t ≠ u → tables[t]? = some x → tables[u]? = some y →
    ∀ h ∈ x.headers.toList, ∀ k ∈ y.headers.toList, h.field = f → k.field = f →
      ∀ c ∈ h.data, ∀ c' ∈ k.data, ¬ c == c'

/-- Without merged regions two tables have no field at one cell, at whatever depth. -/
theorem headers_disjoint {spec : TableSpec} {layout : TableLayout} (hb : spec.build = .ok layout)
    {g : Grid} {criteria : Criteria} (ht : g.Tiled) (hg : (criteria.view g).Unmerged) {t u : Nat}
    {x y : Table} (htu : t ≠ u) (hx : (recognize layout g criteria).1[t]? = some x)
    (hy : (recognize layout g criteria).1[u]? = some y) {h k : Header}
    (hh : h ∈ x.headers.toList) (hk : k ∈ y.headers.toList) (hf : h.field = k.field) :
    h.cell ≠ k.cell := by
  have hdisjoint : RootsDisjoint (recognize layout g criteria).1 := roots_disjoint hb ht
  obtain ⟨area, a, ha, _, rfl⟩ := recognize_getElem? hx
  obtain ⟨area', b, ha', _, rfl⟩ := recognize_getElem? hy
  obtain rfl := Option.some.inj (ha.symm.trans ha')
  let s := searchIn layout g criteria area
  have hview : s.grid.Tiled := criteria.tiled_view ht
  have hholds : ∀ z ∈ (recognize layout g criteria).1, ∀ h ∈ z.headers.roots,
      s.grid.Holds h.cell := by
    intro z hz h hh
    obtain ⟨area', ha', hz⟩ := mem_recognize hz
    obtain rfl := Option.some.inj (ha.symm.trans ha')
    exact (s.header_of_mem hview hz (z.headers.roots_sublist.subset hh)).1
  have hroots : ∀ f ∈ layout.roots, ∀ c c', rootAt? layout g criteria area a t f = some c →
      rootAt? layout g criteria area b u f = some c' → s.ApartAt f c c' := by
    intro f hf c c' hc hc'
    obtain ⟨h, hh, hfh, rfl⟩ := exists_root_iff.mpr ⟨hf, hc⟩
    obtain ⟨k, hk, hfk, rfl⟩ := exists_root_iff.mpr ⟨hf, hc'⟩
    have hne := hdisjoint t u _ _ htu hx hy h hh k hk (hfh.trans hfk.symm)
    exact ⟨hholds _ (List.mem_of_getElem? hx) h hh, hholds _ (List.mem_of_getElem? hy) k hk,
      fun he => hne (congrArg Cell.range he)⟩
  exact (s.bind_paired (fun f c c' hcc g k k' => hcc.child s hview hg) (TableLayout.fields_nodup hb)
    hroots hh hk hf).2.2

/-- Without merged regions the open runs that a field has next to its headers in two tables have no
cell in common. -/
theorem recognize_dataApart {spec : TableSpec} {layout : TableLayout}
    (hb : spec.build = .ok layout) {s : Sheet} (hs : s.merged = []) (criteria : Criteria) :
    ∀ f ∈ layout.fields, ∀ data, f.body = .leaf data →
      data.layout = .unfixed ∨ data.layout = .mixed → f.distance = 1 →
        DataApart f (recognize layout s.grid criteria).1 := by
  intro f _ data hbody hlayout hdistance t u x y htu hx hy h hh k hk hf hf' c hc c' hc' hsame
  have hg : (criteria.view s.grid).Unmerged := Sheet.unmerged_view hs criteria
  have hview : (criteria.view s.grid).Tiled := criteria.tiled_view s.tiled
  have hne := headers_disjoint hb s.tiled hg htu hx hy hh hk (hf.trans hf'.symm)
  obtain ⟨area, ha, hx⟩ := mem_recognize (List.mem_of_getElem? hx)
  obtain ⟨area', ha', hy⟩ := mem_recognize (List.mem_of_getElem? hy)
  obtain rfl := Option.some.inj (ha.symm.trans ha')
  let search := searchIn layout s.grid criteria area
  have hopenHeader : ∀ z ∈ search.tables, ∀ l ∈ z.headers.toList, l.field = f →
      search.OpenHeader l := by
    rintro z hz l hl rfl
    exact search.openHeader hb hview hz hl hbody (DataLayout.ne_fixed hlayout) hdistance
  have hleft := hopenHeader x hx h hh hf
  have hright := hopenHeader y hy k hk hf'
  have hcell : c = c' := hg.eq_of_range_eq (hleft.held c hc) (hright.held c' hc')
    (((hleft.held c hc).beq_iff (hright.held c' hc')).mp hsame)
  exact hne (hleft.meet search hg hright (hf.trans hf'.symm) hc (hcell ▸ hc'))

def memberSpec : TableSpec where
  name := "Members"
  fields :=
    .node
      { name := "Person", matcher := labelled "Person", role := .group, direction := some .down }
      (.node { name := "Name", matcher := labelled "Name", role := .leaf,
               data := some { layout := .unfixed } } .nil .nil)
      .nil

def memberName : Field := personField 1 "Name" .unfixed

def memberLayout : TableLayout :=
  { personLayout with name := "Members", anchorChildren := .node memberName .nil .nil }

theorem memberSpec_build : memberSpec.build = .ok memberLayout := rfl

def memberColumn : Sheet :=
  .ofEdits "Sheet1"
    [.push 0 0 (.text "Person"), .push 1 0 (.text "Name"), .push 2 0 (.text "Ann"),
      .push 3 0 (.text "Person"), .push 4 0 (.text "Name"), .push 5 0 (.text "Bob"),
      .push 6 0 (.text "Eve")]

/-- The names of the first person end where the second person begins. -/
theorem recognize_dataApart_members :
    let tables := (recognize memberLayout memberColumn.grid {}).1
    memberSpec.build = .ok memberLayout ∧ memberColumn.merged = [] ∧
      memberName ∈ memberLayout.fields ∧ memberName.distance = 1 ∧
      tables.map (fun t => t.headers.toList.map fun h => (h.path, h.data.map (·.row))) =
        [[("Person", []), ("Person.Name", [2])], [("Person", []), ("Person.Name", [5, 6])]] ∧
      DataApart memberName tables := by
  have hfield : memberName ∈ memberLayout.fields := List.mem_cons_of_mem _ List.mem_cons_self
  exact ⟨memberSpec_build, rfl, hfield, rfl, by decide,
    recognize_dataApart memberSpec_build rfl {} memberName hfield _ rfl (Or.inl rfl) rfl⟩

end SheetTables
