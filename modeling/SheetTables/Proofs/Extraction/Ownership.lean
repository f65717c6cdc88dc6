import SheetTables.Proofs.Extraction.Closest
import SheetTables.Proofs.Extraction.Occurrences
import SheetTables.Proofs.Layout.Settling

/-! # Roots of an occurrence

A header of a root other than the anchor belongs to the occurrence whose anchor is closest to
it, and each occurrence takes the closest of those that belong to it. So no two tables of one
layout share a root. Closeness is a matter of steps as long as they can be counted; beyond the
greatest index the count starts again, and a root may be taken by the farther of two anchors.
-/

namespace SheetTables

def Cell.steps (a b : Cell) : Nat := a.range.cornerSteps b.range

/-- The candidates that a field matches and whose closest anchor is that of an occurrence, the
earlier of two that are equally close. -/
structure Belongs (distance : Cell → Cell → Nat) (layout : TableLayout) (g : Grid)
    (criteria : Criteria) (t : Nat) (f : Field) (c : Cell) : Prop where
  candidate : Candidate g criteria c
  matched : f.matcher.test c
  nearest : ∃ a, FirstLeast (fun a => distance a c) (anchorsOf layout g criteria) t a

/-- The cell of a set that is closest to an anchor, the first one of a scan among several. -/
structure ClosestTo (distance : Cell → Cell → Nat) (a : Cell) (M : Cell → Prop) (c : Cell) :
    Prop where
  mem : M c
  least : ∀ k, M k → distance a c ≤ distance a k
  first : ∀ k, M k → k.Before c → distance a c < distance a k

/-- The roots of the table of an occurrence. -/
structure OwnRoots (distance : Cell → Cell → Nat) (layout : TableLayout) (g : Grid)
    (criteria : Criteria) (t : Nat) (table : Table) : Prop where
  anchor : table.headers.roots.head?.map (·.cell) = (anchorsOf layout g criteria)[t]?
  once : table.headers.roots.Pairwise fun h k => h.field.id < k.field.id
  bound : ∀ f ∈ layout.others.roots,
    (∃ h ∈ table.headers.roots, h.field = f) ↔ ∃ c, Belongs distance layout g criteria t f c
  closest : ∀ a, (anchorsOf layout g criteria)[t]? = some a →
    ∀ h ∈ table.headers.roots, h.field ∈ layout.others.roots →
      ClosestTo distance a (Belongs distance layout g criteria t h.field) h.cell
  missing : ∀ f ∈ layout.others.roots, (¬ ∃ c, Belongs distance layout g criteria t f c) →
    table.problems.count (.headerNotFound f.path) = if f.necessity.isRequired then 1 else 0
  found : ∀ f ∈ layout.roots,
    (f = layout.anchor ∨ ∃ c, Belongs distance layout g criteria t f c) →
      .headerNotFound f.path ∉ table.problems

/-- No cell that another root matches is more steps from an anchor than can be counted. -/
def Measurable (layout : TableLayout) (g : Grid) (criteria : Criteria) : Prop :=
  ∀ a ∈ anchorsOf layout g criteria, ∀ f ∈ layout.others.roots, ∀ c,
    Candidate g criteria c → f.matcher.test c → a.steps c ≤ maxIndex

/-- No two tables have one field at one cell. -/
def RootsDisjoint (tables : List Table) : Prop :=
  ∀ (t u : Nat) (x y : Table), t ≠ u → tables[t]? = some x → tables[u]? = some y →
    ∀ h ∈ x.headers.roots, ∀ k ∈ y.headers.roots, h.field = k.field →
      h.cell.range ≠ k.cell.range

theorem assemble_count (layout : TableLayout) (headers : Forest Header) (missing : List Problem)
    (path : String) :
    (Table.assemble layout headers missing).problems.count (.headerNotFound path) =
      missing.count (.headerNotFound path) := by
  have hheaders : Problem.headerNotFound path ∉
      headers.toList.flatMap fun h => prefixed h.path h.problems := by
    simp [prefixed]
  have hrecords : Problem.headerNotFound path ∉
      (records (leafHeaders headers)).flatMap
        (recordProblems layout (leafHeaders headers)) := by
    simp only [recordProblems, Header.faults, List.mem_flatMap, List.mem_append,
      List.mem_filterMap, List.mem_map, not_exists, not_and, not_or]
    intro r _
    refine ⟨⟨?_, ?_⟩, ?_⟩
    · intro h _ hm
      cases hk : h.mismatch? r.index <;> simp [hk] at hm
    · intro h _ hm
      split at hm <;> simp at hm
    · intro v _ m _ hm
      cases hm
  simp only [Table.assemble, List.count_append, List.count_eq_zero.mpr hheaders,
    List.count_eq_zero.mpr hrecords, Nat.add_zero]

section Located

variable {g : Grid} {layout : TableLayout} {criteria : Criteria} {area : Range}

theorem anchorsOf_eq (ha : searchArea? g criteria = some area) :
    anchorsOf layout g criteria = (searchIn layout g criteria area).anchors := by
  simp only [anchorsOf, ha]

def tableAt (layout : TableLayout) (g : Grid) (criteria : Criteria) (area : Range) (a : Cell)
    (t : Nat) : Table :=
  let s := searchIn layout g criteria area
  s.table s.candidates s.anchors a t

def rootAt? (layout : TableLayout) (g : Grid) (criteria : Criteria) (area : Range) (a : Cell)
    (t : Nat) (f : Field) : Option Cell :=
  let s := searchIn layout g criteria area
  s.locateRoot s.candidates s.anchors t a f

theorem recognize_getElem? {t : Nat} {table : Table}
    (h : (recognize layout g criteria).1[t]? = some table) :
    ∃ area a, searchArea? g criteria = some area ∧
      (anchorsOf layout g criteria)[t]? = some a ∧
      table = tableAt layout g criteria area a t := by
  rw [recognize_fst] at h
  cases ha : searchArea? g criteria with
  | none => simp [ha] at h
  | some area =>
    simp only [ha, Search.tables_getElem?] at h
    obtain ⟨a, hat, htable⟩ := Option.map_eq_some_iff.mp h
    exact ⟨area, a, rfl, anchorsOf_eq ha ▸ hat, htable.symm⟩

@[simp] theorem rootAt?_anchor (a : Cell) (t : Nat) :
    rootAt? layout g criteria area a t layout.anchor = some a :=
  (searchIn layout g criteria area).locateRoot_anchor _ _ t a

theorem tableAt_roots (a : Cell) (t : Nat) :
    (tableAt layout g criteria area a t).headers.roots.map (fun h => (h.field, h.cell)) =
      layout.roots.filterMap fun f =>
        (rootAt? layout g criteria area a t f).map fun c => (f, c) :=
  Search.table_roots _ _ _ a t

theorem exists_root_iff {a : Cell} {t : Nat} {f : Field} {c : Cell} :
    (∃ h ∈ (tableAt layout g criteria area a t).headers.roots, h.field = f ∧ h.cell = c) ↔
      f ∈ layout.roots ∧ rootAt? layout g criteria area a t f = some c := by
  have hmem : (f, c) ∈ (tableAt layout g criteria area a t).headers.roots.map
      (fun h => (h.field, h.cell)) ↔ f ∈ layout.roots ∧
        rootAt? layout g criteria area a t f = some c := by
    simp [tableAt_roots]
  simpa using hmem

theorem tableAt_sorted {spec : TableSpec} (hb : spec.build = .ok layout) {a : Cell} {t : Nat} :
    (tableAt layout g criteria area a t).headers.roots.Pairwise fun h k =>
      h.field.id < k.field.id := by
  have hsorted : ((tableAt layout g criteria area a t).headers.roots.map
      fun h => (h.field, h.cell)).Pairwise fun p q => p.1.id < q.1.id := by
    rw [tableAt_roots]
    refine List.pairwise_filterMap.mpr ((TableLayout.roots_sorted hb).imp ?_)
    intro f k hfk p hp q hq
    obtain ⟨_, _, rfl⟩ := Option.map_eq_some_iff.mp hp
    obtain ⟨_, _, rfl⟩ := Option.map_eq_some_iff.mp hq
    exact hfk
  rw [List.pairwise_map] at hsorted
  exact hsorted

theorem tableAt_count {spec : TableSpec} (hb : spec.build = .ok layout) {a : Cell} {t : Nat}
    {f : Field} (hf : f ∈ layout.roots) :
    (tableAt layout g criteria area a t).problems.count (.headerNotFound f.path) =
      if rootAt? layout g criteria area a t f = none ∧ f.necessity.isRequired then 1
      else 0 := by
  let bound := (searchIn layout g criteria area).bind (rootAt? layout g criteria area a t)
    layout.forest
  have hmissing : bound.2 = layout.roots.filterMap
      (Search.absence (rootAt? layout g criteria area a t)) := Search.bind_problems _ _ _
  calc (Table.assemble layout bound.1 bound.2).problems.count (.headerNotFound f.path)
      = bound.2.count (.headerNotFound f.path) := assemble_count layout bound.1 bound.2 f.path
    _ = _ := by rw [hmissing, Search.count_absence (TableLayout.roots_paths hb) _ hf]

section Roots

variable (ht : g.Tiled) (ha : searchArea? g criteria = some area) {a c : Cell} {t : Nat}
  {f : Field} (hf : f.id ≠ layout.anchor.id)
include ht ha hf

theorem rootAt?_eq_leastBy : ∃ M : List Cell, M.Pairwise Cell.Before ∧
    (∀ c, c ∈ M ↔ Belongs Cell.distance layout g criteria t f c) ∧
    rootAt? layout g criteria area a t f = leastBy a.distance M := by
  refine ⟨_, (Grid.cellsIn_sorted _ _).filter _, ?_, if_neg hf⟩
  intro c
  rw [List.mem_filter, Bool.and_eq_true, beq_iff_eq, nearestAnchor?_eq_some_iff,
    ← anchorsOf_eq ha]
  constructor
  · rintro ⟨hc, hm, hn⟩
    exact ⟨(mem_candidates ht ha).mp hc, hm, hn⟩
  · intro h
    exact ⟨(mem_candidates ht ha).mpr h.candidate, h.matched, h.nearest⟩

theorem rootAt?_eq_some_iff : rootAt? layout g criteria area a t f = some c ↔
    ClosestTo Cell.distance a (Belongs Cell.distance layout g criteria t f) c := by
  obtain ⟨M, hs, hM, he⟩ := rootAt?_eq_leastBy ht ha hf (a := a) (t := t)
  rw [he, leastBy_eq_some_iff_of_sorted Cell.Before.irrefl (fun _ _ _ => Cell.Before.trans) hs]
  simp only [hM]
  exact ⟨fun h => ⟨h.1, h.2.1, h.2.2⟩, fun h => ⟨h.mem, h.least, h.first⟩⟩

theorem rootAt?_eq_none_iff : rootAt? layout g criteria area a t f = none ↔
    ¬ ∃ c, Belongs Cell.distance layout g criteria t f c := by
  obtain ⟨M, _, hM, he⟩ := rootAt?_eq_leastBy ht ha hf (a := a) (t := t)
  rw [he, leastBy_eq_none_iff, List.eq_nil_iff_forall_not_mem]
  simp only [hM, not_exists]

end Roots

variable {spec : TableSpec} (hb : spec.build = .ok layout) (ht : g.Tiled)
include hb ht

theorem ownRoots {t : Nat} {table : Table}
    (h : (recognize layout g criteria).1[t]? = some table) :
    OwnRoots Cell.distance layout g criteria t table := by
  obtain ⟨area, a, ha, hat, rfl⟩ := recognize_getElem? h
  have hroot : ∀ f ∈ layout.others.roots, f ∈ layout.roots := fun f hf =>
    List.mem_cons_of_mem _ hf
  constructor
  · obtain ⟨h, hh, he⟩ := Option.map_eq_some_iff.mp (Search.table_head _ _ _ a t)
    rw [hat]
    exact Option.map_eq_some_iff.mpr ⟨h, hh, congrArg Prod.snd he⟩
  · exact tableAt_sorted hb
  · intro f hf
    have hid := TableLayout.id_ne_anchor hb hf
    constructor
    · rintro ⟨h, hh, hfield⟩
      have hloc := (exists_root_iff.mp ⟨h, hh, hfield, rfl⟩).2
      exact ⟨h.cell, ((rootAt?_eq_some_iff ht ha hid).mp hloc).mem⟩
    · intro hne
      cases hloc : rootAt? layout g criteria area a t f with
      | none => exact absurd hne ((rootAt?_eq_none_iff ht ha hid).mp hloc)
      | some c =>
        obtain ⟨h, hh, hfield, _⟩ := exists_root_iff.mpr ⟨hroot f hf, hloc⟩
        exact ⟨h, hh, hfield⟩
  · intro b hb' h hh hfield
    cases hat.symm.trans hb'
    have hloc := (exists_root_iff.mp ⟨h, hh, rfl, rfl⟩).2
    exact (rootAt?_eq_some_iff ht ha (TableLayout.id_ne_anchor hb hfield)).mp hloc
  · intro f hf hnone
    have hid := TableLayout.id_ne_anchor hb hf
    rw [tableAt_count hb (hroot f hf), (rootAt?_eq_none_iff ht ha hid).mpr hnone]
    simp only [true_and]
  · intro f hf hfound
    rw [← List.count_eq_zero, tableAt_count hb hf]
    refine if_neg fun h => ?_
    rcases List.mem_cons.mp hf with rfl | hf
    · rw [rootAt?_anchor] at h
      cases h.1
    · have hid := TableLayout.id_ne_anchor hb hf
      have hne := (rootAt?_eq_none_iff ht ha hid).mp h.1
      exact hfound.elim (fun he => hid (congrArg Field.id he)) hne

theorem root_cases {t : Nat} {table : Table}
    (h : (recognize layout g criteria).1[t]? = some table) {root : Header}
    (hr : root ∈ table.headers.roots) :
    (root.field = layout.anchor ∧ (anchorsOf layout g criteria)[t]? = some root.cell) ∨
      (root.field ∈ layout.others.roots ∧
        Belongs Cell.distance layout g criteria t root.field root.cell) := by
  obtain ⟨area, a, ha, hat, rfl⟩ := recognize_getElem? h
  obtain ⟨hfield, hloc⟩ := exists_root_iff.mp ⟨root, hr, rfl, rfl⟩
  rcases List.mem_cons.mp hfield with he | hf
  · rw [he, rootAt?_anchor] at hloc
    exact Or.inl ⟨he, hat.trans hloc⟩
  · have hid := TableLayout.id_ne_anchor hb hf
    exact Or.inr ⟨hf, ((rootAt?_eq_some_iff ht ha hid).mp hloc).mem⟩

omit hb in
theorem anchors_place_eq {t u : Nat} {a b : Cell}
    (ha : (anchorsOf layout g criteria)[t]? = some a)
    (hb : (anchorsOf layout g criteria)[u]? = some b) (h : a.range = b.range) : t = u := by
  have hd : (anchorsOf layout g criteria).Pairwise fun a b => a.range ≠ b.range :=
    anchorsOf_pairwise fun r => Grid.cellsIn_distinct (criteria.tiled_view ht) r
  exact place_eq_of_pairwise hd ha hb (not_not_intro h) (not_not_intro h.symm)

theorem roots_disjoint : RootsDisjoint (recognize layout g criteria).1 := by
  intro t u x y htu hx hy h hh k hk hf hrange
  apply htu
  rcases root_cases hb ht hx hh with ⟨hha, hhc⟩ | ⟨hho, hhb⟩
  · rcases root_cases hb ht hy hk with ⟨_, hkc⟩ | ⟨hko, _⟩
    · exact anchors_place_eq ht hhc hkc hrange
    · exact absurd (congrArg Field.id (hf.symm.trans hha)) (TableLayout.id_ne_anchor hb hko)
  · rcases root_cases hb ht hy hk with ⟨hka, _⟩ | ⟨_, hkb⟩
    · exact absurd (congrArg Field.id (hf.trans hka)) (TableLayout.id_ne_anchor hb hho)
    · have hcell := hhb.candidate.eq_of_range_eq (criteria.tiled_view ht) hkb.candidate hrange
      obtain ⟨a, ha⟩ := hhb.nearest
      obtain ⟨b, hb'⟩ := hkb.nearest
      rw [hcell] at ha
      exact ha.place_eq hb'

end Located

section Measured

variable {g : Grid} {layout : TableLayout} {criteria : Criteria} {t : Nat} {f : Field} {a c : Cell}
  (hm : Measurable layout g criteria)
include hm

theorem Measurable.distance_eq (ha : a ∈ anchorsOf layout g criteria)
    (hf : f ∈ layout.others.roots) (hc : Candidate g criteria c) (hmatch : f.matcher.test c) :
    a.distance c = a.steps c :=
  Range.cornerDistance_of_le (hm a ha f hf c hc hmatch)

theorem Measurable.nearest_iff (hf : f ∈ layout.others.roots) (hc : Candidate g criteria c)
    (hmatch : f.matcher.test c) :
    FirstLeast (fun a => a.distance c) (anchorsOf layout g criteria) t a ↔
      FirstLeast (fun a => a.steps c) (anchorsOf layout g criteria) t a :=
  firstLeast_congr fun _ ha => hm.distance_eq ha hf hc hmatch

theorem Measurable.belongs_iff (hf : f ∈ layout.others.roots) :
    Belongs Cell.distance layout g criteria t f c ↔ Belongs Cell.steps layout g criteria t f c := by
  constructor
  · rintro ⟨hc, hmatch, a, ha⟩
    exact ⟨hc, hmatch, a, (hm.nearest_iff hf hc hmatch).mp ha⟩
  · rintro ⟨hc, hmatch, a, ha⟩
    exact ⟨hc, hmatch, a, (hm.nearest_iff hf hc hmatch).mpr ha⟩

theorem Measurable.closestTo (ha : a ∈ anchorsOf layout g criteria) (hf : f ∈ layout.others.roots)
    (h : ClosestTo Cell.distance a (Belongs Cell.distance layout g criteria t f) c) :
    ClosestTo Cell.steps a (Belongs Cell.steps layout g criteria t f) c := by
  have hsteps : ∀ k, Belongs Cell.distance layout g criteria t f k → a.distance k = a.steps k :=
    fun k hk => hm.distance_eq ha hf hk.candidate hk.matched
  refine ⟨(hm.belongs_iff hf).mp h.mem, fun k hk => ?_, fun k hk hbefore => ?_⟩
  · have hk := (hm.belongs_iff hf).mpr hk
    rw [← hsteps c h.mem, ← hsteps k hk]
    exact h.least k hk
  · have hk := (hm.belongs_iff hf).mpr hk
    rw [← hsteps c h.mem, ← hsteps k hk]
    exact h.first k hk hbefore

theorem Measurable.ownRoots {table : Table} (h : OwnRoots Cell.distance layout g criteria t table) :
    OwnRoots Cell.steps layout g criteria t table := by
  have hex : ∀ f ∈ layout.others.roots, (∃ c, Belongs Cell.distance layout g criteria t f c) ↔
      ∃ c, Belongs Cell.steps layout g criteria t f c :=
    fun f hf => exists_congr fun _ => hm.belongs_iff hf
  constructor
  · exact h.anchor
  · exact h.once
  · exact fun f hf => (h.bound f hf).trans (hex f hf)
  · exact fun a ha root hroot hf =>
      hm.closestTo (List.mem_of_getElem? ha) hf (h.closest a ha root hroot hf)
  · exact fun f hf hnone => h.missing f hf fun hfound => hnone ((hex f hf).mp hfound)
  · intro f hf hfound
    refine h.found f hf ?_
    rcases List.mem_cons.mp hf with rfl | ho
    · exact Or.inl rfl
    · exact hfound.imp_right (hex f ho).mpr

end Measured

theorem keyedColumn_measurable : Measurable keyedLayout (keyedColumn [0, 4] [3, 7]).grid {} := by
  let area : Range := ⟨0, 0, 7, 0, by decide, by decide⟩
  have harea : searchArea? (keyedColumn [0, 4] [3, 7]).grid {} = some area := rfl
  intro a ha f hf c hc _
  have hmem : c ∈ (searchIn keyedLayout (keyedColumn [0, 4] [3, 7]).grid {} area).candidates :=
    (mem_candidates (Sheet.tiled _) harea).mpr hc
  rw [anchorsOf_eq harea] at ha
  have hall : ∀ a ∈ (searchIn keyedLayout (keyedColumn [0, 4] [3, 7]).grid {} area).anchors,
      ∀ c ∈ (searchIn keyedLayout (keyedColumn [0, 4] [3, 7]).grid {} area).candidates,
        a.steps c ≤ maxIndex := by decide
  exact hall a ha c hmem

end SheetTables
