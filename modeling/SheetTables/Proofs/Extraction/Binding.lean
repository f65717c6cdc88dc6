import Mathlib.Data.List.Nodup
import SheetTables.Calendar.Gregorian
import SheetTables.Extraction.Table

/-! # Bound headers

What binding a forest of fields leaves: the roots that were located, each at its cell, and a
problem for every root that was required and not located. Every header of the result is the
header of some field at a cell that was located for it, and stands over the headers of those
children of the field that are found from this cell.
-/

namespace SheetTables

theorem Forest.exists_family {α : Type} {a : α} {F : Forest α} (h : a ∈ F.toList) :
    ∃ kids, (a, kids) ∈ F.families := by
  rw [← F.families_fst] at h
  obtain ⟨⟨_, kids⟩, hm, rfl⟩ := List.mem_map.mp h
  exact ⟨kids, hm⟩

namespace Search

variable (s : Search)

@[simp] theorem leafHeader_field (f : Field) (data : DataSpec) (c : Cell) :
    (s.leafHeader f data c).field = f := by
  unfold leafHeader
  cases s.grid.probe c f.direction f.distance <;> rfl

@[simp] theorem leafHeader_cell (f : Field) (data : DataSpec) (c : Cell) :
    (s.leafHeader f data c).cell = c := by
  unfold leafHeader
  cases s.grid.probe c f.direction f.distance <;> rfl

@[simp] theorem header_field (f : Field) (c : Cell) (missing : List Problem) :
    (s.header f c missing).field = f := by
  unfold header
  cases f.body with
  | group => rfl
  | leaf data => exact s.leafHeader_field f data c

@[simp] theorem header_cell (f : Field) (c : Cell) (missing : List Problem) :
    (s.header f c missing).cell = c := by
  unfold header
  cases f.body with
  | group => rfl
  | leaf data => exact s.leafHeader_cell f data c

theorem header_group {f : Field} (hf : f.body = .group) (c : Cell) (missing : List Problem) :
    (s.header f c missing).data = [] ∧
      (s.header f c missing).problems =
        if (s.childRegion f c).isEmpty then
          [.inconsistentGeometry c.reference (.noCell c.reference f.direction f.distance)]
        else missing := by
  simp [header, hf, geometryProblem]

theorem header_astray {f : Field} {data : DataSpec} {c : Cell} {e : ProbeError}
    (hf : f.body = .leaf data) (he : s.grid.probe c f.direction f.distance = .error e)
    (missing : List Problem) :
    (s.header f c missing).data = [] ∧
      (s.header f c missing).problems = [.inconsistentGeometry c.reference e] := by
  simp [header, leafHeader, hf, he, geometryProblem]

theorem header_run {f : Field} {data : DataSpec} {c origin : Cell} (hf : f.body = .leaf data)
    (ho : s.grid.probe c f.direction f.distance = .ok origin) (missing : List Problem) :
    (s.header f c missing).data = (s.run f.direction data origin).1 ∧
      (s.header f c missing).problems = (s.run f.direction data origin).2 := by
  simp [header, leafHeader, hf, ho]

theorem header_data (f : Field) (c : Cell) (missing : List Problem) :
    (s.header f c missing).data = [] ∨ ∃ data origin, f.body = .leaf data ∧
      s.grid.probe c f.direction f.distance = .ok origin ∧
        (s.header f c missing).data = (s.run f.direction data origin).1 := by
  cases hf : f.body with
  | group => exact Or.inl (s.header_group hf c missing).1
  | leaf data =>
    cases hp : s.grid.probe c f.direction f.distance with
    | error e => exact Or.inl (s.header_astray hf hp missing).1
    | ok origin => exact Or.inr ⟨data, origin, rfl, rfl, (s.header_run hf hp missing).1⟩

def absence (locate : Field → Option Cell) (f : Field) : Option Problem :=
  if (locate f).isNone ∧ f.necessity.isRequired then some (.headerNotFound f.path) else none

theorem absence_eq_some_iff {locate : Field → Option Cell} {f : Field} {p : Problem} :
    absence locate f = some p ↔
      locate f = none ∧ f.necessity.isRequired ∧ p = .headerNotFound f.path := by
  unfold absence
  rw [Option.ite_none_right_eq_some, Option.isNone_iff_eq_none, Option.some_inj, and_assoc,
    eq_comm (a := p)]

/-- Of fields with different paths each one that is missed is missed once. -/
theorem count_absence {fields : List Field} (hpaths : (fields.map (·.path)).Nodup)
    (locate : Field → Option Cell) {f : Field} (hf : f ∈ fields) :
    (fields.filterMap (absence locate)).count (.headerNotFound f.path) =
      if locate f = none ∧ f.necessity.isRequired then 1 else 0 := by
  have hnodup : (fields.filterMap (absence locate)).Nodup := by
    refine List.pairwise_filterMap.mpr ((List.pairwise_map.mp hpaths).imp ?_)
    intro f g hfg p hp q hq
    obtain ⟨_, _, rfl⟩ := absence_eq_some_iff.mp hp
    obtain ⟨_, _, rfl⟩ := absence_eq_some_iff.mp hq
    simpa using hfg
  have hmem : Problem.headerNotFound f.path ∈ fields.filterMap (absence locate) ↔
      locate f = none ∧ f.necessity.isRequired := by
    rw [List.mem_filterMap]
    constructor
    · rintro ⟨g, hg, hp⟩
      obtain ⟨hn, hr, he⟩ := absence_eq_some_iff.mp hp
      have hfg := List.inj_on_of_nodup_map hpaths hf hg (Problem.headerNotFound.inj he)
      exact hfg ▸ ⟨hn, hr⟩
    · rintro ⟨hn, hr⟩
      exact ⟨f, hf, absence_eq_some_iff.mpr ⟨hn, hr, rfl⟩⟩
  rw [hnodup.count]
  simp only [hmem]

def locateChild (f : Field) (c : Cell) (child : Field) : Option Cell :=
  (s.childRegion f c).find? fun k => child.matcher.test k

theorem bind_some {locate : Field → Option Cell} {f : Field} {c : Cell} (h : locate f = some c)
    (children siblings : Forest Field) :
    s.bind locate (.node f children siblings) =
      (.node (s.header f c (s.bind (s.locateChild f c) children).2)
          (s.bind (s.locateChild f c) children).1 (s.bind locate siblings).1,
        (s.bind locate siblings).2) := by
  simp only [bind, h]
  rfl

theorem bind_none {locate : Field → Option Cell} {f : Field} (h : locate f = none)
    (children siblings : Forest Field) :
    s.bind locate (.node f children siblings) =
      ((s.bind locate siblings).1, (absence locate f).toList ++ (s.bind locate siblings).2) := by
  by_cases hr : f.necessity.isRequired <;> simp [bind, absence, h, hr]

theorem bind_roots (locate : Field → Option Cell) (F : Forest Field) :
    (s.bind locate F).1.roots.map (fun h => (h.field, h.cell)) =
      F.roots.filterMap fun f => (locate f).map fun c => (f, c) := by
  induction F with
  | nil => rfl
  | node f children siblings _ ihs =>
    cases h : locate f with
    | none => simp [s.bind_none h, Forest.roots, h, ihs]
    | some c => simp [s.bind_some h, Forest.roots, h, ihs]

theorem bind_problems (locate : Field → Option Cell) (F : Forest Field) :
    (s.bind locate F).2 = F.roots.filterMap (absence locate) := by
  induction F with
  | nil => rfl
  | node f children siblings _ ihs =>
    cases h : locate f with
    | none => cases ha : absence locate f <;> simp [s.bind_none h, Forest.roots, ha, ihs]
    | some c => simp [s.bind_some h, Forest.roots, absence, h, ihs]

theorem bind_fields_sublist (locate : Field → Option Cell) (F : Forest Field) :
    ((s.bind locate F).1.toList.map (·.field)).Sublist F.toList := by
  induction F generalizing locate with
  | nil => exact .refl _
  | node f children siblings ihc ihs =>
    cases h : locate f with
    | none =>
      rw [s.bind_none h]
      exact ((ihs locate).trans (List.sublist_append_right _ _)).cons f
    | some c =>
      rw [s.bind_some h]
      simp only [Forest.toList, List.map_cons, List.map_append, header_field]
      exact ((ihc _).append (ihs locate)).cons_cons f

/-- A header over those of its children: what it has and what it misses below follows from where
the children of its field are found. -/
structure Heads (h : Header) (kids : List Header) (fields : List Field) : Prop where
  header : h = s.header h.field h.cell (fields.filterMap (absence (s.locateChild h.field h.cell)))
  kids : kids.map (fun k => (k.field, k.cell)) =
    fields.filterMap fun f => (s.locateChild h.field h.cell f).map fun c => (f, c)

/-- Every header stands over those of its children. A property of fields and their cells that
holds of the roots, and of the children of all that have it, holds of all headers. -/
theorem mem_families_bind {P : Field → Cell → Prop}
    (hchild : ∀ f c, P f c → ∀ g k, s.locateChild f c g = some k → P g k)
    {locate : Field → Option Cell} {F : Forest Field}
    (hlocate : ∀ f ∈ F.roots, ∀ c, locate f = some c → P f c) {h : Header} {kids : List Header}
    (hh : (h, kids) ∈ (s.bind locate F).1.families) :
    P h.field h.cell ∧ ∃ fields, (h.field, fields) ∈ F.families ∧ s.Heads h kids fields := by
  induction F generalizing locate with
  | nil => simp [bind, Forest.families] at hh
  | node f children siblings ihc ihs =>
    -- Siblings are bound alike whether or not this field has a cell.
    have hrest : (h, kids) ∈ (s.bind locate siblings).1.families →
        P h.field h.cell ∧ ∃ fields, (h.field, fields) ∈
          (Forest.node f children siblings).families ∧ s.Heads h kids fields := by
      intro hh
      obtain ⟨hP, fields, hf, hheads⟩ := ihs (fun g hg => hlocate g (List.mem_cons_of_mem _ hg)) hh
      exact ⟨hP, fields, by simp [Forest.families, hf], hheads⟩
    cases hl : locate f with
    | none =>
      rw [s.bind_none hl] at hh
      exact hrest hh
    | some c =>
      have hPc := hlocate f List.mem_cons_self c hl
      rw [s.bind_some hl] at hh
      simp only [Forest.families, List.mem_cons, List.mem_append, Prod.mk.injEq] at hh
      -- The header of this field, one below it, or one beside it.
      rcases hh with ⟨rfl, rfl⟩ | hh | hh
      · simp only [header_field, header_cell]
        refine ⟨hPc, children.roots, by simp [Forest.families], ?_, ?_⟩
        · simp only [header_field, header_cell, bind_problems]
        · simp only [header_field, header_cell, bind_roots]
      · obtain ⟨hP, fields, hf, hheads⟩ := ihc (fun g _ k hk => hchild f c hPc g k hk) hh
        exact ⟨hP, fields, by simp [Forest.families, hf], hheads⟩
      · exact hrest hh

/-- A property of cells that passes from every header to the region of its children holds of the
cells of all headers. -/
theorem mem_bind {P : Cell → Prop} (hregion : ∀ f c, P c → ∀ k ∈ s.childRegion f c, P k)
    {locate : Field → Option Cell} (hlocate : ∀ f c, locate f = some c → P c)
    {F : Forest Field} {h : Header} (hh : h ∈ (s.bind locate F).1.toList) :
    P h.cell ∧ ∃ f ∈ F.toList, ∃ missing, h = s.header f h.cell missing := by
  obtain ⟨kids, hk⟩ := Forest.exists_family hh
  obtain ⟨hP, fields, hf, hheads⟩ := s.mem_families_bind (P := fun _ c => P c)
    (fun f c hc _ k hk => hregion f c hc k (List.mem_of_find?_eq_some hk))
    (fun f _ c hc => hlocate f c hc) hk
  have hfield : h.field ∈ F.toList := F.families_fst ▸ List.mem_map_of_mem hf
  exact ⟨hP, h.field, hfield, _, hheads.header⟩

end Search
end SheetTables
