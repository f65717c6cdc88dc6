import Mathlib.Data.List.Perm.Basic
import SheetTables.Proofs.Extraction.Agreement
import SheetTables.Proofs.Extraction.MovedResults
import SheetTables.Proofs.Extraction.TableProblems
import SheetTables.Proofs.Layout.ValueChecks

/-! # Values checked in two ways

A matcher checks the values of a run when that is read, and what it refuses is looked up again for
the records that are kept. A validator checks the cells of kept records only. The same tables are
found either way, and the same problems are reported, though in another order.
-/

namespace SheetTables

structure Header.ChecksAlike (h h' : Header) : Prop where
  field : h.field.ChecksAlike h'.field
  cell : h'.cell = h.cell
  data : h'.data = h.data
  problems : h'.problems = h.problems

/-- Tables with the same headers, data and records, and with the same problems in some order. -/
structure Table.ChecksAlike (t t' : Table) : Prop where
  headers : t.headers.Forall₂ Header.ChecksAlike t'.headers
  records : t'.records = t.records
  problems : t'.problems.Perm t.problems
  refused : ∀ h ∈ t.headers.toList, ∀ data m, h.field.data? = some data → data.matcher = some m →
    ∀ r ∈ t.records, ∀ c, h.data[r.index]? = some c → ∀ e, m.mismatch? c.value = some e →
      .within h.path (.invalidValue c.reference c.value.toText e.toText) ∈ t'.problems

namespace Search

variable {s s' : Search}

section Layouts

variable (hlayout : s.layout.ChecksAlike s'.layout)
include hlayout

theorem isHeader_checksAlike (c : Cell) : s'.isHeader c = s.isHeader c := by
  have hany : ∀ s : Search, s.isHeader c = (s.layout.fields.map (·.matcher)).any (·.test c) := by
    intro s
    rw [List.any_map]
    rfl
  have hmatchers : s.layout.fields.map (·.matcher) = s'.layout.fields.map (·.matcher) :=
    map_eq_of_forall₂ hlayout.forest.toList fun _ _ hf => hf.matcher.symm
  rw [hany, hany, hmatchers]

theorem locateRoot_checksAlike {f f' : Field} (hf : f.ChecksAlike f')
    (candidates anchors : List Cell) (occurrence : Nat) (a : Cell) :
    s'.locateRoot candidates anchors occurrence a f' =
      s.locateRoot candidates anchors occurrence a f := by
  unfold locateRoot
  rw [hf.id, hf.matcher, hlayout.anchor.id]

end Layouts

section Fields

variable (hs : s.Agree s') {f f' : Field} (hf : f.ChecksAlike f')
include hs hf

theorem childRegion_checksAlike (c : Cell) : s'.childRegion f' c = s.childRegion f c := by
  unfold childRegion
  cases hb : f.body with
  | group => rw [hf.group hb, hs.grid, hf.direction, hf.distance]
  | leaf data =>
    obtain ⟨data', hb', _⟩ := hf.leaf hb
    rw [hb']

theorem locateChild_checksAlike {g g' : Field} (hg : g.ChecksAlike g') (c : Cell) :
    s'.locateChild f' c g' = s.locateChild f c g := by
  unfold locateChild
  rw [childRegion_checksAlike hs hf, hg.matcher]

theorem header_checksAlike (c : Cell) (missing : List Problem) :
    (s.header f c missing).ChecksAlike (s'.header f' c missing) := by
  have hfound : (s'.header f' c missing).data = (s.header f c missing).data ∧
      (s'.header f' c missing).problems = (s.header f c missing).problems := by
    cases hb : f.body with
    | group =>
      obtain ⟨hdata, hproblems⟩ := s.header_group hb c missing
      obtain ⟨hdata', hproblems'⟩ := s'.header_group (hf.group hb) c missing
      rw [hdata, hdata', hproblems, hproblems', childRegion_checksAlike hs hf, hf.direction,
        hf.distance]
      exact ⟨rfl, rfl⟩
    | leaf data =>
      obtain ⟨data', hb', hlayout, hboundary⟩ := hf.leaf hb
      have hprobe : s'.grid.probe c f'.direction f'.distance =
          s.grid.probe c f.direction f.distance := by
        rw [hs.grid, hf.direction, hf.distance]
      cases hp : s.grid.probe c f.direction f.distance with
      | error e =>
        obtain ⟨hdata, hproblems⟩ := s.header_astray hb hp missing
        obtain ⟨hdata', hproblems'⟩ := s'.header_astray hb' (hprobe.trans hp) missing
        exact ⟨hdata'.trans hdata.symm, hproblems'.trans hproblems.symm⟩
      | ok origin =>
        obtain ⟨hdata, hproblems⟩ := s.header_run hb hp missing
        obtain ⟨hdata', hproblems'⟩ := s'.header_run hb' (hprobe.trans hp) missing
        rw [hdata, hdata', hproblems, hproblems', hf.direction, hs.run_eq hlayout hboundary]
        exact ⟨rfl, rfl⟩
  constructor
  · rwa [header_field, header_field]
  · rw [header_cell, header_cell]
  · exact hfound.1
  · exact hfound.2

end Fields
end Search

theorem Validator.faults_ofValueMatcher (m : Matcher Value) (c : Cell) :
    (Validator.ofValueMatcher m).faults c = ((m.mismatch? c.value).map Mismatch.toText).toList :=
  rfl

theorem DataSpec.ChecksAlike.told {data data' : DataSpec} (h : data.ChecksAlike data') (c : Cell)
    (say : String → Problem) : (data'.validators.flatMap fun v => (v.faults c).map say).Perm
      ((data.matcher.bind fun m => (m.mismatch? c.value).map fun e => say e.toText).toList ++
        data.validators.flatMap fun v => (v.faults c).map say) := by
  have hmoved : ((data.matcher.toList.map Validator.ofValueMatcher).flatMap fun v =>
      (v.faults c).map say) =
        (data.matcher.bind fun m => (m.mismatch? c.value).map fun e => say e.toText).toList := by
    cases data.matcher with
    | none => rfl
    | some m => cases hm : m.mismatch? c.value <;> simp [Validator.faults_ofValueMatcher, hm]
  rw [← hmoved, ← List.flatMap_append]
  exact h.validators.flatMap_right _

namespace Header.ChecksAlike

variable {h h' : Header} (hh : h.ChecksAlike h')
include hh

theorem path : h'.path = h.path := hh.field.path

theorem told (i : Nat) : ((h'.refusal? i).toList ++ h'.faults i).Perm
    ((h.refusal? i).toList ++ h.faults i) := by
  unfold refusal? faults
  rw [hh.data, hh.path]
  rcases hh.field.body with hb | ⟨data, data', hb, hdata, hb'⟩
  · have hsame : h'.field.data? = h.field.data? := by simp only [Field.data?, hb]
    rw [hsame]
  · have hd : h.field.data? = some data := by simp only [Field.data?, hb]
    have hd' : h'.field.data? = some data' := by simp only [Field.data?, hb']
    simp only [hd, hd', Option.bind_some, hdata.matcher]
    cases h.data[i]? with
    | none => exact .refl _
    | some c =>
      exact hdata.told c fun m => .within h.path (.invalidValue c.reference c.value.toText m)

end Header.ChecksAlike

def toldAt (leaves : List Header) (i : Nat) : List Problem :=
  leaves.flatMap fun h => (h.refusal? i).toList ++ h.faults i

theorem toldAt_perm {leaves leaves' : List Header}
    (hl : List.Forall₂ Header.ChecksAlike leaves leaves') (i : Nat) :
    (toldAt leaves' i).Perm (toldAt leaves i) := by
  unfold toldAt
  induction hl with
  | nil => exact .refl _
  | cons hh _ ih =>
    rw [List.flatMap_cons, List.flatMap_cons]
    exact (hh.told i).append ih

/-- A leaf has noted what its matcher refuses. -/
def Header.Noted (h : Header) : Prop :=
  ∀ i, (h.mismatch? i).map (.within h.path) = h.refusal? i

theorem recordProblems_told (t : TableLayout) {leaves : List Header} (hl : ∀ h ∈ leaves, h.Noted)
    (r : Record) : (recordProblems t leaves r).Perm
      (toldAt leaves r.index ++
        t.validators.flatMap fun v => (v.faults r).map (.invalidRecord r.index)) := by
  have hrefused : (leaves.filterMap fun h => (h.mismatch? r.index).map (.within h.path)) =
      leaves.flatMap fun h => (h.refusal? r.index).toList := by
    rw [List.filterMap_congr fun h hh => hl h hh r.index, List.filterMap_eq_flatMap_toList]
  -- All refusals come before all faults, here leaf by leaf.
  unfold recordProblems
  rw [hrefused]
  exact (List.flatMap_append_perm leaves _ _).append_right _

theorem recordProblems_checksAlike {t t' : TableLayout} (ht : t'.validators = t.validators)
    {leaves leaves' : List Header} (hlike : List.Forall₂ Header.ChecksAlike leaves leaves')
    (hl : ∀ h ∈ leaves, h.Noted) (hl' : ∀ h ∈ leaves', h.Noted) (r : Record) :
    (recordProblems t' leaves' r).Perm (recordProblems t leaves r) := by
  have htold := recordProblems_told t hl r
  have htold' := recordProblems_told t' hl' r
  rw [ht] at htold'
  exact (htold'.trans ((toldAt_perm hlike r.index).append_right _)).trans htold.symm

theorem Header.ChecksAlike.feeds {h h' : Header} (hh : h.ChecksAlike h') : FeedsAlike id h h' where
  leaf := hh.field.isLeaf
  id := hh.field.id
  path := hh.path
  data := hh.data.trans (List.map_id _).symm

theorem headerProblems_checksAlike {headers headers' : List Header}
    (hlike : List.Forall₂ Header.ChecksAlike headers headers') :
    (headers'.flatMap fun h => prefixed h.path h.problems) =
      headers.flatMap fun h => prefixed h.path h.problems := by
  have hsame : (headers.map fun h => prefixed h.path h.problems) =
      headers'.map fun h => prefixed h.path h.problems :=
    map_eq_of_forall₂ hlike fun _ _ hh => by rw [hh.path, hh.problems]
  exact congrArg List.flatten hsame.symm

theorem refused_mem_problems {t : TableLayout} {headers : Forest Header}
    (hl : ∀ h ∈ headers.toList, h.Noted) (missing : List Problem) {h : Header}
    (hh : h ∈ headers.toList) {data : DataSpec} {m : Matcher Value}
    (hdata : h.field.data? = some data) (hm : data.matcher = some m) {r : Record}
    (hr : r ∈ records (leafHeaders headers)) {c : Cell}
    (hc : h.data[r.index]? = some c) {e : Mismatch} (he : m.mismatch? c.value = some e) :
    .within h.path (.invalidValue c.reference c.value.toText e.toText) ∈
      (Table.assemble t headers missing).problems := by
  have hleaf : h ∈ leafHeaders headers := by
    refine List.mem_filter.mpr ⟨hh, ?_⟩
    simp [Field.isLeaf, Field.role, Field.body_of_data? hdata]
  have hrefused : h.refusal? r.index =
      some (.within h.path (.invalidValue c.reference c.value.toText e.toText)) := by
    simp [Header.refusal?, hc, hdata, hm, he]
  have hsaid : .within h.path (.invalidValue c.reference c.value.toText e.toText) ∈
      recordProblems t (leafHeaders headers) r := by
    refine List.mem_append_left _ (List.mem_append_left _ (List.mem_filterMap.mpr ⟨h, hleaf, ?_⟩))
    rw [hl h hh, hrefused]
  exact List.mem_append_right _ (List.mem_flatMap.mpr ⟨r, hr, hsaid⟩)

theorem assemble_checksAlike {t t' : TableLayout} (ht : t'.validators = t.validators)
    {headers headers' : Forest Header} (hlike : headers.Forall₂ Header.ChecksAlike headers')
    (hl : ∀ h ∈ headers.toList, h.Noted) (hl' : ∀ h ∈ headers'.toList, h.Noted)
    (missing : List Problem) :
    (Table.assemble t headers missing).ChecksAlike (.assemble t' headers' missing) := by
  have hleaves : List.Forall₂ Header.ChecksAlike (leafHeaders headers) (leafHeaders headers') :=
    List.rel_filter (fun _ _ hh => iff_of_eq (congrArg (· = true) hh.field.isLeaf.symm))
      hlike.toList
  have hrecords := records_eq (hlike.imp fun _ _ hh => hh.feeds)
  have hnoted : ∀ h ∈ leafHeaders headers, h.Noted := fun h hh => hl h (List.mem_filter.mp hh).1
  have hnoted' : ∀ h ∈ leafHeaders headers', h.Noted :=
    fun h hh => hl' h (List.mem_filter.mp hh).1
  have hproblems : (Table.assemble t' headers' missing).problems.Perm
      (Table.assemble t headers missing).problems := by
    simp only [Table.assemble, hrecords, headerProblems_checksAlike hlike.toList]
    exact (List.Perm.flatMap_left _ fun r _ =>
      recordProblems_checksAlike ht hleaves hnoted hnoted' r).append_left _
  constructor
  · exact hlike
  · exact hrecords
  · exact hproblems
  · intro h hh data m hdata hm r hr c hc e he
    exact hproblems.mem_iff.mpr (refused_mem_problems hl missing hh hdata hm hr hc he)

namespace Search

variable (s : Search)

theorem headerAt_noted (p : Placed) : (s.headerAt p).Noted := s.header_refusal? p.field p.cell _

theorem lack_checksAlike {fields fields' : List Field}
    (h : List.Forall₂ Field.ChecksAlike fields fields') :
    fields'.filterMap lack = fields.filterMap lack := by
  have hsame : fields.map lack = fields'.map lack :=
    map_eq_of_forall₂ h fun _ _ hf => by simp only [lack, hf.necessity, hf.path]
  have hfilter : ∀ fields : List Field, fields.filterMap lack = (fields.map lack).filterMap id := by
    intro fields
    rw [List.filterMap_map]
    rfl
  rw [hfilter, hfilter, hsame]

theorem headerAt_checksAlike {s s' : Search} (hs : s.Agree s') {p p' : Placed}
    (hp : PlacedAlike Field.ChecksAlike p p') : (s.headerAt p).ChecksAlike (s'.headerAt p') := by
  unfold headerAt
  rw [hp.cell, lack_checksAlike hp.absent]
  exact header_checksAlike hs hp.field p.cell _

theorem tableOf_checksAlike {s s' : Search} (hs : s.Agree s')
    (hlayout : s.layout.ChecksAlike s'.layout) {P P' : Forest Placed × List Field}
    (hplaced : P.1.Forall₂ (PlacedAlike Field.ChecksAlike) P'.1)
    (habsent : List.Forall₂ Field.ChecksAlike P.2 P'.2) :
    (s.tableOf P).ChecksAlike (s'.tableOf P') := by
  have hnoted : ∀ (s : Search) (F : Forest Placed), ∀ h ∈ (F.map s.headerAt).toList, h.Noted := by
    intro s F h hh
    rw [Forest.toList_map] at hh
    obtain ⟨p, _, rfl⟩ := List.mem_map.mp hh
    exact s.headerAt_noted p
  unfold tableOf
  rw [lack_checksAlike habsent]
  exact assemble_checksAlike hlayout.validators
    (hplaced.map fun _ _ hp => headerAt_checksAlike hs hp) (hnoted s P.1) (hnoted s' P'.1) _

theorem tables_checksAlike {t' : TableLayout} (h : s.layout.ChecksAlike t') :
    List.Forall₂ Table.ChecksAlike s.tables ({ s with layout := t' } : Search).tables := by
  let s' : Search := { s with layout := t' }
  have hlayout : s.layout.ChecksAlike s'.layout := h
  have hs : s.Agree s' := ⟨rfl, rfl, rfl, isHeader_checksAlike hlayout⟩
  have hanchors : s'.anchors = s.anchors := by
    unfold anchors
    rw [hlayout.anchor.matcher, hs.candidates]
  have hchild : ∀ f f' : Field, f.ChecksAlike f' → ∀ g g' : Field, g.ChecksAlike g' → ∀ c,
      s'.locateChild f' c g' = s.locateChild f c g :=
    fun f f' hf g g' hg => locateChild_checksAlike hs hf hg
  rw [tables_eq_placements, tables_eq_placements]
  unfold placements
  rw [hanchors, hs.candidates, List.map_map, List.map_map]
  refine forall₂_map_same fun p _ => ?_
  have hroot : ∀ f f' : Field, f.ChecksAlike f' →
      s'.locateRoot s.candidates s.anchors p.2 p.1 f' =
        s.locateRoot s.candidates s.anchors p.2 p.1 f :=
    fun f f' hf => locateRoot_checksAlike hlayout hf _ _ _ _
  obtain ⟨hplaced, habsent⟩ := place_alike hchild h.forest hroot
  exact tableOf_checksAlike hs hlayout hplaced habsent

end Search

theorem missingAnchor_checksAlike {t t' : TableLayout} (h : t.ChecksAlike t') :
    Search.missingAnchor t' = Search.missingAnchor t := by
  unfold Search.missingAnchor
  rw [h.anchor.necessity, h.anchor.path, h.necessity]

/-- What a matcher checks may as well be left to a validator: the description is accepted as well,
the same tables are found with the same headers, data and records, and the same problems are
reported. -/
theorem recognize_checksAlike {spec spec' : TableSpec} (h : spec.ChecksAlike spec')
    {layout : TableLayout} (hb : spec.build = .ok layout) (g : Grid) (criteria : Criteria) :
    ∃ layout', spec'.build = .ok layout' ∧
      List.Forall₂ Table.ChecksAlike (recognize layout g criteria).1
        (recognize layout' g criteria).1 ∧
      (recognize layout' g criteria).2 = (recognize layout g criteria).2 := by
  obtain ⟨layout', hb', hlike⟩ := h.build hb
  have htables : List.Forall₂ Table.ChecksAlike (recognize layout g criteria).1
      (recognize layout' g criteria).1 := by
    rw [recognize_fst, recognize_fst]
    cases searchArea? g criteria with
    | none => exact .nil
    | some area => exact (searchIn layout g criteria area).tables_checksAlike hlike
  have hnone : (recognize layout' g criteria).1 = [] ↔ (recognize layout g criteria).1 = [] := by
    rw [← List.length_eq_zero_iff, ← List.length_eq_zero_iff, htables.length_eq]
  refine ⟨layout', hb', htables, ?_⟩
  rw [recognize_snd, recognize_snd, missingAnchor_checksAlike hlike]
  simp only [← recognize_fst_eq_nil, hnone]

def ruledNames : DataSpec :=
  { layout := .unfixed
    validators := [.rule (fun c => c.value != .text "Bob") "barred", .ofValueMatcher (only "Ann")] }

def ruledSpec : TableSpec where
  name := "Roster"
  fields :=
    let leaf := fun (name : String) (direction : Direction) (data : DataSpec) =>
      { name, matcher := labelled name, role := .leaf, direction := some direction,
        data := some data : FieldSpec }
    .node (leaf "Name" .down ruledNames) .nil
      (.node (leaf "Age" .up { layout := .unfixed }) .nil
        (.node (leaf "Total" .right { layout := .fixed 1 }) .nil .nil))
  validators := [.rule (fun r => r.index == 0) "late"]

def ruledLayout : TableLayout :=
  { rosterLayout with anchor := rosterField 0 "Name" .down ruledNames }

theorem rosterSpec_checksAlike : rosterSpec.ChecksAlike ruledSpec where
  name := rfl
  necessity := rfl
  fields := by
    have hdata : DataSpec.ChecksAlike
        { layout := .unfixed, matcher := some (only "Ann"),
          validators := [.rule (fun c => c.value != .text "Bob") "barred"] } ruledNames :=
      ⟨rfl, rfl, rfl, .swap _ _ []⟩
    exact .node (Or.inr ⟨_, _, rfl, hdata, rfl⟩) .nil
      (.node (Or.inl rfl) .nil (.node (Or.inl rfl) .nil .nil))
  validators := rfl

/-- The two things to say of Bob change places. -/
theorem recognize_checksAlike_roster :
    let cell := rosterSheet.grid.cellAt 3 0
    rosterSpec.ChecksAlike ruledSpec ∧ rosterSpec.build = .ok rosterLayout ∧
      ∃ layout', ruledSpec.build = .ok layout' ∧
        (recognize layout' rosterSheet.grid {}).1.map (fun t => t.problems.drop 2) =
          [[.within "Name" (.invalidValue cell.reference "Bob" "barred"),
            .within "Name" (.invalidValue cell.reference "Bob" "condition not satisfied"),
            .invalidRecord 2 "late"]] ∧
        List.Forall₂ Table.ChecksAlike (recognize rosterLayout rosterSheet.grid {}).1
          (recognize layout' rosterSheet.grid {}).1 := by
  intro cell
  obtain ⟨layout', hb, htables, _⟩ :=
    recognize_checksAlike rosterSpec_checksAlike rosterSpec_build rosterSheet.grid {}
  have hruled : ruledSpec.build = .ok ruledLayout := rfl
  obtain rfl := Except.ok.inj (hruled.symm.trans hb)
  exact ⟨rosterSpec_checksAlike, rosterSpec_build, ruledLayout, hruled, rfl, htables⟩

end SheetTables
