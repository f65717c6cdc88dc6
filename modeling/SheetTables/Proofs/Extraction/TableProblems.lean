import SheetTables.Proofs.Extraction.Assembly

/-! # Problems of a table

A table reports, in this order, the required roots that it lacks, the problems of its headers,
and for each record that is kept the values that a matcher refuses, those at fault with a
validator, and the faults of the record itself. All that is said of values and records comes
from records that are kept; a place where no leaf has a value is passed over.
-/

namespace SheetTables

/-- The required roots beyond the anchor that are not among the headers. -/
def missedRoots (layout : TableLayout) (headers : Forest Header) : List Problem :=
  (layout.others.roots.filter fun f =>
    f.necessity.isRequired && headers.roots.all fun h => h.field.id != f.id).map
      fun f => .headerNotFound f.path

def headerProblems (headers : Forest Header) : List Problem :=
  headers.toList.flatMap fun h => h.problems.map (.within h.path)

def Header.refusal? (h : Header) (i : Nat) : Option Problem :=
  h.data[i]?.bind fun c => (h.field.data?.bind (·.matcher)).bind fun m =>
    (m.mismatch? c.value).map fun e =>
      .within h.path (.invalidValue c.reference c.value.toText e.toText)

def Header.complaints (h : Header) (i : Nat) : List Problem :=
  h.data[i]?.toList.flatMap fun c =>
    ((h.field.data?.elim [] (·.validators)).filter (·.concerns c)).flatMap fun v =>
      (v.messages c).map fun m => .within h.path (.invalidValue c.reference c.value.toText m)

def violations (layout : TableLayout) (leaves : List Header) (r : Record) : List Problem :=
  leaves.filterMap (·.refusal? r.index) ++ leaves.flatMap (·.complaints r.index) ++
    (layout.validators.filter (·.concerns r)).flatMap fun v =>
      (v.messages r).map fun m => .invalidRecord r.index m

/-- The problems of a table with some leaves. -/
structure Reports (layout : TableLayout) (leaves : List Header) (t : Table) : Prop where
  all : t.problems = missedRoots layout t.headers ++ headerProblems t.headers ++
    t.records.flatMap (violations layout leaves)
  sorted : t.records.Pairwise fun r r' => r.index < r'.index
  kept : ∀ i, (∃ r ∈ t.records, r.index = i) ↔ HasValueAt leaves i
  content : (t.problems.filter fun p => p.kind = .validation) =
    t.records.flatMap (violations layout leaves)
  dropped : ∀ i, ¬ HasValueAt leaves i → ∀ message, .invalidRecord i message ∉ t.problems

theorem flatMap_faults {α β : Type} (validators : List (Validator α)) (a : α)
    (f : String → β) : (validators.flatMap fun v => (v.faults a).map f) =
      (validators.filter (·.concerns a)).flatMap fun v => (v.messages a).map f := by
  unfold Validator.faults
  induction validators with
  | nil => rfl
  | cons v validators ih => by_cases hv : v.concerns a <;> simp [hv, ih]

theorem Header.faults_eq (h : Header) (i : Nat) : h.faults i = h.complaints i := by
  unfold faults complaints
  cases h.data[i]? with
  | none => rfl
  | some c =>
    cases h.field.data? with
    | none => rfl
    | some data =>
      simp only [Option.toList_some, List.flatMap_singleton, Option.elim_some]
      exact flatMap_faults data.validators c _

section Places

variable {α β : Type} (f : α → Option β) (as : List α) (n : Nat)

theorem lookup_filterMap_zipIdx_of_lt {i : Nat} (h : i < n) :
    ((as.zipIdx n).filterMap fun p => (f p.1).map fun b => (p.2, b)).lookup i = none := by
  rw [List.lookup_eq_none_iff]
  intro p hp
  obtain ⟨q, hq, hb⟩ := List.mem_filterMap.mp hp
  obtain ⟨_, _, rfl⟩ := Option.map_eq_some_iff.mp hb
  have hle := List.le_snd_of_mem_zipIdx hq
  simp only [bne_iff_ne]
  omega

theorem lookup_filterMap_zipIdx (j : Nat) :
    ((as.zipIdx n).filterMap fun p => (f p.1).map fun b => (p.2, b)).lookup (n + j) =
      as[j]?.bind f := by
  induction as generalizing n j with
  | nil => simp
  | cons a as ih =>
    rw [List.zipIdx_cons, List.filterMap_cons]
    cases j with
    | zero =>
      -- The places noted of the rest are all later ones.
      have hlater := lookup_filterMap_zipIdx_of_lt f as (n + 1) (Nat.lt_succ_self n)
      cases hf : f a with
      | none => simpa [hf] using hlater
      | some b => simp [hf]
    | succ j =>
      have hne : (n + (j + 1) == n) = false := by simp
      have hlater := ih (n + 1) j
      rw [show n + 1 + j = n + (j + 1) by omega] at hlater
      cases hf : f a with
      | none => simpa using hlater
      | some b => simpa [List.lookup_cons, hne] using hlater

end Places

theorem kind_of_mem_violations {layout : TableLayout} {leaves : List Header} {r : Record}
    {p : Problem} (hp : p ∈ violations layout leaves r) : p.kind = .validation := by
  simp only [violations, List.mem_append, List.mem_filterMap, List.mem_flatMap, List.mem_map,
    Header.refusal?, Header.complaints, Option.bind_eq_some_iff, Option.map_eq_some_iff] at hp
  rcases hp with (⟨h, _, c, _, m, _, e, _, rfl⟩ | ⟨h, _, c, _, v, _, m, _, rfl⟩) |
    ⟨v, _, m, _, rfl⟩ <;> rfl

theorem index_of_mem_violations {layout : TableLayout} {leaves : List Header} {r : Record}
    {i : Nat} {message : String} (hp : .invalidRecord i message ∈ violations layout leaves r) :
    r.index = i := by
  simp only [violations, List.mem_append, List.mem_filterMap, List.mem_flatMap, List.mem_map,
    Header.refusal?, Header.complaints, Option.bind_eq_some_iff, Option.map_eq_some_iff] at hp
  rcases hp with (⟨h, _, c, _, m, _, e, _, he⟩ | ⟨h, _, c, _, v, _, m, _, he⟩) |
    ⟨v, _, m, _, he⟩ <;> cases he
  rfl

theorem Walks.kind {g : Grid} {d : Direction} {c : Cell} {cells : List Cell}
    {problems : List Problem} (h : Walks g d c cells problems) :
    ∀ p ∈ problems, p.kind ≠ .validation := by
  induction h with
  | turned c => simp
  | halted c => simp
  | failed h => simp [geometryProblem, Problem.kind]
  | stepped h _ ih => exact ih

namespace Search

variable (s : Search)

theorem mismatches_lookup (data : DataSpec) (cells : List Cell) (i : Nat) :
    (mismatches data cells).lookup i = cells[i]?.bind fun c => data.matcher.bind fun m =>
      (m.mismatch? c.value).map fun e =>
        .invalidValue c.reference c.value.toText e.toText := by
  unfold mismatches
  cases data.matcher with
  | none => simp
  | some m =>
    have hlookup := lookup_filterMap_zipIdx (fun c : Cell => (m.mismatch? c.value).map fun e =>
      Problem.invalidValue c.reference c.value.toText e.toText) cells 0 i
    simpa [Option.map_map, Function.comp_def] using hlookup

theorem header_refusal? (f : Field) (c : Cell) (missing : List Problem) (i : Nat) :
    ((s.header f c missing).mismatch? i).map (.within (s.header f c missing).path) =
      (s.header f c missing).refusal? i := by
  unfold header
  cases hf : f.body with
  | group => rfl
  | leaf data =>
    simp only [leafHeader]
    cases s.grid.probe c f.direction f.distance with
    | error e => rfl
    | ok origin =>
      simp only [Header.mismatch?, Header.refusal?, mismatches_lookup, Option.map_bind]
      simp [Field.data?, hf, Function.comp_def]

theorem header_kind (f : Field) (c : Cell) {missing : List Problem}
    (hm : ∀ p ∈ missing, p.kind ≠ .validation) :
    ∀ p ∈ (s.header f c missing).problems, p.kind ≠ .validation := by
  cases hf : f.body with
  | group =>
    rw [(s.header_group hf c missing).2]
    split
    · simp [Problem.kind]
    · exact hm
  | leaf data =>
    cases hp : s.grid.probe c f.direction f.distance with
    | error e => simp [(s.header_astray hf hp missing).2, Problem.kind]
    | ok origin =>
      rw [(s.header_run hf hp missing).2]
      exact (s.run_walks f.direction data origin).kind

theorem absence_kind {locate : Field → Option Cell} (fields : List Field) :
    ∀ p ∈ fields.filterMap (absence locate), p.kind ≠ .validation := by
  intro p hp
  obtain ⟨f, _, hf⟩ := List.mem_filterMap.mp hp
  obtain ⟨_, _, rfl⟩ := absence_eq_some_iff.mp hf
  simp [Problem.kind]

theorem locate_eq_none_iff {F : Forest Field} (hids : (F.roots.map (·.id)).Nodup)
    {locate : Field → Option Cell} {f : Field} (hf : f ∈ F.roots) :
    locate f = none ↔ ∀ h ∈ (s.bind locate F).1.roots, h.field.id ≠ f.id := by
  have hmem : ∀ g c, (g, c) ∈ (s.bind locate F).1.roots.map (fun h => (h.field, h.cell)) ↔
      g ∈ F.roots ∧ locate g = some c := by
    simp [bind_roots]
  constructor
  · intro hnone h hh hid
    obtain ⟨hroot, hc⟩ := (hmem h.field h.cell).mp (List.mem_map_of_mem hh)
    rw [List.inj_on_of_nodup_map hids hroot hf hid, hnone] at hc
    cases hc
  · intro hfree
    by_contra hsome
    obtain ⟨c, hc⟩ := Option.ne_none_iff_exists'.mp hsome
    obtain ⟨h, hh, he⟩ := List.mem_map.mp ((hmem f c).mpr ⟨hf, hc⟩)
    exact hfree h hh (congrArg (fun p : Field × Cell => p.1.id) he)

theorem recordProblems_eq (layout : TableLayout) {leaves : List Header}
    (hl : ∀ h ∈ leaves, ∀ i, (h.mismatch? i).map (.within h.path) = h.refusal? i) (r : Record) :
    recordProblems layout leaves r = violations layout leaves r := by
  have hrefused : (leaves.filterMap fun h => (h.mismatch? r.index).map (.within h.path)) =
      leaves.filterMap (·.refusal? r.index) :=
    List.filterMap_congr fun h hh => hl h hh r.index
  have hfaults : (leaves.flatMap (·.faults r.index)) = leaves.flatMap (·.complaints r.index) :=
    List.flatMap_congr fun h _ => h.faults_eq r.index
  rw [recordProblems, violations, hrefused, hfaults, flatMap_faults]

variable {spec : TableSpec} (hb : spec.build = .ok s.layout)
include hb

theorem bind_missedRoots (candidates anchors : List Cell) (occurrence : Nat) (a : Cell) :
    let bound := s.bind (s.locateRoot candidates anchors occurrence a) s.layout.forest
    bound.2 = missedRoots s.layout bound.1 := by
  intro bound
  have hids : (s.layout.roots.map (·.id)).Nodup :=
    List.pairwise_map.mpr ((TableLayout.roots_sorted hb).imp Nat.ne_of_lt)
  -- The anchor has its cell, so that it is never among the roots that are missed.
  have hanchor : absence (s.locateRoot candidates anchors occurrence a) s.layout.anchor = none := by
    simp [absence]
  have hproblems : bound.2 = s.layout.others.roots.filterMap
      (absence (s.locateRoot candidates anchors occurrence a)) :=
    (s.bind_problems _ _).trans (List.filterMap_cons_none hanchor)
  rw [hproblems, filterMap_absence, missedRoots]
  refine congrArg (List.map _) (List.filter_congr fun f hf => ?_)
  have hfree : s.locateRoot candidates anchors occurrence a f = none ↔
      ∀ h ∈ bound.1.roots, h.field.id ≠ f.id :=
    s.locate_eq_none_iff hids (List.mem_cons_of_mem _ hf)
  rw [Bool.and_comm, Bool.eq_iff_iff]
  simp only [Bool.and_eq_true, Option.isNone_iff_eq_none, hfree, List.all_eq_true, bne_iff_ne]

theorem table_problems {t : Table} (ht : t ∈ s.tables) :
    t.problems = missedRoots s.layout t.headers ++ headerProblems t.headers ++
      t.records.flatMap (violations s.layout (leafHeaders t.headers)) := by
  have hrefused : ∀ h ∈ leafHeaders t.headers, ∀ i,
      (h.mismatch? i).map (.within h.path) = h.refusal? i := by
    intro h hh i
    obtain ⟨kids, hk⟩ := Forest.exists_family (List.mem_filter.mp hh).1
    obtain ⟨_, fields, _, hheads⟩ := s.heads_of_mem hb ht hk
    rw [hheads.header]
    exact s.header_refusal? _ _ _ i
  obtain ⟨a, _, occurrence, rfl⟩ := s.mem_tables ht
  have hmissed := s.bind_missedRoots hb s.candidates s.anchors occurrence a
  have hrecords := List.flatMap_congr fun r (_ : r ∈ records (leafHeaders
    (s.table s.candidates s.anchors a occurrence).headers)) =>
      recordProblems_eq s.layout hrefused r
  exact congrArg₂ (· ++ ·) (congrArg₂ (· ++ ·) hmissed rfl) hrecords

theorem headerProblems_kind {t : Table} (ht : t ∈ s.tables) :
    ∀ p ∈ headerProblems t.headers, p.kind ≠ .validation := by
  intro p hp
  obtain ⟨h, hh, hp⟩ := List.mem_flatMap.mp hp
  obtain ⟨q, hq, rfl⟩ := List.mem_map.mp hp
  obtain ⟨kids, hk⟩ := Forest.exists_family hh
  obtain ⟨_, fields, _, hheads⟩ := s.heads_of_mem hb ht hk
  rw [hheads.header] at hq
  exact s.header_kind _ _ (absence_kind fields) q hq

theorem table_content {t : Table} (ht : t ∈ s.tables) :
    (t.problems.filter fun p => p.kind = .validation) =
      t.records.flatMap (violations s.layout (leafHeaders t.headers)) := by
  have hmissed : ∀ p ∈ missedRoots s.layout t.headers, p.kind ≠ .validation := by
    intro p hp
    obtain ⟨f, _, rfl⟩ := List.mem_map.mp hp
    simp [Problem.kind]
  have hheaders := s.headerProblems_kind hb ht
  have hcontent : ∀ p ∈ t.records.flatMap (violations s.layout (leafHeaders t.headers)),
      p.kind = .validation := by
    intro p hp
    obtain ⟨r, _, hp⟩ := List.mem_flatMap.mp hp
    exact kind_of_mem_violations hp
  rw [s.table_problems hb ht, List.filter_append, List.filter_append,
    List.filter_eq_nil_iff.mpr (by simpa using hmissed),
    List.filter_eq_nil_iff.mpr (by simpa using hheaders),
    List.filter_eq_self.mpr (by simpa using hcontent)]
  rfl

theorem table_reports {t : Table} (ht : t ∈ s.tables) :
    Reports s.layout (leafHeaders t.headers) t := by
  have hrecords := s.table_records ht
  have hkept : ∀ i, (∃ r ∈ t.records, r.index = i) ↔ HasValueAt (leafHeaders t.headers) i := by
    rw [hrecords]
    exact records_kept
  constructor
  · exact s.table_problems hb ht
  · rw [hrecords]
    exact records_sorted _
  · exact hkept
  · exact s.table_content hb ht
  · intro i hi message hp
    have hcontent : .invalidRecord i message ∈ t.problems.filter fun p => p.kind = .validation :=
      List.mem_filter.mpr ⟨hp, rfl⟩
    rw [s.table_content hb ht] at hcontent
    obtain ⟨r, hr, hp⟩ := List.mem_flatMap.mp hcontent
    exact hi ((hkept i).mp ⟨r, hr, index_of_mem_violations hp⟩)

end Search

/-- A table reports what it lacks, what went wrong at its headers and what is wrong with the
content of its records, in this order, and nothing else. Content is judged in kept records only,
which are those of the places where some leaf has a value. -/
theorem recognize_problems {spec : TableSpec} {layout : TableLayout}
    (hb : spec.build = .ok layout) (s : Sheet) (criteria : Criteria) :
    ∀ t ∈ (recognize layout s.grid criteria).1,
      Reports layout (t.headers.toList.filter fun h => h.field.isLeaf) t := by
  intro t ht
  obtain ⟨area, _, ht⟩ := mem_recognize ht
  exact (searchIn layout s.grid criteria area).table_reports hb ht

def only (text : String) : Matcher Value :=
  ⟨.and, none, .leaf (· == .text text) none .nil⟩

/-- Names down a column, beside ages above their header, with a total below. -/
def rosterSpec : TableSpec where
  name := "Roster"
  fields :=
    let names : DataSpec :=
      { layout := .unfixed, matcher := some (only "Ann"),
        validators := [.rule (fun c => c.value != .text "Bob") "barred"] }
    let leaf := fun (name : String) (direction : Direction) (data : DataSpec) =>
      { name, matcher := labelled name, role := .leaf, direction := some direction,
        data := some data : FieldSpec }
    .node (leaf "Name" .down names) .nil
      (.node (leaf "Age" .up { layout := .unfixed }) .nil
        (.node (leaf "Total" .right { layout := .fixed 1 }) .nil .nil))
  validators := [.rule (fun r => r.index == 0) "late"]

def rosterField (id : Nat) (name : String) (direction : Direction) (data : DataSpec) : Field :=
  { id, parent := none, path := name, name, matcher := labelled name, necessity := .required,
    direction, distance := 1, body := .leaf data }

def rosterLayout : TableLayout where
  name := "Roster"
  necessity := .required
  anchor := rosterField 0 "Name" .down
    { layout := .unfixed, matcher := some (only "Ann"),
      validators := [.rule (fun c => c.value != .text "Bob") "barred"] }
  anchorChildren := .nil
  others :=
    .node (rosterField 1 "Age" .up { layout := .unfixed }) .nil
      (.node (rosterField 2 "Total" .right { layout := .fixed 1 }) .nil .nil)
  validators := [.rule (fun r => r.index == 0) "late"]

theorem rosterSpec_build : rosterSpec.build = .ok rosterLayout := rfl

def rosterSheet : Sheet :=
  .ofEdits "Sheet1"
    [.push 0 0 (.text "Name"), .push 0 1 (.text "Age"), .push 1 0 (.text "Ann"),
      .push 3 0 (.text "Bob")]

def rosterProblems : List Problem :=
  let cell := rosterSheet.grid.cellAt
  [.headerNotFound "Total",
    .within "Age" (.inconsistentGeometry (cell 0 1).reference
      (.noCell (cell 0 1).reference .up 1)),
    .within "Name" (.invalidValue (cell 3 0).reference "Bob" "condition not satisfied"),
    .within "Name" (.invalidValue (cell 3 0).reference "Bob" "barred"),
    .invalidRecord 2 "late"]

/-- The empty value between the two does not match either, and is not reported. -/
theorem recognize_problems_roster :
    rosterSpec.build = .ok rosterLayout ∧
      ∃ t ∈ (recognize rosterLayout rosterSheet.grid {}).1,
        t.problems = rosterProblems ∧
        Reports rosterLayout (t.headers.toList.filter fun h => h.field.isLeaf) t := by
  have hproblems : (recognize rosterLayout rosterSheet.grid {}).1.map (·.problems) =
      [rosterProblems] := rfl
  obtain ⟨t, hmem, ht⟩ := List.mem_map.mp (hproblems ▸ List.mem_singleton_self rosterProblems)
  exact ⟨rosterSpec_build, t, hmem, ht, recognize_problems rosterSpec_build rosterSheet {} t hmem⟩

end SheetTables
