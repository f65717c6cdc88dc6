import SheetTables.Pattern.Compile
import SheetTables.Proofs.Extraction.HeaderTrees
import SheetTables.Proofs.Extraction.OpenRun
import SheetTables.Proofs.Grid.LogicalCells
import SheetTables.Proofs.Matching.CellContents

/-! # Headers and open runs

Every header is found by a matcher that its cell satisfies, and an open run takes no cell that any
matcher of the table is satisfied by. Where matchers take a cell alike from whichever of its
positions it was looked up, no cell is both a header and a part of an open run, in one table or in
two.
-/

namespace SheetTables

theorem DataLayout.ne_fixed {layout : DataLayout} (h : layout = .unfixed ∨ layout = .mixed)
    (count : Nat) : layout ≠ .fixed count := by
  rcases h with rfl | rfl <;> simp

namespace Search

variable (s : Search)

theorem mem_of_mem_cut {taken : Nat} {cells : List Cell} {c : Cell} (h : c ∈ s.cut taken cells) :
    c ∈ cells := by
  unfold cut at h
  cases hm : s.criteria.maxRun with
  | none => simpa [hm] using h
  | some limit =>
    rw [hm] at h
    exact List.mem_of_mem_take h

theorem admits_of_mem_run (ht : s.grid.Tiled) {d : Direction} {data : DataSpec} {origin c : Cell}
    (ho : s.grid.Holds origin) (hl : ∀ count, data.layout ≠ .fixed count)
    (hc : c ∈ (s.run d data origin).1) : s.Admits data.openBoundary c := by
  obtain ⟨whole, hwhole, hrun⟩ := s.openRun_eq ht (d := d) data.openBoundary ho
    (Nat.lt_succ_self (s.room d origin.range))
  rw [s.run_eq_openRun hl, hrun 0] at hc
  exact hwhole.admitted c (s.mem_of_mem_cut hc)

/-- What belongs to the data of a header lies on the grid, and is no header where the data are an
open run. -/
theorem header_data_admits (ht : s.grid.Tiled) {f : Field} {data : DataSpec}
    (hf : f.body = .leaf data) (hl : ∀ count, data.layout ≠ .fixed count) {c k : Cell}
    (hc : s.grid.Holds c)
    {missing : List Problem} (hk : k ∈ (s.header f c missing).data) :
    s.grid.Holds k ∧ s.Admits data.openBoundary k := by
  rcases s.header_data f c missing with hnone | ⟨data', origin, hf', hp, hrun⟩
  · rw [hnone] at hk
    cases hk
  · cases hf.symm.trans hf'
    rw [hrun] at hk
    have ho := Grid.probe_holds ht hc hp
    exact ⟨(s.run_walks f.direction data origin).held ht ho k hk, s.admits_of_mem_run ht ho hl hk⟩

end Search

/-- A matcher that asks for the text and the place of a cell only looks at its value and its range.
Where all headers are found by matchers that do, open runs and headers have no cell in common. -/
theorem recognize_headersApart :
    (∀ (root : Junction) (steps : List (Matcher.Step Cell)) (m : Matcher Cell),
      (∀ step ∈ steps, step.AsksOfCell) → Matcher.ofSteps root steps = .ok m →
        m.test.FactorsThrough Cell.content) ∧
    ∀ (spec : TableSpec) (layout : TableLayout), spec.build = .ok layout →
      (∀ f ∈ layout.fields, f.matcher.test.FactorsThrough Cell.content) →
      ∀ (s : Sheet) (criteria : Criteria),
        let tables := (recognize layout s.grid criteria).1
        ∀ t ∈ tables, ∀ h ∈ t.headers.toList, ∀ data, h.field.body = .leaf data →
          (∀ count, data.layout ≠ .fixed count) → ∀ c ∈ h.data,
            ∀ t' ∈ tables, ∀ h' ∈ t'.headers.toList, ¬ c == h'.cell := by
  constructor
  · intro root steps m hsteps hm
    exact Matcher.ofSteps_factorsThrough (fun step h => (hsteps step h).looksAt) hm
  · intro spec layout hb hlook s criteria tables t ht h hh data hbody hlayout c hc t' ht' h' hh'
    obtain ⟨area, harea, ht⟩ := mem_recognize ht
    obtain ⟨area', harea', ht'⟩ := mem_recognize ht'
    obtain rfl := Option.some.inj (harea.symm.trans harea')
    let search := searchIn layout s.grid criteria area
    have hview : search.grid.Tiled := criteria.tiled_view s.tiled
    obtain ⟨hcell, _, missing, he⟩ := search.header_of_mem hview ht hh
    obtain ⟨hcell', hfield', _⟩ := search.header_of_mem hview ht' hh'
    rw [he] at hc
    obtain ⟨hheld, hadmits⟩ := search.header_data_admits hview hbody hlayout hcell hc
    obtain ⟨kids, hkids⟩ := Forest.exists_family hh'
    have hmatch := (search.heads_of_mem hb ht' hkids).1
    intro hsame
    have hcontent := hheld.content_eq hcell' ((hheld.beq_iff hcell').mp hsame)
    apply hadmits.header h'.field hfield'
    rw [hlook h'.field hfield' hcontent]
    exact hmatch

def titled (text : String) : Matcher Cell :=
  ⟨.and, none, .leaf (fun c => TextCondition.test (· == text) c.value.text?) none .nil⟩

theorem equalTo_titled (text : String) : Matcher.equalTo text = .ok (titled text) := rfl

def stackedSpec : TableSpec where
  name := "People"
  fields :=
    let column := fun name : String =>
      { name, matcher := titled name, role := .leaf, direction := some .down,
        data := some { layout := .unfixed } : FieldSpec }
    .node (column "Age") .nil (.node (column "Name") .nil .nil)

def stackedField (id : Nat) (name : String) : Field :=
  { id, parent := none, path := name, name, matcher := titled name, necessity := .required,
    direction := .down, distance := 1, body := .leaf { layout := .unfixed } }

def stackedLayout : TableLayout where
  name := "People"
  necessity := .required
  anchor := stackedField 0 "Age"
  anchorChildren := .nil
  others := .node (stackedField 1 "Name") .nil .nil
  validators := []

theorem stackedSpec_build : stackedSpec.build = .ok stackedLayout := rfl

/-- Two columns over a wide one. The second of them goes down to another position of the wide
header than the one by which that is found. -/
def stackedSheet : Sheet :=
  .ofEdits "Sheet1"
    [.push 0 0 (.text "Age"), .push 0 1 (.text "Name"), .push 1 0 (.text "30"),
      .push 1 1 (.text "Ann"), .merge (.ofCorners 2 0 2 1), .push 2 0 (.text "Age"),
      .merge (.ofCorners 3 0 3 1), .push 3 0 (.text "31")]

def stackedHeader (f : Field) (row col : Nat) : Header :=
  { field := f, cell := stackedSheet.grid.cellAt row col
    data := [stackedSheet.grid.cellAt (row + 1) col] }

def stackedHeaders : List (List Header) :=
  [[stackedHeader (stackedField 0 "Age") 0 0, stackedHeader (stackedField 1 "Name") 0 1],
    [stackedHeader (stackedField 0 "Age") 2 0]]

theorem recognize_headersApart_stacked :
    let tables := (recognize stackedLayout stackedSheet.grid {}).1
    stackedSpec.build = .ok stackedLayout ∧
      (∀ f ∈ stackedLayout.fields, f.matcher.test.FactorsThrough Cell.content) ∧
      tables.map (·.headers.toList) = stackedHeaders ∧
      ∀ t ∈ tables, ∀ h ∈ t.headers.toList, ∀ c ∈ h.data,
        ∀ t' ∈ tables, ∀ h' ∈ t'.headers.toList, ¬ c == h'.cell := by
  intro tables
  have htitled : ∀ text, (titled text).test.FactorsThrough Cell.content := by
    intro text
    refine recognize_headersApart.1 .and [.cellText .equals text] _ ?_ (equalTo_titled text)
    exact List.forall_mem_singleton.mpr (.cellText .equals text)
  have hfields : ∀ f ∈ stackedLayout.fields, f.matcher.test.FactorsThrough Cell.content :=
    List.forall_mem_cons.mpr ⟨htitled "Age", List.forall_mem_singleton.mpr (htitled "Name")⟩
  have hheaders : tables.map (·.headers.toList) = stackedHeaders := rfl
  refine ⟨stackedSpec_build, hfields, hheaders, ?_⟩
  intro t ht h hh
  have hleaf : h.field.body = .leaf { layout := .unfixed } := by
    have hmem : t.headers.toList ∈ stackedHeaders := hheaders ▸ List.mem_map_of_mem ht
    have hall : ∀ hs ∈ stackedHeaders, ∀ h ∈ hs, h.field.body = .leaf { layout := .unfixed } := by
      simp [stackedHeaders, stackedHeader, stackedField]
    exact hall _ hmem h hh
  exact recognize_headersApart.2 stackedSpec stackedLayout stackedSpec_build hfields stackedSheet {}
    t ht h hh _ hleaf fun _ => nofun

end SheetTables
