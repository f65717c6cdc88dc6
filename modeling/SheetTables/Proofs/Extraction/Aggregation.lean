import SheetTables.Extraction.Sheet
import SheetTables.Pattern.Glob
import SheetTables.Proofs.Extraction.TableProblems

/-! # Aggregation

The result of a document is that of every layout on every sheet that it accepts, one after the
other, and the result of a sheet is that of its table layouts in turn. On the way up problems
are only put under names. A layout adds a problem of its own where there is nothing of what it
requires, and there is one account of a table that is not there.
-/

namespace SheetTables

def Problem.under (contexts : List String) (p : Problem) : Problem :=
  contexts.foldl (fun p context => .within context p) p

theorem Problem.kind_under (contexts : List String) (p : Problem) :
    (p.under contexts).kind = p.kind := by
  induction contexts generalizing p with
  | nil => rfl
  | cons context contexts ih => exact ih (.within context p)

theorem Problem.root_under (contexts : List String) (p : Problem) :
    (p.under contexts).root = p.root := by
  induction contexts generalizing p with
  | nil => rfl
  | cons context contexts ih => exact ih (.within context p)

def acceptedPairs (layouts : List SheetLayout) (book : Workbook) : List (SheetLayout × Sheet) :=
  layouts.flatMap fun layout =>
    (book.sheets.filter fun s => layout.accepts s.name).map fun s => (layout, s)

def layoutProblems (book : Workbook) (criteria : Criteria) (layout : SheetLayout) : List Problem :=
  match book.sheets.filter fun s => layout.accepts s.name with
  | [] => if layout.necessity = .required then [.sheetNotFound layout.name] else []
  | accepted => accepted.flatMap fun s =>
    (readSheet layout s.grid criteria).problems.map (.within s.name)

/-- What a table layout says where it is not found: the anchor is missed, or else the table. -/
def tableAbsence (t : TableLayout) : List Problem :=
  match t.necessity, t.anchor.necessity with
  | .optional, _ => []
  | .required, .required => [.within t.name (.headerNotFound t.anchor.path)]
  | .required, .optional => [.tableNotFound t.name]

structure TableShare (t : TableLayout) (g : Grid) (criteria : Criteria) (r : SheetResult) : Prop where
  tables : r.tables = (recognize t g criteria).1
  occurs : r.tables ≠ [] ↔ ∃ c, Candidate g criteria c ∧ t.anchor.matcher.test c
  found : r.tables ≠ [] → r.problems = r.tables.flatMap fun k => k.problems.map (.within t.name)
  absent : r.tables = [] → r.problems = tableAbsence t
  structural : r.tables = [] →
    r.problems.map (·.kind) = if t.necessity = .required then [.structural] else []

/-- The tables and problems of a sheet with some table layouts followed by others. -/
structure Split (whole first second : SheetResult) : Prop where
  tables : whole.tables = first.tables ++ second.tables
  problems : whole.problems = first.problems ++ second.problems

theorem readSheet_sheet (layout : SheetLayout) (g : Grid) (criteria : Criteria) :
    (readSheet layout g criteria).sheet = g.name := by
  unfold readSheet
  split <;> rfl

theorem readSheet_split (layout : SheetLayout) {g : Grid} (hg : g.extent? ≠ none)
    (criteria : Criteria) (ts us : List TableLayout) :
    Split (readSheet { layout with tables := ts ++ us } g criteria)
      (readSheet { layout with tables := ts } g criteria)
      (readSheet { layout with tables := us } g criteria) := by
  have hsome : g.extent?.isNone = false :=
    Option.isNone_eq_false_iff.mpr (Option.isSome_iff_ne_none.mpr hg)
  constructor <;> simp [readSheet, hsome]

theorem map_kind_tableAbsence (t : TableLayout) : (tableAbsence t).map (·.kind) =
    if t.necessity = .required then [.structural] else [] := by
  unfold tableAbsence
  cases t.necessity <;> cases t.anchor.necessity <;> rfl

theorem readTables_snd_of_ne_nil {t : TableLayout} {g : Grid} {criteria : Criteria}
    (h : (recognize t g criteria).1 ≠ []) : (readTables g criteria t).2 =
      (recognize t g criteria).1.flatMap fun k => k.problems.map (.within t.name) := by
  have hproblems : (recognize t g criteria).2 = [] := by
    rw [recognize_snd, if_neg fun hn => h (recognize_fst_eq_nil.mpr hn.2)]
  simp [readTables, hproblems, h, prefixed]

theorem readTables_snd_of_eq_nil {t : TableLayout} {g : Grid} {criteria : Criteria}
    (hg : g.extent? ≠ none) (h : (recognize t g criteria).1 = []) :
    (readTables g criteria t).2 = tableAbsence t := by
  have hproblems : (recognize t g criteria).2 = Search.missingAnchor t := by
    rw [recognize_snd,
      if_pos ⟨Option.isSome_iff_ne_none.mpr hg, recognize_fst_eq_nil.mp h⟩]
  cases ht : t.necessity <;> cases ha : t.anchor.necessity <;>
    simp [readTables, hproblems, h, prefixed, tableAbsence, Search.missingAnchor, ht, ha,
      Necessity.isRequired]

theorem tableShare (layout : SheetLayout) (t : TableLayout) {g : Grid} (ht : g.Tiled)
    (hg : g.extent? ≠ none) (criteria : Criteria) :
    TableShare t g criteria (readSheet { layout with tables := [t] } g criteria) := by
  have hsome : g.extent?.isNone = false :=
    Option.isNone_eq_false_iff.mpr (Option.isSome_iff_ne_none.mpr hg)
  have htables : (readSheet { layout with tables := [t] } g criteria).tables =
      (recognize t g criteria).1 := by
    simp [readSheet, hsome, readTables]
  have hproblems : (readSheet { layout with tables := [t] } g criteria).problems =
      (readTables g criteria t).2 := by
    simp [readSheet, hsome]
  have habsent : (recognize t g criteria).1 = [] → (readTables g criteria t).2 = tableAbsence t :=
    readTables_snd_of_eq_nil hg
  constructor
  · exact htables
  · rw [htables, Ne, recognize_fst_eq_nil, List.eq_nil_iff_forall_not_mem]
    simp only [mem_anchorsOf ht, not_forall, not_not]
  · rw [htables, hproblems]
    exact readTables_snd_of_ne_nil
  · rw [htables, hproblems]
    exact habsent
  · rw [htables, hproblems]
    intro h
    rw [habsent h, map_kind_tableAbsence]

theorem readAccepted_snd (book : Workbook) (criteria : Criteria) (layout : SheetLayout) :
    (readAccepted book criteria layout).2 = layoutProblems book criteria layout := by
  have hname : ∀ s : Sheet, (readSheet layout s.grid criteria).sheet = s.name := fun s =>
    readSheet_sheet layout s.grid criteria
  unfold readAccepted layoutProblems
  cases book.sheets.filter fun s => layout.accepts s.name with
  | nil => cases layout.necessity <;> simp [Necessity.isRequired]
  | cons s accepted => simp [prefixed, hname, List.flatMap_map]

/-- Results are put together without loss, and nothing is added to them but what is missing at
each level; the kind and the root of a problem stay what they were. -/
theorem readWorkbook_aggregates (layouts : List SheetLayout) (book : Workbook)
    (criteria : Criteria) :
    let r := readWorkbook layouts book criteria
    r.sheets = (acceptedPairs layouts book).map (fun p => readSheet p.1 p.2.grid criteria) ∧
    r.problems = layouts.flatMap (layoutProblems book criteria) ∧
    (∀ (layout : SheetLayout) (s : Sheet), s.extent? ≠ none →
      (∀ ts us, Split (readSheet { layout with tables := ts ++ us } s.grid criteria)
        (readSheet { layout with tables := ts } s.grid criteria)
        (readSheet { layout with tables := us } s.grid criteria)) ∧
      ∀ t, TableShare t s.grid criteria
        (readSheet { layout with tables := [t] } s.grid criteria)) ∧
    ∀ contexts p, (Problem.under contexts p).kind = p.kind ∧
      (Problem.under contexts p).root = p.root := by
  intro r
  refine ⟨?_, ?_, ?_, ?_⟩
  · simp [r, readWorkbook, acceptedPairs, readAccepted, List.flatMap_map, List.map_flatMap,
      Function.comp_def]
  · simp [r, readWorkbook, List.flatMap_map, readAccepted_snd]
  · intro layout s hs
    exact ⟨readSheet_split layout hs criteria, fun t => tableShare layout t s.tiled hs criteria⟩
  · intro contexts p
    exact ⟨p.kind_under contexts, p.root_under contexts⟩

def totalsLayout : TableLayout where
  name := "Totals"
  necessity := .required
  anchor := rosterField 0 "Sum" .down { layout := .unfixed }
  anchorChildren := .nil
  others := .nil
  validators := []

/-- A pattern without a text accepts no sheet. -/
def officeLayouts : List SheetLayout :=
  [{ name := "Every", patterns := [], necessity := .required,
      tables := [totalsLayout, rosterLayout] },
    { name := "Nameless", patterns := [Glob.accepts ⟨[]⟩], necessity := .required,
      tables := [rosterLayout] }]

def officeBook : Workbook where
  name := "Office"
  sheets := [rosterSheet]

theorem readWorkbook_aggregates_office :
    let r := readWorkbook officeLayouts officeBook {}
    rosterSheet.extent? ≠ none ∧ (r.problems.filter fun p => p.kind = .structural) =
      [.within "Sheet1" (.within "Totals" (.headerNotFound "Sum")),
        .within "Sheet1" (.within "Roster" (.headerNotFound "Total")),
        .sheetNotFound "Nameless"] ∧
    r.problems = officeLayouts.flatMap (layoutProblems officeBook {}) ∧
    TableShare totalsLayout rosterSheet.grid {}
      (readSheet ⟨"Every", [], .required, [totalsLayout]⟩ rosterSheet.grid {}) := by
  intro r
  have hextent : rosterSheet.extent? ≠ none := by decide
  obtain ⟨_, hproblems, hsheets, _⟩ := readWorkbook_aggregates officeLayouts officeBook {}
  have hshares := (hsheets ⟨"Every", [], .required, []⟩ rosterSheet hextent).2
  exact ⟨hextent, by decide, hproblems, hshares totalsLayout⟩

end SheetTables
