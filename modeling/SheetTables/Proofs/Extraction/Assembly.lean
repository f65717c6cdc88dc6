import SheetTables.Proofs.Extraction.HeaderTrees

/-! # Assembly of records

A record is kept for each place at which some leaf has a value, under the number of that place.
It holds the cells that all leaves have there, in their order. The fields of leaves differ, and
the cells of one run lie one past the other, so every value of a leaf is in one record only and
only once.
-/

namespace SheetTables

def HasValueAt (leaves : List Header) (i : Nat) : Prop :=
  ∃ h ∈ leaves, ∃ c, h.data[i]? = some c ∧ ¬ c.isEmpty

/-- A leaf's entry in the record of a place. -/
structure IsEntry (i : Nat) (h : Header) (e : Entry) : Prop where
  cell : h.data[i]? = some e.cell
  field : e.field = h.field.id
  path : e.path = h.path

def entryAt? (records : List Record) (place : Nat × Nat) : Option Entry :=
  records[place.1]?.bind fun r => r.entries[place.2]?

/-- The records of some leaves. -/
structure Joined (leaves : List Header) (records : List Record) : Prop where
  kept : ∀ i, (∃ r ∈ records, r.index = i) ↔ HasValueAt leaves i
  sorted : records.Pairwise fun r r' => r.index < r'.index
  entries : ∀ r ∈ records, List.Forall₂ (IsEntry r.index)
    (leaves.filter fun h => r.index < h.data.length) r.entries
  fields : ∀ r ∈ records, r.entries.Pairwise fun e e' => e.field < e'.field
  once : ∀ h ∈ leaves, ∀ c ∈ h.data, ¬ c.isEmpty →
    ∃! place, ∃ e, entryAt? records place = some e ∧ e.field = h.field.id ∧ e.cell = c
  placed : ∀ h ∈ leaves, ∀ r ∈ records, ∀ e ∈ r.entries, e.field = h.field.id →
    h.data[r.index]? = some e.cell
  get : ∀ h ∈ leaves, ∀ r ∈ records, ∀ v, r.get? h.field.id = some v ↔
    ∃ c, h.data[r.index]? = some c ∧ c.value = v ∧ ¬ c.isEmpty

theorem data_length_le_longestRun {leaves : List Header} {h : Header} (hh : h ∈ leaves) :
    h.data.length ≤ longestRun leaves := by
  have hfold : ∀ (leaves : List Header) (n : Nat),
      n ≤ leaves.foldl (fun n h => max n h.data.length) n ∧
        ∀ h ∈ leaves, h.data.length ≤ leaves.foldl (fun n h => max n h.data.length) n := by
    intro leaves
    induction leaves with
    | nil => simp
    | cons k leaves ih =>
      intro n
      obtain ⟨hn, hrest⟩ := ih (max n k.data.length)
      refine ⟨Nat.le_trans (Nat.le_max_left _ _) hn, ?_⟩
      intro h hh
      rcases List.mem_cons.mp hh with rfl | hh
      · exact Nat.le_trans (Nat.le_max_right _ _) hn
      · exact hrest h hh
  exact (hfold leaves 0).2 h hh

section Records

variable {leaves : List Header} {i : Nat}

theorem recordAt_entries (leaves : List Header) (i : Nat) :
    List.Forall₂ (IsEntry i) (leaves.filter fun h => i < h.data.length)
      (recordAt leaves i).entries := by
  unfold recordAt
  induction leaves with
  | nil => exact .nil
  | cons h leaves ih =>
    cases hc : h.data[i]? with
    | none =>
      have hlen : ¬ i < h.data.length := by simpa using hc
      simpa [hlen, Header.entryAt?, hc] using ih
    | some c =>
      have hlen : i < h.data.length := (List.getElem?_eq_some_iff.mp hc).1
      have hentry : IsEntry i h ⟨h.field.id, h.path, c⟩ := ⟨hc, rfl, rfl⟩
      simp only [List.filter_cons, hlen, decide_true, if_true, List.filterMap_cons,
        Header.entryAt?, hc, Option.map_some]
      exact .cons hentry ih

theorem mem_recordAt_entries {e : Entry} :
    e ∈ (recordAt leaves i).entries ↔ ∃ h ∈ leaves, IsEntry i h e := by
  simp only [recordAt, List.mem_filterMap, Header.entryAt?, Option.map_eq_some_iff]
  refine exists_congr fun h => and_congr_right fun _ => ?_
  constructor
  · rintro ⟨c, hc, rfl⟩
    exact ⟨hc, rfl, rfl⟩
  · rintro ⟨hc, hfield, hpath⟩
    exact ⟨e.cell, hc, by rw [← hfield, ← hpath]⟩

theorem recordAt_isEmpty_iff : (recordAt leaves i).isEmpty ↔ ¬ HasValueAt leaves i := by
  simp only [Record.isEmpty, List.all_eq_true, mem_recordAt_entries, HasValueAt, not_exists,
    not_and, not_not]
  constructor
  · intro h k hk c hc
    exact h ⟨k.field.id, k.path, c⟩ ⟨k, hk, hc, rfl, rfl⟩
  · rintro h e ⟨k, hk, he⟩
    exact h k hk e.cell he.cell

theorem mem_records {r : Record} :
    r ∈ records leaves ↔ HasValueAt leaves r.index ∧ r = recordAt leaves r.index := by
  simp only [records, List.mem_filter, List.mem_map, List.mem_range, Bool.not_eq_true',
    ← Bool.not_eq_true]
  constructor
  · rintro ⟨⟨i, _, rfl⟩, hr⟩
    rw [recordAt_isEmpty_iff, not_not] at hr
    exact ⟨hr, rfl⟩
  · rintro ⟨hv, hr⟩
    obtain ⟨h, hh, c, hc, _⟩ := id hv
    have hlt := (List.getElem?_eq_some_iff.mp hc).1
    refine ⟨⟨r.index, Nat.lt_of_lt_of_le hlt (data_length_le_longestRun hh), hr.symm⟩, ?_⟩
    rw [hr, recordAt_isEmpty_iff, not_not]
    exact hv

theorem records_kept (i : Nat) : (∃ r ∈ records leaves, r.index = i) ↔ HasValueAt leaves i := by
  constructor
  · rintro ⟨r, hr, rfl⟩
    exact (mem_records.mp hr).1
  · intro h
    exact ⟨recordAt leaves i, mem_records.mpr ⟨h, rfl⟩, rfl⟩

theorem records_sorted (leaves : List Header) :
    (records leaves).Pairwise fun r r' => r.index < r'.index := by
  refine List.Pairwise.filter _ (List.pairwise_map.mpr ?_)
  exact List.pairwise_lt_range

theorem recordAt_sorted (hs : leaves.Pairwise fun h k => h.field.id < k.field.id) (i : Nat) :
    (recordAt leaves i).entries.Pairwise fun e e' => e.field < e'.field := by
  refine List.pairwise_filterMap.mpr (hs.imp ?_)
  intro h k hhk e he e' he'
  obtain ⟨_, _, rfl⟩ := Option.map_eq_some_iff.mp he
  obtain ⟨_, _, rfl⟩ := Option.map_eq_some_iff.mp he'
  exact hhk

end Records

theorem Record.present_eq_some_iff {v w : Value} :
    Record.present v = some w ↔ v = w ∧ ¬ v.isEmpty := by
  unfold Record.present
  cases hv : v.isEmpty <;> simp

theorem Record.get?_eq_some_iff {r : Record}
    (hs : r.entries.Pairwise fun e e' => e.field < e'.field) {field : Nat} {v : Value} :
    r.get? field = some v ↔
      ∃ e ∈ r.entries, e.field = field ∧ e.cell.value = v ∧ ¬ e.cell.isEmpty := by
  have hnodup : (r.entries.map (·.field)).Nodup :=
    List.pairwise_map.mpr (hs.imp Nat.ne_of_lt)
  simp only [get?, cell?, Option.bind_eq_some_iff, Option.map_eq_some_iff, present_eq_some_iff]
  constructor
  · rintro ⟨_, ⟨e, he, rfl⟩, hv⟩
    exact ⟨e, List.mem_of_find?_eq_some he, by simpa using List.find?_some he, hv⟩
  · rintro ⟨e, he, rfl, hv⟩
    obtain ⟨e', he'⟩ : ∃ e', r.entries.find? (·.field == e.field) = some e' := by
      rw [← Option.isSome_iff_exists, List.find?_isSome]
      exact ⟨e, he, by simp⟩
    have hfield : e'.field = e.field := by simpa using List.find?_some he'
    rw [List.inj_on_of_nodup_map hnodup (List.mem_of_find?_eq_some he') he hfield] at he'
    exact ⟨e.cell, ⟨e, he', rfl⟩, hv⟩

section Leaves

variable {leaves : List Header} (hs : leaves.Pairwise fun h k => h.field.id < k.field.id)
include hs

theorem eq_of_field_id_eq {h k : Header} (hh : h ∈ leaves) (hk : k ∈ leaves)
    (he : h.field.id = k.field.id) : h = k :=
  List.inj_on_of_nodup_map (List.pairwise_map.mpr (hs.imp Nat.ne_of_lt)) hh hk he

theorem recordAt_placed {h : Header} (hh : h ∈ leaves) {i : Nat} {e : Entry}
    (he : e ∈ (recordAt leaves i).entries) (hf : e.field = h.field.id) :
    h.data[i]? = some e.cell := by
  obtain ⟨k, hk, hentry⟩ := mem_recordAt_entries.mp he
  obtain rfl := eq_of_field_id_eq hs hh hk (hf.symm.trans hentry.field)
  exact hentry.cell

theorem records_placed {h : Header} (hh : h ∈ leaves) {r : Record} (hr : r ∈ records leaves)
    {e : Entry} (he : e ∈ r.entries) (hf : e.field = h.field.id) :
    h.data[r.index]? = some e.cell := by
  rw [(mem_records.mp hr).2] at he
  exact recordAt_placed hs hh he hf

/-- Where the cells of a run differ, each value of it stands at one place among the records. -/
theorem existsUnique_entryAt? {h : Header} (hh : h ∈ leaves) {d : Direction}
    (hpast : h.data.Pairwise fun a b => d.Past a.range b.range) {c : Cell} (hc : c ∈ h.data)
    (hv : ¬ c.isEmpty) : ∃! place, ∃ e, entryAt? (records leaves) place = some e ∧
      e.field = h.field.id ∧ e.cell = c := by
  obtain ⟨i, hi⟩ := List.mem_iff_getElem?.mp hc
  have hrecord : recordAt leaves i ∈ records leaves :=
    mem_records.mpr ⟨⟨h, hh, c, hi, hv⟩, rfl⟩
  have hentry : ⟨h.field.id, h.path, c⟩ ∈ (recordAt leaves i).entries :=
    mem_recordAt_entries.mpr ⟨h, hh, hi, rfl, rfl⟩
  obtain ⟨k, hk⟩ := List.mem_iff_getElem?.mp hrecord
  obtain ⟨j, hj⟩ := List.mem_iff_getElem?.mp hentry
  refine ⟨(k, j), ⟨_, by simpa [entryAt?, hk] using hj, rfl, rfl⟩, ?_⟩
  -- An entry with the same cell is of the same place in the run, hence of the same record, and
  -- there it is the only one of its field.
  rintro ⟨k', j'⟩ ⟨e, he, hf, rfl⟩
  obtain ⟨r, hr, he⟩ := Option.bind_eq_some_iff.mp he
  have hmem := List.mem_of_getElem? hr
  have hindex : r.index = i := by
    have hplace := records_placed hs hh hmem (List.mem_of_getElem? he) hf
    exact place_eq_of_pairwise hpast hplace hi Direction.Past.irrefl Direction.Past.irrefl
  have hr' : r = recordAt leaves i := hindex ▸ (mem_records.mp hmem).2
  subst hr'
  obtain rfl := place_eq_of_pairwise (records_sorted leaves) hr hk (by simp) (by simp)
  obtain rfl := place_eq_of_pairwise (recordAt_sorted hs i) he hj (by simp [hf]) (by simp [hf])
  rfl

theorem joined (hpast : ∀ h ∈ leaves, ∃ d : Direction,
    h.data.Pairwise fun a b => d.Past a.range b.range) : Joined leaves (records leaves) := by
  have hfields : ∀ r ∈ records leaves, r.entries.Pairwise fun e e' => e.field < e'.field := by
    intro r hr
    rw [(mem_records.mp hr).2]
    exact recordAt_sorted hs r.index
  constructor
  · exact records_kept
  · exact records_sorted leaves
  · intro r hr
    have he := recordAt_entries leaves r.index
    rwa [← (mem_records.mp hr).2] at he
  · exact hfields
  · intro h hh c hc hv
    obtain ⟨d, hd⟩ := hpast h hh
    exact existsUnique_entryAt? hs hh hd hc hv
  · intro h hh r hr e he hf
    exact records_placed hs hh hr he hf
  · intro h hh r hr v
    rw [Record.get?_eq_some_iff (hfields r hr)]
    constructor
    · rintro ⟨e, he, hf, hv⟩
      exact ⟨e.cell, records_placed hs hh hr he hf, hv⟩
    · rintro ⟨c, hc, hv⟩
      refine ⟨⟨h.field.id, h.path, c⟩, ?_, rfl, hv⟩
      rw [(mem_records.mp hr).2]
      exact mem_recordAt_entries.mpr ⟨h, hh, hc, rfl, rfl⟩

end Leaves

namespace Search

variable (s : Search)

theorem header_past (ht : s.grid.Tiled) (f : Field) {c : Cell} (hc : s.grid.Holds c)
    (missing : List Problem) :
    (s.header f c missing).data.Pairwise fun a b => f.direction.Past a.range b.range := by
  rcases s.header_data f c missing with hnone | ⟨data, origin, _, hp, hrun⟩
  · rw [hnone]
    exact .nil
  · rw [hrun]
    exact (s.run_walks f.direction data origin).past ht (Grid.probe_holds ht hc hp)

theorem table_records {t : Table} (ht : t ∈ s.tables) :
    t.records = records (leafHeaders t.headers) := by
  obtain ⟨a, _, occurrence, rfl⟩ := s.mem_tables ht
  rfl

theorem leafHeaders_sorted {spec : TableSpec} (hb : spec.build = .ok s.layout) {t : Table}
    (ht : t ∈ s.tables) :
    (leafHeaders t.headers).Pairwise fun h k => h.field.id < k.field.id :=
  (s.headers_sorted hb ht).filter _

end Search

/-- The records of a table neither lose nor repeat a value of its leaves, and hold none in the
record of another place. -/
theorem recognize_records {spec : TableSpec} {layout : TableLayout}
    (hb : spec.build = .ok layout) (s : Sheet) (criteria : Criteria) :
    ∀ t ∈ (recognize layout s.grid criteria).1,
      Joined (t.headers.toList.filter fun h => h.field.isLeaf) t.records := by
  intro t ht
  obtain ⟨area, _, ht⟩ := mem_recognize ht
  let search := searchIn layout s.grid criteria area
  have hview : search.grid.Tiled := criteria.tiled_view s.tiled
  rw [search.table_records ht]
  refine joined (search.leafHeaders_sorted hb ht) fun h hh => ?_
  obtain ⟨hcell, _, missing, he⟩ := search.header_of_mem hview ht (List.mem_filter.mp hh).1
  have hpast := search.header_past hview h.field hcell missing
  rw [← he] at hpast
  exact ⟨h.field.direction, hpast⟩

/-- A name for the first record only, and a gap among the ages. -/
theorem recognize_records_person :
    personSpec.build = .ok personLayout ∧
      ∃ t ∈ (recognize personLayout personSheet.grid {}).1,
        t.records.map (fun r => (r.index, r.entries.map fun e => (e.field, e.cell.value))) =
          [(0, [(1, .text "Ann"), (3, .text "30")]), (2, [(3, .text "25")])] ∧
        Joined [nameHeader, ageHeader] t.records := by
  obtain ⟨t, htables, ht⟩ := List.map_eq_singleton_iff.mp personHeaders
  have hmem : t ∈ (recognize personLayout personSheet.grid {}).1 :=
    htables ▸ List.mem_singleton_self t
  have hrecords : (recognize personLayout personSheet.grid {}).1.map (fun t => t.records.map
      fun r => (r.index, r.entries.map fun e => (e.field, e.cell.value))) =
        [[(0, [(1, .text "Ann"), (3, .text "30")]), (2, [(3, .text "25")])]] := by decide
  rw [htables] at hrecords
  have hjoined := recognize_records personSpec_build personSheet {} t hmem
  rw [ht] at hjoined
  exact ⟨personSpec_build, t, hmem, List.singleton_inj.mp hrecords, hjoined⟩

end SheetTables
