import Mathlib.Data.List.Sort
import SheetTables.Proofs.Extraction.Ownership

/-! # Stacked tables

The searched part of a sheet is cut into bands of rows, each with one cell for the anchor and
one for every other root. There is then one table for each band, anchored in it. Its other roots
are those of its band exactly when each of them is closer to the anchor of its band than to the
other anchors, as far as distances can be counted; being in the same band is not enough.
-/

namespace SheetTables

/-- A cell lies in a band if all of it that is searched does. -/
def InBand (g : Grid) (criteria : Criteria) (band : Nat → Nat) (k : Nat) (c : Cell) : Prop :=
  ∀ row col, Searched g criteria row col → c.range.contains row col → band row = k

/-- Bands of consecutive rows, numbered from the top, with one cell in each for each root. -/
structure Banded (layout : TableLayout) (g : Grid) (criteria : Criteria) (n : Nat)
    (band : Nat → Nat) : Prop where
  mono : ∀ {row col row' col'}, Searched g criteria row col → Searched g criteria row' col' →
    row ≤ row' → band row ≤ band row'
  bounded : ∀ {row col}, Searched g criteria row col → band row < n
  whole : ∀ f ∈ layout.roots, ∀ c, Candidate g criteria c → f.matcher.test c →
    ∃ k, InBand g criteria band k c
  one : ∀ f ∈ layout.roots, ∀ k < n,
    ∃! c, (Candidate g criteria c ∧ f.matcher.test c) ∧ InBand g criteria band k c

/-- Each table has a root in its own band. -/
def BoundInBand (layout : TableLayout) (g : Grid) (criteria : Criteria) (band : Nat → Nat)
    (f : Field) : Prop :=
  ∀ k table, (recognize layout g criteria).1[k]? = some table →
    ∃ h ∈ table.headers.roots, h.field = f ∧ InBand g criteria band k h.cell

/-- No table has a root outside its own band or misses it. -/
def KeptInBand (layout : TableLayout) (g : Grid) (criteria : Criteria) (band : Nat → Nat)
    (f : Field) : Prop :=
  ∀ k table, (recognize layout g criteria).1[k]? = some table →
    (∀ h ∈ table.headers.roots, h.field = f → InBand g criteria band k h.cell) ∧
      .headerNotFound f.path ∉ table.problems

/-- Each cell of a root is closest to the anchor of its own band, or as close as to a later
one. -/
def ClosestInBand (distance : Cell → Cell → Nat) (layout : TableLayout) (g : Grid)
    (criteria : Criteria) (band : Nat → Nat) (f : Field) : Prop :=
  ∀ k c, Candidate g criteria c → f.matcher.test c → InBand g criteria band k c →
    ∃ a, FirstLeast (fun a => distance a c) (anchorsOf layout g criteria) k a

section Bands

variable {g : Grid} {layout : TableLayout} {criteria : Criteria} {n : Nat} {band : Nat → Nat}

theorem InBand.band_eq {k : Nat} {c : Cell} (ht : g.Tiled) (hc : Candidate g criteria c)
    (h : InBand g criteria band k c) : band c.row = k :=
  h _ _ hc.inside ((criteria.tiled_view ht).contains_self hc.holds)

theorem InBand.lt {k : Nat} {c : Cell} (ht : g.Tiled) (hc : Candidate g criteria c)
    (h : InBand g criteria band k c) (B : Banded layout g criteria n band) : k < n :=
  h.band_eq ht hc ▸ B.bounded hc.inside

theorem Belongs.inBand (B : Banded layout g criteria n band) {f : Field}
    (hf : f ∈ layout.others.roots) {distance : Cell → Cell → Nat}
    (hclose : ClosestInBand distance layout g criteria band f) {k : Nat} {c : Cell}
    (h : Belongs distance layout g criteria k f c) : InBand g criteria band k c := by
  obtain ⟨l, hl⟩ := B.whole f (List.mem_cons_of_mem _ hf) c h.candidate h.matched
  obtain ⟨a, ha⟩ := h.nearest
  obtain ⟨b, hb'⟩ := hclose l c h.candidate h.matched hl
  rw [ha.place_eq hb']
  exact hl

variable (ht : g.Tiled) (B : Banded layout g criteria n band)
include ht B

theorem anchors_bands : (anchorsOf layout g criteria).map (fun a => band a.row) =
    List.range n := by
  have hroot : layout.anchor ∈ layout.roots := List.mem_cons_self
  have hsorted : (anchorsOf layout g criteria).Pairwise Cell.Before :=
    anchorsOf_pairwise fun r => Grid.cellsIn_sorted _ r
  refine List.Pairwise.eq_of_mem_iff (r := (· < ·)) (List.pairwise_map.mpr ?_)
    List.pairwise_lt_range ?_
  · refine hsorted.imp_of_mem ?_
    intro a b ha hb hab
    obtain ⟨hac, ham⟩ := (mem_anchorsOf ht).mp ha
    obtain ⟨hbc, hbm⟩ := (mem_anchorsOf ht).mp hb
    obtain ⟨k, hak⟩ := B.whole _ hroot a hac ham
    obtain ⟨l, hbl⟩ := B.whole _ hroot b hbc hbm
    have hle : band a.row ≤ band b.row := by
      refine B.mono hac.inside hbc.inside ?_
      unfold Cell.Before RowMajor at hab
      omega
    refine Nat.lt_of_le_of_ne hle fun he => ?_
    rw [hak.band_eq ht hac, hbl.band_eq ht hbc] at he
    subst he
    have hone := (B.one _ hroot k (hak.lt ht hac B)).unique ⟨⟨hac, ham⟩, hak⟩ ⟨⟨hbc, hbm⟩, hbl⟩
    exact Cell.Before.irrefl _ (hone ▸ hab)
  · intro k
    rw [List.mem_map, List.mem_range]
    constructor
    · rintro ⟨a, ha, rfl⟩
      exact B.bounded ((mem_anchorsOf ht).mp ha).1.inside
    · intro hk
      obtain ⟨a, ⟨ha, hak⟩, _⟩ := B.one _ hroot k hk
      exact ⟨a, (mem_anchorsOf ht).mpr ha, hak.band_eq ht ha.1⟩

theorem tables_length : (recognize layout g criteria).1.length = n := by
  have hbands := congrArg List.length (anchors_bands ht B)
  have hheads := congrArg List.length (recognize_heads layout g criteria)
  simp only [List.length_map, List.length_range] at hbands hheads
  exact hheads.trans hbands

theorem anchor_inBand {k : Nat} {a : Cell} (ha : (anchorsOf layout g criteria)[k]? = some a) :
    InBand g criteria band k a := by
  obtain ⟨hac, ham⟩ := (mem_anchorsOf ht).mp (List.mem_of_getElem? ha)
  obtain ⟨l, hl⟩ := B.whole _ List.mem_cons_self a hac ham
  have hk := congrArg (fun l => l[k]?) (anchors_bands ht B)
  simp only [List.getElem?_map, ha, Option.map_some] at hk
  obtain ⟨_, hbk⟩ := List.getElem?_eq_some_iff.mp hk.symm
  rw [List.getElem_range] at hbk
  rw [hbk, hl.band_eq ht hac]
  exact hl

variable {spec : TableSpec} (hb : spec.build = .ok layout) {f : Field}
  (hf : f ∈ layout.others.roots)
include hb hf

theorem boundInBand_iff : BoundInBand layout g criteria band f ↔
    ClosestInBand Cell.distance layout g criteria band f := by
  have hroot : f ∈ layout.roots := List.mem_cons_of_mem _ hf
  constructor
  · intro hbound k c hc hm hk
    have hlt := hk.lt ht hc B
    obtain ⟨table, htable⟩ : ∃ table, (recognize layout g criteria).1[k]? = some table :=
      ⟨_, List.getElem?_eq_getElem ((tables_length ht B).symm ▸ hlt)⟩
    obtain ⟨h, hh, rfl, hin⟩ := hbound k table htable
    rcases root_cases hb ht htable hh with ⟨he, _⟩ | ⟨_, hown⟩
    · exact absurd (congrArg Field.id he) (TableLayout.id_ne_anchor hb hf)
    · have hone := (B.one _ hroot k hlt).unique ⟨⟨hc, hm⟩, hk⟩
        ⟨⟨hown.candidate, hown.matched⟩, hin⟩
      rw [hone]
      exact hown.nearest
  · intro hclose k table htable
    have hlt : k < n := tables_length ht B ▸ (List.getElem?_eq_some_iff.mp htable).1
    obtain ⟨c, ⟨⟨hc, hm⟩, hk⟩, _⟩ := B.one f hroot k hlt
    obtain ⟨h, hh, rfl⟩ := ((ownRoots hb ht htable).bound f hf).mpr
      ⟨c, hc, hm, hclose k c hc hm hk⟩
    rcases root_cases hb ht htable hh with ⟨he, _⟩ | ⟨_, hown⟩
    · exact absurd (congrArg Field.id he) (TableLayout.id_ne_anchor hb hf)
    · exact ⟨h, hh, rfl, hown.inBand B hf hclose⟩

theorem keptInBand_iff (hr : f.necessity = .required) : KeptInBand layout g criteria band f ↔
    ClosestInBand Cell.distance layout g criteria band f := by
  rw [← boundInBand_iff ht B hb hf]
  constructor
  · intro hkept k table htable
    obtain ⟨hin, hfound⟩ := hkept k table htable
    by_cases hne : ∃ c, Belongs Cell.distance layout g criteria k f c
    · obtain ⟨h, hh, he⟩ := ((ownRoots hb ht htable).bound f hf).mpr hne
      exact ⟨h, hh, he, hin h hh he⟩
    · have hcount := (ownRoots hb ht htable).missing f hf hne
      rw [hr, List.count_eq_zero.mpr hfound] at hcount
      simp [Necessity.isRequired] at hcount
  · intro hbound k table htable
    have hclose := (boundInBand_iff ht B hb hf).mp hbound
    obtain ⟨h, hh, he, _⟩ := hbound k table htable
    have hne := ((ownRoots hb ht htable).bound f hf).mp ⟨h, hh, he⟩
    refine ⟨?_, (ownRoots hb ht htable).found f (List.mem_cons_of_mem _ hf) (Or.inr hne)⟩
    rintro h hh rfl
    rcases root_cases hb ht htable hh with ⟨he, _⟩ | ⟨_, hown⟩
    · exact absurd (congrArg Field.id he) (TableLayout.id_ne_anchor hb hf)
    · exact hown.inBand B hf hclose

end Bands

theorem Measurable.closestInBand_iff {g : Grid} {layout : TableLayout} {criteria : Criteria}
    (hm : Measurable layout g criteria) {band : Nat → Nat} {f : Field}
    (hf : f ∈ layout.others.roots) : ClosestInBand Cell.distance layout g criteria band f ↔
      ClosestInBand Cell.steps layout g criteria band f := by
  constructor
  · intro h k c hc hmatch hk
    obtain ⟨a, ha⟩ := h k c hc hmatch hk
    exact ⟨a, (hm.nearest_iff hf hc hmatch).mp ha⟩
  · intro h k c hc hmatch hk
    obtain ⟨a, ha⟩ := h k c hc hmatch hk
    exact ⟨a, (hm.nearest_iff hf hc hmatch).mpr ha⟩

/-- Stacked tables have one table for each band, anchored in it. As far as distances can be
counted, a root other than the anchor is kept in its bands exactly where each of its cells is
closest to the anchor of its own band. -/
theorem recognize_bands {spec : TableSpec} {layout : TableLayout}
    (hb : spec.build = .ok layout) (s : Sheet) {criteria : Criteria} {n : Nat}
    {band : Nat → Nat} (B : Banded layout s.grid criteria n band) :
    (recognize layout s.grid criteria).1.length = n ∧
    BoundInBand layout s.grid criteria band layout.anchor ∧
    KeptInBand layout s.grid criteria band layout.anchor ∧
    (Measurable layout s.grid criteria → ∀ f ∈ layout.others.roots,
      (BoundInBand layout s.grid criteria band f ↔
        ClosestInBand Cell.steps layout s.grid criteria band f) ∧
      (f.necessity = .required → (KeptInBand layout s.grid criteria band f ↔
        ClosestInBand Cell.steps layout s.grid criteria band f))) := by
  have ht := s.tiled
  have hanchor : ∀ k table, (recognize layout s.grid criteria).1[k]? = some table →
      ∀ h ∈ table.headers.roots, h.field = layout.anchor →
        InBand s.grid criteria band k h.cell := by
    intro k table htable h hh he
    rcases root_cases hb ht htable hh with ⟨_, ha⟩ | ⟨ho, _⟩
    · exact anchor_inBand ht B ha
    · exact absurd (congrArg Field.id he) (TableLayout.id_ne_anchor hb ho)
  refine ⟨tables_length ht B, ?_, ?_, ?_⟩
  · intro k table htable
    obtain ⟨area, a, _, hat, rfl⟩ := recognize_getElem? htable
    obtain ⟨h, hh, he, hc⟩ := exists_root_iff.mpr ⟨List.mem_cons_self, rootAt?_anchor a k⟩
    exact ⟨h, hh, he, hc ▸ anchor_inBand ht B hat⟩
  · intro k table htable
    exact ⟨hanchor k table htable,
      (ownRoots hb ht htable).found _ List.mem_cons_self (Or.inl rfl)⟩
  · intro hm f hf
    rw [← hm.closestInBand_iff hf]
    exact ⟨boundInBand_iff ht B hb hf, keptInBand_iff ht B hb hf⟩

theorem one_of_pair {g : Grid} {criteria : Criteria} {band : Nat → Nat} {f : Field} {a b : Cell}
    (h : ∀ c, Candidate g criteria c ∧ f.matcher.test c ↔ c = a ∨ c = b)
    (ht : g.Tiled) (ha : InBand g criteria band 0 a) (hb : InBand g criteria band 1 b) :
    ∀ k < 2, ∃! c, (Candidate g criteria c ∧ f.matcher.test c) ∧
      InBand g criteria band k c := by
  have hac := (h a).mpr (Or.inl rfl)
  have hbc := (h b).mpr (Or.inr rfl)
  have hne : ∀ c, InBand g criteria band 0 c → InBand g criteria band 1 c →
      ¬ Candidate g criteria c := by
    intro c h₀ h₁ hc
    have he := (h₀.band_eq ht hc).symm.trans (h₁.band_eq ht hc)
    omega
  intro k hk
  obtain rfl | rfl : k = 0 ∨ k = 1 := by omega
  · refine ⟨a, ⟨hac, ha⟩, ?_⟩
    rintro c ⟨hc, hin⟩
    rcases (h c).mp hc with rfl | rfl
    · rfl
    · exact absurd hc.1 (hne c hin hb)
  · refine ⟨b, ⟨hbc, hb⟩, ?_⟩
    rintro c ⟨hc, hin⟩
    rcases (h c).mp hc with rfl | rfl
    · exact absurd hc.1 (hne c ha hin)
    · rfl

/-- Two bands of four rows, each from the anchor in its first row to the other root in its
last. -/
theorem keyedColumn_banded :
    Banded keyedLayout (keyedColumn [0, 4] [3, 7]).grid {} 2 (· / 4) := by
  let g := (keyedColumn [0, 4] [3, 7]).grid
  have ht : g.Tiled := Sheet.tiled _
  have harea : searchArea? g {} = some ⟨0, 0, 7, 0, by decide, by decide⟩ := rfl
  have hin : ∀ row k, row / 4 = k → InBand g {} (· / 4) k (g.cellAt row 0) := by
    intro row k hk row' col' _ hr
    exact (congrArg (· / 4) (Range.contains_single.mp hr).1).trans hk
  have hmatch : ∀ f ∈ keyedLayout.roots, ∃ r₀ r₁, r₀ / 4 = 0 ∧ r₁ / 4 = 1 ∧
      ∀ c, Candidate g {} c ∧ f.matcher.test c ↔ c = g.cellAt r₀ 0 ∨ c = g.cellAt r₁ 0 := by
    intro f hf
    have hmem : ∀ c, Candidate g {} c ∧ f.matcher.test c ↔
        c ∈ (searchIn keyedLayout g {} ⟨0, 0, 7, 0, by decide, by decide⟩).candidates.filter
          fun c => f.matcher.test c := by
      intro c
      rw [List.mem_filter, mem_candidates ht harea]
    simp only [hmem]
    obtain rfl | rfl : f = keyedField 0 "Age" ∨ f = keyedField 1 "Name" := by
      simpa [TableLayout.roots, TableLayout.forest, Forest.roots, keyedLayout] using hf
    · refine ⟨0, 4, rfl, rfl, fun c => ?_⟩
      exact List.mem_pair
    · refine ⟨3, 7, rfl, rfl, fun c => ?_⟩
      exact List.mem_pair
  constructor
  · intro row _ row' _ _ _ h
    exact Nat.div_le_div_right h
  · intro row col h
    rw [searched_of_searchArea? harea] at h
    have hrow := Range.contains_iff.mp h
    dsimp only at hrow ⊢
    omega
  · intro f hf c hc hm
    obtain ⟨r₀, r₁, _, _, h⟩ := hmatch f hf
    rcases (h c).mp ⟨hc, hm⟩ with rfl | rfl
    · exact ⟨_, hin r₀ _ rfl⟩
    · exact ⟨_, hin r₁ _ rfl⟩
  · intro f hf
    obtain ⟨r₀, r₁, h₀, h₁, h⟩ := hmatch f hf
    exact one_of_pair h ht (hin r₀ _ h₀) (hin r₁ _ h₁)

/-- Two stacked tables, of which the second has the root of the first and the first has none. -/
theorem stacked_root_taken :
    let s := keyedColumn [0, 4] [3, 7]
    keyedSpec.build = .ok keyedLayout ∧ Banded keyedLayout s.grid {} 2 (· / 4) ∧
      (recognize keyedLayout s.grid {}).1.map
          (fun t => t.headers.roots.map fun h => (h.path, h.cell.row)) =
        [[("Age", 0)], [("Age", 4), ("Name", 3)]] ∧
      ¬ KeptInBand keyedLayout s.grid {} (· / 4) (keyedField 1 "Name") := by
  refine ⟨keyedSpec_build, keyedColumn_banded, by decide, fun h => ?_⟩
  exact (h 0 _ rfl).2 (by decide)

theorem recognize_bands_keyed :
    let s := keyedColumn [0, 4] [3, 7]
    keyedSpec.build = .ok keyedLayout ∧ Banded keyedLayout s.grid {} 2 (· / 4) ∧
      Measurable keyedLayout s.grid {} ∧ (recognize keyedLayout s.grid {}).1.length = 2 ∧
      ∀ f ∈ keyedLayout.others.roots, BoundInBand keyedLayout s.grid {} (· / 4) f ↔
        ClosestInBand Cell.steps keyedLayout s.grid {} (· / 4) f := by
  have h := recognize_bands keyedSpec_build (keyedColumn [0, 4] [3, 7]) keyedColumn_banded
  exact ⟨keyedSpec_build, keyedColumn_banded, keyedColumn_measurable, h.1,
    fun f hf => (h.2.2.2 keyedColumn_measurable f hf).1⟩

end SheetTables
