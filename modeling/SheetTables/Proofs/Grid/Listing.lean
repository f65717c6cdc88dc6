import SheetTables.Proofs.Grid.Probes

/-! # Cells of a range

The cells of a range are what is left of the cells at its positions, taken row by row, when all
that come again are left out. They are the cells that cover a position of the range, each once and
at the first position where it shows, and together they cover the whole range.
-/

namespace SheetTables

theorem eraseDups_map_eq_filter {α β : Type} [BEq α] [EquivBEq α] {f : β → α} {p : β → Bool}
    {bs : List β} (h : ∀ before b after, bs = before ++ b :: after →
      (p b ↔ ¬ (before.map f).contains (f b))) :
    (bs.map f).eraseDups = (bs.filter p).map f := by
  induction bs using List.reverseRecOn with
  | nil => rfl
  | append_singleton bs b ih =>
    have hinit := ih fun before c after hbs =>
      h before c (after ++ [b]) (by rw [hbs, List.append_assoc, List.cons_append])
    have hlast := h bs b [] rfl
    rw [List.map_append, List.map_singleton, eraseDups_concat, List.filter_append, List.map_append,
      hinit]
    by_cases hb : (bs.map f).contains (f b)
    · have hp : ¬ p b := fun hp => hlast.mp hp hb
      rw [if_pos hb, List.filter_cons_of_neg hp, List.filter_nil, List.map_nil, List.append_nil]
    · rw [if_neg hb, List.filter_cons_of_pos (hlast.mpr hb), List.filter_nil, List.map_singleton]

namespace Range

/-- The positions of a range before one of them are those that come earlier in a row or in an
earlier row. -/
theorem mem_before_iff {r : Range} {before after : List (Nat × Nat)} {p q : Nat × Nat}
    (h : r.positions = before ++ p :: after) :
    q ∈ before ↔ r.contains q.1 q.2 ∧ RowMajor q p := by
  have hsorted := r.positions_sorted
  rw [h] at hsorted
  obtain ⟨_, hrest, hcross⟩ := List.pairwise_append.mp hsorted
  rw [← mem_positions, h]
  constructor
  · exact fun hq => ⟨List.mem_append_left _ hq, hcross q hq p List.mem_cons_self⟩
  · rintro ⟨hq, hqp⟩
    rcases List.mem_append.mp hq with hq | hq
    · exact hq
    · rcases List.mem_cons.mp hq with rfl | hq
      · exact absurd hqp (RowMajor.irrefl q)
      · exact absurd (hqp.trans ((List.pairwise_cons.mp hrest).1 q hq)) (RowMajor.irrefl q)

end Range

namespace Grid

/-- What a scan of a range lists. -/
structure Listed (g : Grid) (r : Range) : Prop where
  scanned : g.cellsIn r = (r.positions.map fun p => g.cellAt p.1 p.2).eraseDups
  reached : ∀ row col, (g.cellAt row col).range ∈ (g.cellsIn r).map (·.range) ↔
    ∃ p q, r.contains p q ∧ (g.cellAt row col).range.contains p q
  once : (g.cellsIn r).Pairwise fun c k => c.range ≠ k.range
  covered : ∀ row col, r.contains row col → ∃ c ∈ g.cellsIn r, c.range.contains row col
  looked : ∀ c ∈ g.cellsIn r, c = g.cellAt c.row c.col
  first : ∀ c ∈ g.cellsIn r, r.contains c.row c.col ∧ c.range.contains c.row c.col ∧
    ∀ row col, r.contains row col → c.range.contains row col →
      (row, col) = (c.row, c.col) ∨ RowMajor (c.row, c.col) (row, col)
  ordered : (g.cellsIn r).Pairwise fun c k => RowMajor (c.row, c.col) (k.row, k.col)

/-- To take every cell where it shows first is to leave out what comes again. -/
theorem Tiled.cellsIn_eq_eraseDups {g : Grid} (ht : g.Tiled) (r : Range) :
    g.cellsIn r = (r.positions.map fun p => g.cellAt p.1 p.2).eraseDups := by
  refine (eraseDups_map_eq_filter fun before p after hpositions => ?_).symm
  have hp : r.contains p.1 p.2 := by
    rw [← Range.mem_positions, hpositions]
    exact List.mem_append_right _ List.mem_cons_self
  rw [isFirstIn_iff hp (ht.covered p.1 p.2), List.contains_iff_exists_mem_beq]
  constructor
  · rintro hfirst ⟨_, hmem, hlike⟩
    obtain ⟨q, hq, rfl⟩ := List.mem_map.mp hmem
    obtain ⟨hqr, hqp⟩ := (Range.mem_before_iff hpositions).mp hq
    exact hfirst q.1 q.2 hqr ((ht.parted.same _ _ _ _).mp hlike) hqp
  · intro hnone row col hr hcover hqp
    refine hnone ⟨_, List.mem_map_of_mem ((Range.mem_before_iff hpositions).mpr ⟨hr, hqp⟩), ?_⟩
    exact (ht.parted.same _ _ _ _).mpr hcover

theorem Tiled.listed {g : Grid} (ht : g.Tiled) (r : Range) : g.Listed r := by
  have hshows : ∀ {row col}, r.contains row col →
      ∃ c ∈ g.cellsIn r, c.range = g.coverAt row col := by
    intro row col hr
    obtain ⟨c, hc, hrange⟩ := exists_shows ht hr
    exact ⟨c, (mem_cellsIn ht).mpr hc, hrange⟩
  constructor
  · exact ht.cellsIn_eq_eraseDups r
  · intro row col
    rw [List.mem_map]
    constructor
    · rintro ⟨c, hc, hrange⟩
      have hc := (mem_cellsIn ht).mp hc
      exact ⟨c.row, c.col, hc.inside, hrange ▸ ht.contains_self hc.holds⟩
    · rintro ⟨p, q, hr, hcover⟩
      obtain ⟨c, hc, hrange⟩ := hshows hr
      exact ⟨c, hc, hrange.trans (ht.agree hcover)⟩
  · exact cellsIn_distinct ht r
  · intro row col hr
    obtain ⟨c, hc, hrange⟩ := hshows hr
    exact ⟨c, hc, hrange ▸ ht.covered row col⟩
  · exact fun c hc => ((mem_cellsIn ht).mp hc).holds
  · intro c hc
    have hc := (mem_cellsIn ht).mp hc
    refine ⟨hc.inside, ht.contains_self hc.holds, fun row col hr hcover => ?_⟩
    by_cases hlater : RowMajor (c.row, c.col) (row, col)
    · exact Or.inr hlater
    · exact Or.inl (RowMajor.eq_of_not (hc.first row col hr hcover) hlater)
  · exact cellsIn_sorted g r

end Grid

/-- On a sheet, read with or without its null texts, a scan lists the cells of a range. -/
theorem cells_listed (name : String) (edits : List Sheet.Edit) (r : Range) :
    (Sheet.ofEdits name edits).grid.Listed r ∧
      ∀ criteria : Criteria, (criteria.view (Sheet.ofEdits name edits).grid).Listed r :=
  ⟨(Sheet.tiled _).listed r, fun criteria => (criteria.tiled_view (Sheet.tiled _)).listed r⟩

end SheetTables
