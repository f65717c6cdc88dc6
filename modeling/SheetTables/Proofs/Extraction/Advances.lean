import Mathlib.Data.List.Chain
import SheetTables.Proofs.Extraction.Headers
import SheetTables.Proofs.Extraction.Walks
import SheetTables.Proofs.Grid.Reversals
import SheetTables.Proofs.Layout.Settling

/-! # Advancing runs

A step that leads to one cell only leads to a cell that takes up all of the strip next to the one
it is made from. So the cells of a run lie close one after the other and never get narrower, each
of them past all that came before, and all of them past their header.
-/

namespace SheetTables
namespace Direction

/-- The second range lies at least so far past the leading edge of the first. -/
def Beyond : Direction → Nat → Range → Range → Prop
  | up, n, r, s => s.bottom + n ≤ r.top
  | down, n, r, s => r.bottom + n ≤ s.top
  | left, n, r, s => s.right + n ≤ r.left
  | right, n, r, s => r.right + n ≤ s.left

/-- The second range begins one past the leading edge of the first, and faces all of it. -/
def Follows : Direction → Range → Range → Prop
  | up, r, s => s.bottom + 1 = r.top ∧ s.left ≤ r.left ∧ r.right ≤ s.right
  | down, r, s => r.bottom + 1 = s.top ∧ s.left ≤ r.left ∧ r.right ≤ s.right
  | left, r, s => s.right + 1 = r.left ∧ s.top ≤ r.top ∧ r.bottom ≤ s.bottom
  | right, r, s => r.right + 1 = s.left ∧ s.top ≤ r.top ∧ r.bottom ≤ s.bottom

variable {d : Direction} {r s t strip : Range} {m n : Nat}

theorem Abuts.beyond (h : d.Abuts r s) : d.Beyond 1 r s := by
  cases d <;> simp only [Abuts, Beyond] at h ⊢ <;> omega

theorem Beyond.trans (h : d.Beyond m r s) (h' : d.Beyond n s t) : d.Beyond (m + n) r t := by
  have hrow := s.top_le_bottom
  have hcol := s.left_le_right
  cases d <;> simp only [Beyond] at h h' ⊢ <;> omega

theorem Beyond.past (h : d.Beyond n r s) (hn : 0 < n) : d.Past r s := by
  cases d <;> simp only [Beyond, Past] at h ⊢ <;> omega

theorem Past.apart (h : d.Past r s) : ¬ r.intersects s := by
  rw [Range.intersects_iff]
  cases d <;> simp only [Past] at h <;> omega

theorem Abuts.follows (h : d.Abuts r s) (hstrip : d.shift? r 1 = some strip)
    (hall : ∀ row col, strip.contains row col → s.contains row col) : d.Follows r s := by
  have hrow := strip.top_le_bottom
  have hcol := strip.left_le_right
  have hfirst := hall strip.top strip.left strip.contains_corner
  have hlast := hall strip.bottom strip.right (Range.contains_iff.mpr (by omega))
  rw [Range.contains_iff] at hfirst hlast
  cases d <;> simp only [shift?, Option.ite_none_right_eq_some, Option.some.injEq] at hstrip <;>
    obtain ⟨_, rfl⟩ := hstrip <;> simp only [Abuts, Follows] at h hfirst hlast ⊢ <;> omega

end Direction

namespace Grid

variable {g : Grid} (ht : g.Tiled) {d : Direction} {c k : Cell}
include ht

theorem probe_follows (hc : g.Holds c) (h : g.probe c d 1 = .ok k) :
    g.Holds k ∧ d.Follows c.range k.range := by
  rw [probe_eq_ok_iff, probeAll_one ht, beside] at h
  cases hstrip : d.shift? c.range 1 with
  | none => simp [hstrip] at h
  | some strip =>
    simp only [hstrip] at h
    have hk := (mem_cellsIn ht).mp (h ▸ List.mem_singleton_self k)
    have hall : ∀ row col, strip.contains row col → k.range.contains row col := by
      intro row col hin
      obtain ⟨l, hl, hrange⟩ := exists_shows ht hin
      obtain rfl := List.mem_singleton.mp (h ▸ (mem_cellsIn ht).mpr hl)
      exact hrange ▸ ht.covered row col
    have hmeet := Range.intersects_of_contains hk.inside (ht.contains_self hk.holds)
    have hapart := ht.apart_of_shift? hc hk.holds hstrip hmeet
    exact ⟨hk.holds, (Direction.abuts_of_shift? hstrip hmeet hapart).follows hstrip hall⟩

theorem Leads.beyond {n : Nat} (h : g.Leads d n c k) (hc : g.Holds c) (hn : 0 < n) :
    d.Beyond n c.range k.range := by
  induction h with
  | here c => exact absurd hn (Nat.lt_irrefl 0)
  | @onward n c k l first rest ih =>
    have hstep := (first.abuts ht hc).beyond
    rcases Nat.eq_zero_or_pos n with rfl | hpos
    · cases rest
      exact hstep
    · rw [Nat.add_comm]
      exact hstep.trans (ih first.1 hpos)

theorem probe_beyond {n : Nat} (hc : g.Holds c) (h : g.probe c d n = .ok k) (hn : 0 < n) :
    d.Beyond n c.range k.range := by
  have hmem : k.range ∈ (g.probeAll c d n).map (·.range) := by
    rw [probe_eq_ok_iff.mp h]
    exact List.mem_singleton_self k.range
  obtain ⟨l, hl, hrange⟩ := ((probed ht hc d).reached n k.range).mp hmem
  exact hrange ▸ hl.beyond ht hc hn

end Grid

/-- How the cells of a run lie to each other, and to the header that it starts from. -/
structure Advances (d : Direction) (distance : Nat) (head : Range) (cells : List Cell) : Prop where
  first : ∀ c, cells.head? = some c → d.Beyond distance head c.range
  next : cells.IsChain fun a b => d.Follows a.range b.range
  apart : cells.Pairwise fun a b => ¬ a.range.intersects b.range
  clear : ∀ c ∈ cells, ¬ head.intersects c.range

namespace Walks

variable {g : Grid} {d : Direction} {c k : Cell} {cells : List Cell} {problems : List Problem}

theorem head_eq (h : Walks g d c cells problems) (hk : cells.head? = some k) : k = c := by
  cases h <;> simp_all

theorem follows (ht : g.Tiled) (hc : g.Holds c) (h : Walks g d c cells problems) :
    cells.IsChain fun a b => d.Follows a.range b.range := by
  induction h with
  | turned c => exact .nil
  | halted c => exact .singleton c
  | failed h => exact .singleton _
  | @stepped c k cells problems h rest ih =>
    obtain ⟨hk, hfollows⟩ := Grid.probe_follows ht hc h
    refine List.isChain_cons.mpr ⟨fun l hl => ?_, ih hk⟩
    rw [rest.head_eq hl]
    exact hfollows

theorem advances (ht : g.Tiled) (hc : g.Holds c) (h : Walks g d c cells problems) {head : Range}
    {distance : Nat} (hd : 0 < distance) (hfirst : d.Beyond distance head c.range) :
    Advances d distance head cells where
  first k hk := h.head_eq hk ▸ hfirst
  next := h.follows ht hc
  apart := (h.past ht hc).imp Direction.Past.apart
  clear k hk := by
    have hpast : d.Past head c.range := hfirst.past hd
    rcases h.mem ht hc k hk with rfl | hk
    · exact hpast.apart
    · exact (hpast.trans hk).apart

end Walks

theorem advances_nil (d : Direction) (distance : Nat) (head : Range) :
    Advances d distance head [] := by
  constructor <;> simp

theorem Search.header_advances (s : Search) (ht : s.grid.Tiled) {f : Field} (hd : 0 < f.distance)
    {c : Cell} (hc : s.grid.Holds c) (missing : List Problem) :
    Advances f.direction f.distance c.range (s.header f c missing).data := by
  rcases s.header_data f c missing with hnone | ⟨data, origin, _, hp, hrun⟩
  · rw [hnone]
    exact advances_nil _ _ _
  · rw [hrun]
    exact (s.run_walks f.direction data origin).advances ht (Grid.probe_holds ht hc hp) hd
      (Grid.probe_beyond ht hc hp hd)

/-- The data of every header begin at the distance of the field at least, and go on without a gap,
each cell as wide as the one before. No position is covered twice, nor by the header as well. -/
theorem recognize_advances {spec : TableSpec} {layout : TableLayout}
    (hb : spec.build = .ok layout) (s : Sheet) (criteria : Criteria) :
    ∀ t ∈ (recognize layout s.grid criteria).1, ∀ h ∈ t.headers.toList,
      Advances h.field.direction h.field.distance h.cell.range h.data := by
  intro t ht h hh
  obtain ⟨area, _, ht⟩ := mem_recognize ht
  have hview : (criteria.view s.grid).Tiled := criteria.tiled_view s.tiled
  obtain ⟨hcell, hfield, missing, he⟩ := Search.header_of_mem _ hview ht hh
  have hdata := (searchIn layout s.grid criteria area).header_advances hview
    (TableLayout.distance_pos hb hfield) hcell missing
  rwa [← he] at hdata

def levelSpec : TableSpec where
  name := "Levels"
  fields :=
    .node
      { name := "Top", matcher := labelled "Top", role := .leaf, direction := some .down,
        distance := 2, data := some { layout := .unfixed } } .nil .nil

def levelLayout : TableLayout where
  name := "Levels"
  necessity := .required
  anchor :=
    { keyedField 0 "Top" with
      direction := .down, distance := 2, body := .leaf { layout := .unfixed } }
  anchorChildren := .nil
  others := .nil
  validators := []

theorem levelSpec_build : levelSpec.build = .ok levelLayout := rfl

def levelSheet : Sheet :=
  .ofEdits "Sheet1"
    [.push 0 0 (.text "Top"), .merge (.ofCorners 3 0 3 1), .merge (.ofCorners 4 0 5 2)]

def levelHeader : Header :=
  let c := levelSheet.grid.cellAt
  { field := levelLayout.anchor, cell := c 0 0, data := [c 2 0, c 3 0, c 4 0] }

theorem recognize_advances_levels :
    levelSpec.build = .ok levelLayout ∧
      ∃ t ∈ (recognize levelLayout levelSheet.grid {}).1, t.headers.toList = [levelHeader] ∧
        Advances .down 2 levelHeader.cell.range levelHeader.data := by
  have hheaders : (recognize levelLayout levelSheet.grid {}).1.map (·.headers.toList) =
      [[levelHeader]] := rfl
  obtain ⟨t, hmem, ht⟩ := List.mem_map.mp (hheaders ▸ List.mem_singleton_self _)
  refine ⟨levelSpec_build, t, hmem, ht, ?_⟩
  exact recognize_advances levelSpec_build levelSheet {} t hmem levelHeader
    (ht ▸ List.mem_singleton_self levelHeader)

end SheetTables
