import SheetTables.Proofs.Extraction.Mirroring

/-! # Searches that agree

Two searches of one area by the same criteria may be for different layouts. Where they take the
same cells for headers their runs are the same, and where their fields look for the same cells
these are placed at the same cells.
-/

namespace SheetTables
namespace Search

/-- Searches of one area that take the same cells for headers. -/
structure Agree (s s' : Search) : Prop where
  grid : s'.grid = s.grid
  area : s'.area = s.area
  criteria : s'.criteria = s.criteria
  isHeader : ∀ c, s'.isHeader c = s.isHeader c

namespace Agree

variable {s s' : Search} (h : s.Agree s')
include h

theorem candidates : s'.candidates = s.candidates := by
  unfold Search.candidates
  rw [h.grid, h.area]

theorem bounds : BoundsAlike s s' id where
  maxRun := congrArg Criteria.maxRun h.criteria
  endAtEmptyCell := congrArg Criteria.endAtEmptyCell h.criteria
  isEmpty _ := rfl
  isHeader := h.isHeader
  meets _ := by rw [h.area, id]
  border _ _ := by rw [h.area, id]
  room d _ := by
    unfold room
    rw [h.area, id]

theorem run_eq {data data' : DataSpec} (hlayout : data'.layout = data.layout)
    (hboundary : data'.boundary = data.boundary) (d : Direction) (c : Cell) :
    s'.run d data' c = s.run d data c := by
  have hstep : ∀ k, StepsAlike s s' id Eq d k :=
    fun k => stepsAlike_of_probe_eq (by rw [h.grid]) fun _ => rfl
  have hrun : RunsAlike id Eq (s.run d data c) (s'.run d data' c) :=
    run_alike h.bounds hlayout (fun _ => by rw [hboundary, id]) (fun _ _ k _ => hstep k)
      (fun k _ _ => hstep k)
  have hproblems : (s.run d data c).2 = (s'.run d data' c).2 :=
    List.forall₂_eq_eq_eq ▸ hrun.problems
  exact Prod.ext (by rw [hrun.cells, List.map_id]) hproblems.symm

end Agree

structure PlacedAlike (R : Field → Field → Prop) (p p' : Placed) : Prop where
  field : R p.field p'.field
  cell : p'.cell = p.cell
  absent : List.Forall₂ R p.absent p'.absent

theorem place_alike {s s' : Search} {R : Field → Field → Prop}
    (hchild : ∀ f f', R f f' → ∀ g g', R g g' → ∀ c,
      s'.locateChild f' c g' = s.locateChild f c g)
    {F F' : Forest Field} (hF : F.Forall₂ R F') {locate locate' : Field → Option Cell}
    (hlocate : ∀ f f', R f f' → locate' f' = locate f) :
    (s.place locate F).1.Forall₂ (PlacedAlike R) (s'.place locate' F').1 ∧
      List.Forall₂ R (s.place locate F).2 (s'.place locate' F').2 := by
  induction hF generalizing locate locate' with
  | nil => exact ⟨.nil, .nil⟩
  | @node f f' children siblings children' siblings' hf _ _ ihc ihs =>
    obtain ⟨hplaced, habsent⟩ := ihs hlocate
    cases h : locate f with
    | none =>
      rw [s.place_none h, s'.place_none ((hlocate f f' hf).trans h)]
      exact ⟨hplaced, .cons hf habsent⟩
    | some c =>
      obtain ⟨hinner, hlacking⟩ := ihc fun g g' hg => hchild f f' hf g g' hg c
      rw [s.place_some h, s'.place_some ((hlocate f f' hf).trans h)]
      exact ⟨.node ⟨hf, rfl, hlacking⟩ hinner hplaced, habsent⟩

end Search
end SheetTables
