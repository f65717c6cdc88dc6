import SheetTables.Proofs.Extraction.OpenRun
import SheetTables.Proofs.Extraction.Placement
import SheetTables.Proofs.Layout.Settling

/-! # Searches that mirror each other

Two searches may differ in their grids or layouts and still find the same, up to a replacement of
fields and cells. If the candidates and the regions of one are those of the other, fields are
placed alike; if single steps lead alike, so do runs; and runs that are alike give like records.
-/

namespace SheetTables

def Placed.map (onField : Field → Field) (onCell : Cell → Cell) (p : Placed) : Placed :=
  ⟨onField p.field, onCell p.cell, p.absent.map onField⟩

section Least

variable {α β : Type} (f : α → β) (weight : β → Nat)

theorem leastBy_map (as : List α) :
    leastBy weight (as.map f) = (leastBy (fun a => weight (f a)) as).map f := by
  induction as with
  | nil => rfl
  | cons a as ih =>
    simp only [List.map_cons, leastBy, ih]
    cases leastBy (fun a => weight (f a)) as with
    | none => rfl
    | some b => by_cases h : weight (f b) < weight (f a) <;> simp [h]

end Least

theorem nearestAnchor?_map {onCell : Cell → Cell}
    (hdistance : ∀ a c, (onCell a).distance (onCell c) = a.distance c) (anchors : List Cell)
    (c : Cell) : nearestAnchor? (anchors.map onCell) (onCell c) = nearestAnchor? anchors c := by
  unfold nearestAnchor?
  rw [List.zipIdx_map, leastBy_map, Option.map_map]
  simp only [Prod.map_fst, hdistance]
  rfl

namespace Search

/-- What one search finds is what another finds with other fields and cells in place of its own.
Of the regions of children only those matter that the first search looks into. -/
structure Mirrors (s s' : Search) (onField : Field → Field) (onCell : Cell → Cell) : Prop where
  forest : s'.layout.forest = s.layout.forest.map onField
  number : ∀ f, (onField f).id = f.id
  candidates : s'.candidates = s.candidates.map onCell
  test : ∀ f ∈ s.layout.fields, ∀ c, (onField f).matcher.test (onCell c) = f.matcher.test c
  distance : ∀ a c, (onCell a).distance (onCell c) = a.distance c
  region : ∀ P ∈ s.placements, ∀ p ∈ P.1.toList,
    s'.childRegion (onField p.field) (onCell p.cell) =
      (s.childRegion p.field p.cell).map onCell

variable {s s' : Search} {onField : Field → Field} {onCell : Cell → Cell}

theorem locateChild_map {f child : Field} {c : Cell}
    (hregion : s'.childRegion (onField f) (onCell c) = (s.childRegion f c).map onCell)
    (htest : ∀ c, (onField child).matcher.test (onCell c) = child.matcher.test c) :
    s'.locateChild (onField f) (onCell c) (onField child) =
      (s.locateChild f c child).map onCell := by
  unfold locateChild
  rw [hregion, List.find?_map]
  simp only [Function.comp_def, htest]

theorem place_map {F : Forest Field} {locate locate' : Field → Option Cell}
    (hlocate : ∀ f ∈ F.roots, locate' (onField f) = (locate f).map onCell)
    (htest : ∀ f ∈ F.toList, ∀ c, (onField f).matcher.test (onCell c) = f.matcher.test c)
    (hregion : ∀ p ∈ (s.place locate F).1.toList,
      s'.childRegion (onField p.field) (onCell p.cell) =
        (s.childRegion p.field p.cell).map onCell) :
    s'.place locate' (F.map onField) =
      ((s.place locate F).1.map (.map onField onCell), (s.place locate F).2.map onField) := by
  induction F generalizing locate locate' with
  | nil => rfl
  | node f children siblings ihc ihs =>
    simp only [Forest.roots, List.forall_mem_cons] at hlocate
    simp only [Forest.toList, List.forall_mem_cons, List.forall_mem_append] at htest
    obtain ⟨hf, hsiblings⟩ := hlocate
    obtain ⟨_, htchildren, htsiblings⟩ := htest
    cases h : locate f with
    | none =>
      rw [s.place_none h] at hregion ⊢
      rw [h] at hf
      rw [Forest.map, s'.place_none hf, ihs hsiblings htsiblings hregion]
      rfl
    | some c =>
      rw [s.place_some h] at hregion ⊢
      rw [h] at hf
      simp only [Forest.toList, List.forall_mem_cons, List.forall_mem_append] at hregion
      obtain ⟨hrf, hrchildren, hrsiblings⟩ := hregion
      have hchildren : ∀ child ∈ children.roots,
          s'.locateChild (onField f) (onCell c) (onField child) =
            (s.locateChild f c child).map onCell := fun child hc =>
        locateChild_map hrf (htchildren child (children.roots_sublist.mem hc))
      rw [Forest.map, s'.place_some hf, ihs hsiblings htsiblings hrsiblings,
        ihc hchildren htchildren hrchildren]
      rfl

theorem isHeader_map (hfields : s'.layout.fields = s.layout.fields.map onField)
    (htest : ∀ f ∈ s.layout.fields, ∀ c, (onField f).matcher.test (onCell c) = f.matcher.test c)
    (c : Cell) : s'.isHeader (onCell c) = s.isHeader c := by
  unfold isHeader
  rw [hfields, List.any_map, Bool.eq_iff_iff, List.any_eq_true, List.any_eq_true]
  refine exists_congr fun f => and_congr_right fun hf => ?_
  rw [Function.comp_apply, htest f hf]

namespace Mirrors

variable (h : s.Mirrors s' onField onCell)
include h

theorem anchor : s'.layout.anchor = onField s.layout.anchor :=
  (Forest.node.inj h.forest).1

theorem anchors : s'.anchors = s.anchors.map onCell := by
  unfold Search.anchors
  rw [h.candidates, List.filter_map, h.anchor]
  simp only [Function.comp_def, h.test s.layout.anchor List.mem_cons_self]

theorem locateRoot (occurrence : Nat) (a : Cell) {f : Field} (hf : f ∈ s.layout.fields) :
    s'.locateRoot s'.candidates s'.anchors occurrence (onCell a) (onField f) =
      (s.locateRoot s.candidates s.anchors occurrence a f).map onCell := by
  unfold Search.locateRoot
  rw [h.anchor, h.number, h.number, h.candidates, h.anchors, List.filter_map, leastBy_map]
  simp only [Function.comp_def, h.test f hf, nearestAnchor?_map h.distance, h.distance]
  split <;> rfl

theorem placements : s'.placements =
    s.placements.map fun P => (P.1.map (.map onField onCell), P.2.map onField) := by
  have hregion := h.region
  unfold Search.placements at hregion ⊢
  rw [h.anchors, List.zipIdx_map, List.map_map, List.map_map, h.forest]
  refine List.map_congr_left fun p hp => ?_
  refine place_map (fun f hf => ?_) h.test (hregion _ (List.mem_map_of_mem hp))
  have hroot := h.locateRoot p.2 p.1 (s.layout.forest.roots_sublist.mem hf)
  rwa [h.anchors] at hroot

theorem isHeader (c : Cell) : s'.isHeader (onCell c) = s.isHeader c := by
  refine isHeader_map ?_ h.test c
  unfold TableLayout.fields
  rw [h.forest, Forest.toList_map]

end Mirrors

theorem Mirrors.placements_eq (h : s.Mirrors s' id id) :
    s'.placements = s.placements := by
  have hid : ∀ p : Placed, p.map id id = p := fun p => by simp [Placed.map]
  rw [h.placements, funext hid]
  simp

/-- A step from a cell and the step in its place lead to cells in each other's place, or they both
fail, with related problems. -/
inductive StepsAlike (s s' : Search) (onCell : Cell → Cell) (R : Problem → Problem → Prop)
    (d : Direction) (c : Cell) : Prop
  | ok {k : Cell} (h : s.grid.probe c d 1 = .ok k)
    (h' : s'.grid.probe (onCell c) d 1 = .ok (onCell k))
  | error {e e' : ProbeError} (h : s.grid.probe c d 1 = .error e)
    (h' : s'.grid.probe (onCell c) d 1 = .error e')
    (problem : R (geometryProblem c e) (geometryProblem (onCell c) e'))

structure RunsAlike (onCell : Cell → Cell) (R : Problem → Problem → Prop)
    (run run' : List Cell × List Problem) : Prop where
  cells : run'.1 = run.1.map onCell
  problems : List.Forall₂ R run.2 run'.2

structure BoundsAlike (s s' : Search) (onCell : Cell → Cell) : Prop where
  maxRun : s'.criteria.maxRun = s.criteria.maxRun
  endAtEmptyCell : s'.criteria.endAtEmptyCell = s.criteria.endAtEmptyCell
  isEmpty : ∀ c, (onCell c).isEmpty = c.isEmpty
  isHeader : ∀ c, s'.isHeader (onCell c) = s.isHeader c
  meets : ∀ c, s'.area.intersects (onCell c).range = s.area.intersects c.range
  border : ∀ (d : Direction) c, d.isBorder (onCell c).range s'.area = d.isBorder c.range s.area
  room : ∀ d c, s'.room d (onCell c).range = s.room d c.range

variable {R : Problem → Problem → Prop} {d : Direction}

theorem stepsAlike_of_probe_eq {c : Cell} (h : s'.grid.probe c d 1 = s.grid.probe c d 1)
    (hR : ∀ p, R p p) : StepsAlike s s' id R d c := by
  cases hp : s.grid.probe c d 1 with
  | ok k => exact .ok hp (h.trans hp)
  | error e => exact .error hp (h.trans hp) (hR _)

theorem fixedRun_alike {more : Nat} {c : Cell}
    (hstep : ∀ k ∈ (s.fixedRun d more c).1.take more, StepsAlike s s' onCell R d k) :
    RunsAlike onCell R (s.fixedRun d more c) (s'.fixedRun d more (onCell c)) := by
  induction more generalizing c with
  | zero => exact ⟨rfl, .nil⟩
  | succ more ih =>
    have hc : StepsAlike s s' onCell R d c := hstep c <| by
      unfold fixedRun
      cases s.grid.probe c d 1 <;> simp
    unfold fixedRun at hstep ⊢
    cases hc with
    | ok h h' =>
      simp only [h, List.take_succ_cons, List.forall_mem_cons] at hstep
      obtain ⟨hcells, hproblems⟩ := ih hstep.2
      simp only [h, h']
      exact ⟨by rw [hcells, List.map_cons], hproblems⟩
    | error h h' problem =>
      simp only [h, h']
      exact ⟨rfl, .cons problem .nil⟩

section Bounded

variable (hb : BoundsAlike s s' onCell) {boundary boundary' : Option (Matcher Cell)}
  (hboundary : ∀ c, boundary'.any (·.test (onCell c)) = boundary.any (·.test c))
include hb hboundary

theorem endsBefore_alike (taken : Nat) (c : Cell) :
    s'.endsBefore boundary' taken (onCell c) = s.endsBefore boundary taken c := by
  unfold endsBefore
  rw [hb.maxRun, hb.endAtEmptyCell, hb.isEmpty, hb.isHeader, hb.meets, hboundary]

theorem openRun_alike
    (hstep : ∀ c, s.area.intersects c.range → ¬ d.isBorder c.range s.area →
      StepsAlike s s' onCell R d c) (room taken : Nat) (c : Cell) :
    RunsAlike onCell R (s.openRun d boundary room taken c)
      (s'.openRun d boundary' room taken (onCell c)) := by
  induction room generalizing taken c with
  | zero => exact ⟨rfl, .nil⟩
  | succ room ih =>
    have hends := endsBefore_alike hb hboundary taken c
    by_cases he : s.endsBefore boundary taken c
    · rw [s.openRun_ends he, s'.openRun_ends (hends.trans he)]
      exact ⟨rfl, .nil⟩
    · have he' : ¬ s'.endsBefore boundary' taken (onCell c) := hends ▸ he
      have hborder := hb.border d c
      by_cases hd : d.isBorder c.range s.area
      · rw [s.openRun_border he hd, s'.openRun_border he' (hborder.trans hd)]
        exact ⟨rfl, .nil⟩
      · have hd' : ¬ d.isBorder (onCell c).range s'.area := hborder ▸ hd
        have hmeets : s.area.intersects c.range := by
          rw [endsBefore_iff, not_or, not_not] at he
          exact he.2.area
        cases hstep c hmeets hd with
        | @ok k h h' =>
          obtain ⟨hcells, hproblems⟩ := ih (taken + 1) k
          rw [s.openRun_ok he hd h, s'.openRun_ok he' hd' h']
          exact ⟨by rw [hcells, List.map_cons], hproblems⟩
        | error h h' problem =>
          rw [s.openRun_error he hd h, s'.openRun_error he' hd' h']
          exact ⟨rfl, .cons problem .nil⟩

end Bounded

/-- A run in place of another. Of a fixed run the steps from all of its cells matter but that
from the last one asked for; an open run makes steps only within the area. -/
theorem run_alike (hb : BoundsAlike s s' onCell) {data data' : DataSpec} {c : Cell}
    (hlayout : data'.layout = data.layout)
    (hboundary : ∀ c, data'.boundary.any (·.test (onCell c)) = data.boundary.any (·.test c))
    (hfixed : ∀ count, data.layout = .fixed count →
      ∀ k ∈ (s.run d data c).1.take (count - 1), StepsAlike s s' onCell R d k)
    (hopen : ∀ c, s.area.intersects c.range → ¬ d.isBorder c.range s.area →
      StepsAlike s s' onCell R d c) :
    RunsAlike onCell R (s.run d data c) (s'.run d data' (onCell c)) := by
  unfold run at hfixed ⊢
  rw [hlayout, hb.room]
  cases hl : data.layout with
  | fixed count =>
    simp only [hl] at hfixed
    exact fixedRun_alike (hfixed count rfl)
  | unfixed =>
    have hnone : ∀ c, (none : Option (Matcher Cell)).any (·.test (onCell c)) =
        (none : Option (Matcher Cell)).any (·.test c) := fun _ => rfl
    exact openRun_alike hb hnone hopen _ _ _
  | mixed => exact openRun_alike hb hboundary hopen _ _ _

end Search

def Record.map (onCell : Cell → Cell) (r : Record) : Record :=
  { r with entries := r.entries.map fun e => { e with cell := onCell e.cell } }

/-- A header that gives the same entries as another, but for their cells. -/
structure FeedsAlike (onCell : Cell → Cell) (h h' : Header) : Prop where
  leaf : h'.field.isLeaf = h.field.isLeaf
  id : h'.field.id = h.field.id
  path : h'.path = h.path
  data : h'.data = h.data.map onCell

section Records

variable {onCell : Cell → Cell}

theorem longestRun_alike {leaves leaves' : List Header}
    (h : List.Forall₂ (FeedsAlike onCell) leaves leaves') :
    longestRun leaves' = longestRun leaves := by
  have hlengths : leaves'.map (·.data.length) = leaves.map (·.data.length) := by
    induction h with
    | nil => rfl
    | cons hh _ ih => simp [hh.data, ih]
  have hfold : ∀ leaves, longestRun leaves = (leaves.map (·.data.length)).foldl max 0 := by
    intro leaves
    rw [longestRun, List.foldl_map]
  rw [hfold, hfold, hlengths]

theorem recordAt_alike {leaves leaves' : List Header}
    (h : List.Forall₂ (FeedsAlike onCell) leaves leaves') (i : Nat) :
    recordAt leaves' i = (recordAt leaves i).map onCell := by
  have hentries : leaves'.filterMap (·.entryAt? i) =
      (leaves.filterMap (·.entryAt? i)).map fun e => { e with cell := onCell e.cell } := by
    induction h with
    | nil => rfl
    | @cons h h' leaves leaves' hh _ ih =>
      have hentry : h'.entryAt? i =
          (h.entryAt? i).map fun e => { e with cell := onCell e.cell } := by
        simp only [Header.entryAt?, hh.data, hh.id, hh.path, List.getElem?_map, Option.map_map]
        rfl
      rw [List.filterMap_cons, List.filterMap_cons, ih, hentry]
      cases h.entryAt? i <;> rfl
  exact congrArg (Record.mk i) hentries

theorem records_alike {headers headers' : Forest Header}
    (h : Forest.Forall₂ (FeedsAlike onCell) headers headers')
    (hempty : ∀ c, (onCell c).isEmpty = c.isEmpty) :
    records (leafHeaders headers') = (records (leafHeaders headers)).map (.map onCell) := by
  have hleaves : List.Forall₂ (FeedsAlike onCell) (leafHeaders headers) (leafHeaders headers') :=
    List.rel_filter (fun _ _ hh => iff_of_eq (congrArg (· = true) hh.leaf.symm)) h.toList
  have hkept : ∀ r : Record, (r.map onCell).isEmpty = r.isEmpty := by
    intro r
    simp only [Record.isEmpty, Record.map, List.all_map, Function.comp_def, hempty]
  calc records (leafHeaders headers')
      = (((List.range (longestRun (leafHeaders headers))).map
          (recordAt (leafHeaders headers))).map (.map onCell)).filter (!·.isEmpty) := by
        rw [records, longestRun_alike hleaves, funext (recordAt_alike hleaves), List.map_map]
        rfl
    _ = (records (leafHeaders headers)).map (.map onCell) := by
        rw [List.filter_map, records]
        simp only [Function.comp_def, hkept]

theorem records_eq {headers headers' : Forest Header}
    (h : Forest.Forall₂ (FeedsAlike id) headers headers') :
    records (leafHeaders headers') = records (leafHeaders headers) := by
  have hid : ∀ r : Record, r.map id = r := fun r => by simp [Record.map]
  rw [records_alike h fun _ => rfl, funext hid, List.map_id']

end Records
end SheetTables
