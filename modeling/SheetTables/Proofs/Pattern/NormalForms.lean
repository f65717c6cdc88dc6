import SheetTables.Pattern.Compile
import SheetTables.Proofs.Pattern.Spans

/-! # What normal forms match

A concatenation in normal form matches what its parts match one after another. A choice that is
already in normal form is left as it is, which is how an expression of a pattern stands unchanged
inside a larger one.
-/

namespace SheetTables.Regex

/-- Stretches that expressions match one after another. -/
def SpansAll (text : List Char) : List (Regex Atom) → Nat → Nat → Prop
  | [], i, j => i = j
  | r :: rs, i, j => ∃ k, r.Spans text i k ∧ SpansAll text rs k j

section Concatenation

variable {text : List Char} {i j : Nat}

theorem spansAll_append {rs ss : List (Regex Atom)} :
    SpansAll text (rs ++ ss) i j ↔ ∃ k, SpansAll text rs i k ∧ SpansAll text ss k j := by
  induction rs generalizing i with
  | nil => simp [SpansAll]
  | cons r rs ih =>
    simp only [List.cons_append, SpansAll, ih]
    constructor
    · rintro ⟨l, hr, k, hrs, hss⟩
      exact ⟨k, ⟨l, hr, hrs⟩, hss⟩
    · rintro ⟨k, ⟨l, hr, hrs⟩, hss⟩
      exact ⟨l, hr, k, hrs, hss⟩

theorem spansAll_singleton {r : Regex Atom} : SpansAll text [r] i j ↔ r.Spans text i j := by
  simp [SpansAll]

theorem spansAll_parts {r : Regex Atom} : SpansAll text r.parts i j ↔ r.Spans text i j := by
  induction r generalizing i with
  | empty => exact Iff.rfl
  | cat r s _ ih => simp only [parts, SpansAll, Spans, ih]
  | _ => exact spansAll_singleton

theorem spansAll_flatMap_parts {rs : List (Regex Atom)} :
    SpansAll text (rs.flatMap parts) i j ↔ SpansAll text rs i j := by
  induction rs generalizing i with
  | nil => exact Iff.rfl
  | cons r rs ih => simp only [List.flatMap_cons, spansAll_append, SpansAll, spansAll_parts, ih]

theorem spans_ofParts {rs : List (Regex Atom)} :
    (ofParts rs).Spans text i j ↔ SpansAll text rs i j := by
  induction rs generalizing i with
  | nil => exact Iff.rfl
  | cons r rs ih =>
    cases rs with
    | nil => exact spansAll_singleton.symm
    | cons s rs => exact exists_congr fun k => and_congr_right fun _ => ih

theorem spans_literal_append {s t : List Char} : (atom (.literal (s ++ t))).Spans text i j ↔
    ∃ k, (atom (.literal s)).Spans text i k ∧ (atom (.literal t)).Spans text k j := by
  simp only [Spans, Atom.Spans]
  constructor
  · rintro ⟨hi, ⟨rest, hrest⟩, rfl⟩
    have hlen := congrArg List.length hrest
    simp only [List.length_append, List.length_drop] at hlen
    refine ⟨i + s.length, ⟨hi, ⟨t ++ rest, by rw [← hrest, List.append_assoc]⟩, rfl⟩, by omega,
      ⟨rest, ?_⟩, by simp only [List.length_append]; omega⟩
    rw [← List.drop_drop, ← hrest, List.append_assoc, List.drop_left]
  · rintro ⟨_, ⟨hi, ⟨rest, hrest⟩, rfl⟩, _, ⟨rest', hrest'⟩, rfl⟩
    refine ⟨hi, ⟨rest', ?_⟩, by simp only [List.length_append]; omega⟩
    rw [← List.drop_drop, ← hrest, List.drop_left] at hrest'
    rw [List.append_assoc, hrest', hrest]

theorem spansAll_joinTexts {rs : List (Regex Atom)} :
    SpansAll text (joinTexts rs) i j ↔ SpansAll text rs i j := by
  induction rs generalizing i with
  | nil => exact Iff.rfl
  | cons r rs ih =>
    unfold joinTexts
    split
    · next s t rest hrest =>
      simp only [← ih, hrest, SpansAll, spans_literal_append]
      constructor
      · rintro ⟨l, ⟨k, hs, ht⟩, h⟩
        exact ⟨k, hs, l, ht, h⟩
      · rintro ⟨k, hs, l, ht, h⟩
        exact ⟨l, ⟨k, hs, ht⟩, h⟩
    · simp only [SpansAll, ih]

/-- A concatenation matches what its parts match one after another. -/
theorem spans_concat {rs : List (Regex Atom)} :
    (concat rs).Spans text i j ↔ SpansAll text rs i j := by
  rw [concat, spans_ofParts, spansAll_joinTexts, spansAll_flatMap_parts]

end Concatenation

/-- No concatenation in it has a part that is left empty before others. -/
def Full : Regex Atom → Prop
  | cat r s => r ≠ empty ∧ r.Full ∧ s.Full
  | alt r s => r.Full ∧ s.Full
  | _ => True

theorem Full.parts {r : Regex Atom} (h : r.Full) : ∀ x ∈ r.parts, x ≠ empty ∧ x.Full := by
  induction r with
  | cat r s _ ih =>
    rintro x (_ | ⟨_, hx⟩)
    · exact ⟨h.1, h.2.1⟩
    · exact ih h.2.2 x hx
  | _ => simp_all [Regex.parts]

theorem Full.choices {r : Regex Atom} (h : r.Full) : ∀ x ∈ r.choices, x.Full := by
  induction r with
  | alt r s _ ih =>
    rintro x (_ | ⟨_, hx⟩)
    · exact h.1
    · exact ih h.2 x hx
  | _ => simpa [Regex.choices] using h

theorem full_ofParts {rs : List (Regex Atom)} (h : ∀ r ∈ rs, r ≠ empty ∧ r.Full) :
    (ofParts rs).Full := by
  induction rs with
  | nil => trivial
  | cons r rs ih =>
    cases rs with
    | nil => exact (h r List.mem_cons_self).2
    | cons s rs =>
      have hr := h r List.mem_cons_self
      exact ⟨hr.1, hr.2, ih fun x hx => h x (List.mem_cons_of_mem r hx)⟩

theorem full_joinTexts {rs : List (Regex Atom)} (h : ∀ r ∈ rs, r ≠ empty ∧ r.Full) :
    ∀ r ∈ joinTexts rs, r ≠ empty ∧ r.Full := by
  induction rs with
  | nil => simp [joinTexts]
  | cons r rs ih =>
    rw [List.forall_mem_cons] at h
    have hrest := ih h.2
    unfold joinTexts
    split
    · next s t rest heq =>
      rw [heq, List.forall_mem_cons] at hrest
      exact List.forall_mem_cons.mpr ⟨⟨nofun, trivial⟩, hrest.2⟩
    · exact List.forall_mem_cons.mpr ⟨h.1, hrest⟩

theorem full_concat {rs : List (Regex Atom)} (h : ∀ r ∈ rs, r.Full) : (concat rs).Full := by
  refine full_ofParts (full_joinTexts fun x hx => ?_)
  obtain ⟨r, hr, hx⟩ := List.mem_flatMap.mp hx
  exact (h r hr).parts x hx

theorem full_ofSet (s : CharSet) : (ofSet s).Full := by
  unfold ofSet
  split <;> trivial

theorem full_ofChoices {rs : List (Regex Atom)} (h : ∀ r ∈ rs, r.Full) : (ofChoices rs).Full := by
  induction rs with
  | nil => trivial
  | cons r rs ih =>
    cases rs with
    | nil => exact h r List.mem_cons_self
    | cons s rs => exact ⟨h r List.mem_cons_self, ih fun x hx => h x (List.mem_cons_of_mem r hx)⟩

theorem full_choice {rs : List (Regex Atom)} (h : ∀ r ∈ rs, r.Full) : (choice rs).Full := by
  have hall : ∀ x ∈ rs.flatMap choices, x.Full := fun x hx =>
    let ⟨r, hr, hx⟩ := List.mem_flatMap.mp hx
    (h r hr).choices x hx
  unfold choice
  split
  · trivial
  · next r heq => exact hall r (heq ▸ List.mem_singleton_self r)
  · split
    · exact full_ofSet _
    · exact full_ofSet _
    · exact full_ofChoices hall

theorem mem_of_mem_commonPart {rs ss : List (Regex Atom)} {x : Regex Atom}
    (h : x ∈ commonPart rs ss) : x ∈ rs := by
  fun_induction commonPart rs ss with
  | case1 s rs ss ih =>
    rcases List.mem_cons.mp h with rfl | h
    · exact List.mem_cons_self
    · exact List.mem_cons_of_mem _ (ih h)
  | _ => cases h

theorem mem_of_mem_foldl_commonPart {others : List (List (Regex Atom))} {first : List (Regex Atom)}
    {x : Regex Atom} (h : x ∈ others.foldl commonPart first) : x ∈ first := by
  induction others generalizing first with
  | nil => exact h
  | cons ss others ih => exact mem_of_mem_commonPart (ih h)

theorem mem_commonStart {rs : List (Regex Atom)} {x : Regex Atom} (h : x ∈ commonStart rs) :
    ∃ r ∈ rs, x ∈ r.parts := by
  unfold commonStart at h
  split at h
  · cases rs with
    | nil => cases h
    | cons r rs => exact ⟨r, List.mem_cons_self, mem_of_mem_foldl_commonPart h⟩
  · cases h

theorem Full.commonStart {rs : List (Regex Atom)} (h : ∀ r ∈ rs, r.Full) :
    ∀ x ∈ commonStart rs, x ≠ empty ∧ x.Full := fun x hx =>
  let ⟨r, hr, hx⟩ := mem_commonStart hx
  (h r hr).parts x hx

theorem full_alternation {rs : List (Regex Atom)} (h : ∀ r ∈ rs, r.Full) :
    (alternation rs).Full := by
  have hwhole := full_choice h
  dsimp only [alternation]
  split
  · exact hwhole
  · refine full_concat fun x hx => ?_
    rcases List.mem_append.mp hx with hx | hx
    · exact (Full.commonStart hwhole.choices x hx).2
    · rw [List.mem_singleton.mp hx]
      refine full_choice fun y hy => ?_
      obtain ⟨r, hr, rfl⟩ := List.mem_map.mp hy
      exact full_concat fun z hz => ((hwhole.choices r hr).parts z (List.mem_of_mem_drop hz)).2

theorem full_repetition {r : Regex Atom} (h : r.Full) (least : Nat) (most : Option Nat)
    (greedy : Bool) : (repetition r least most greedy).Full := by
  have hform : ∀ least most, (if least = 0 ∧ most = some 0 then empty
      else if least = 1 ∧ most = some 1 then r
      else repeated r least most greedy).Full := by
    intro least most
    split
    · trivial
    · split
      · exact h
      · trivial
  exact hform _ _

theorem full_of_choices? {e : Pattern.Expr} {f g : Pattern.Flags} {rs : List (Regex Atom)}
    (h : e.choices? f = some (rs, g)) : ∀ r ∈ rs, r.Full := by
  induction e generalizing f rs g with
  | empty | switches s | assertion a =>
    cases h
    simp [Full]
  | literal l =>
    simp only [Pattern.Expr.choices?, Pattern.Literal.regex?, Option.map_eq_some_iff] at h
    obtain ⟨r, hr, h⟩ := h
    cases h
    split at hr
    · cases hr
    · cases hr
      simpa using full_ofSet _
  | dot | set e =>
    simp only [Pattern.Expr.choices?, Option.map_eq_some_iff] at h
    obtain ⟨s, _, h⟩ := h
    cases h
    simpa using full_ofSet s
  | repeated e least most greedy ih =>
    simp only [Pattern.Expr.choices?] at h
    split at h
    · next hbody =>
      cases h
      simpa using full_repetition (full_alternation (ih hbody)) least most _
    · cases h
  | group s e ih =>
    simp only [Pattern.Expr.choices?] at h
    split at h
    · next hbody =>
      cases h
      simpa using full_alternation (ih hbody)
    · cases h
  | capture index e ih =>
    simp only [Pattern.Expr.choices?] at h
    split at h
    · cases h
      simp [Full]
    · cases h
  | concat a b iha ihb =>
    simp only [Pattern.Expr.choices?] at h
    split at h
    · next ha =>
      split at h
      · next hb =>
        cases h
        refine List.forall_mem_singleton.mpr (full_concat ?_)
        simpa using ⟨full_alternation (iha ha), full_alternation (ihb hb)⟩
      · cases h
    · cases h
  | alternate a b iha ihb =>
    simp only [Pattern.Expr.choices?] at h
    split at h
    · next ha =>
      split at h
      · next hb =>
        cases h
        exact List.forall_mem_append.mpr ⟨iha ha, ihb hb⟩
      · cases h
    · cases h

theorem choices_ne_nil (r : Regex Atom) : r.choices ≠ [] := by
  cases r <;> exact List.cons_ne_nil _ _

/-- A choice nests to the right, so that its last alternative is no choice itself. -/
theorem choices_getLast? {r x : Regex Atom} (h : r.choices.getLast? = some x) :
    x.choices = [x] := by
  induction r with
  | alt r s _ ih =>
    rw [choices, List.getLast?_cons_of_ne_nil (choices_ne_nil s)] at h
    exact ih h
  | _ =>
    cases h
    rfl

theorem flatMap_choices_getLast? {rs : List (Regex Atom)} {x : Regex Atom}
    (h : (rs.flatMap choices).getLast? = some x) : x.choices = [x] := by
  induction rs with
  | nil => cases h
  | cons r rs ih =>
    rw [List.flatMap_cons, List.getLast?_append] at h
    cases hrest : (rs.flatMap choices).getLast? with
    | none => exact choices_getLast? (by simpa [hrest] using h)
    | some y => exact ih (by simpa [hrest] using h)

theorem choices_ofChoices {rs : List (Regex Atom)} (hne : rs ≠ [])
    (h : ∀ x, rs.getLast? = some x → x.choices = [x]) : (ofChoices rs).choices = rs := by
  induction rs with
  | nil => exact absurd rfl hne
  | cons r rs ih =>
    cases rs with
    | nil => exact h r rfl
    | cons s rs => exact congrArg (r :: ·) (ih (List.cons_ne_nil s rs) fun x hx => h x hx)

theorem choices_ofSet (s : CharSet) : (ofSet s).choices = [ofSet s] := by
  unfold ofSet
  split <;> rfl

theorem choice_congr {rs ss : List (Regex Atom)} (h : rs.flatMap choices = ss.flatMap choices) :
    choice rs = choice ss := by
  rw [choice, choice, h]

theorem choice_alone {r : Regex Atom} (h : r.choices = [r]) : choice [r] = r := by
  simp [choice, h]

theorem choices_choice (rs : List (Regex Atom)) :
    (choice rs).choices = [choice rs] ∨ (choice rs).choices = rs.flatMap choices := by
  have hlast : ∀ x, (rs.flatMap choices).getLast? = some x → x.choices = [x] := fun _ =>
    flatMap_choices_getLast?
  unfold choice
  split
  · exact Or.inl rfl
  · next r heq => exact Or.inl (hlast r (by rw [heq]; rfl))
  · next hne _ =>
    split
    · exact Or.inl (choices_ofSet _)
    · exact Or.inl (choices_ofSet _)
    · exact Or.inr (choices_ofChoices hne hlast)

theorem choice_choice (rs : List (Regex Atom)) : choice [choice rs] = choice rs := by
  rcases choices_choice rs with h | h
  · exact choice_alone h
  · exact choice_congr (by simpa using h)

theorem choice_ne_empty {rs : List (Regex Atom)} (h : 1 < rs.length) : choice rs ≠ empty := by
  match rs, h with
  | r :: s :: rs, _ =>
    obtain ⟨x, xs, hx⟩ := List.exists_cons_of_ne_nil (choices_ne_nil r)
    obtain ⟨y, ys, hy⟩ := List.exists_cons_of_ne_nil (choices_ne_nil s)
    have hset : ∀ s, ofSet s ≠ empty := by
      intro s
      unfold ofSet
      split <;> nofun
    unfold choice
    split
    · nofun
    · next heq => simp [hx, hy] at heq
    · split
      · exact hset _
      · exact hset _
      · cases xs <;> simp [hx, hy, ofChoices]

theorem eq_of_joinTexts_eq {rs : List (Regex Atom)} {x : Regex Atom} (h : joinTexts rs = [x]) :
    rs = [x] ∨ ∃ s, x = atom (.literal s) := by
  cases rs with
  | nil => cases h
  | cons r rs =>
    unfold joinTexts at h
    split at h
    · cases h
      exact Or.inr ⟨_, rfl⟩
    · obtain ⟨rfl, hrest⟩ := List.cons.inj h
      cases rs with
      | nil => exact Or.inl rfl
      | cons s rs =>
        unfold joinTexts at hrest
        split at hrest <;> cases hrest

theorem choices_concat {rs : List (Regex Atom)}
    (h : ∀ x, rs.flatMap parts = [x] → x.choices = [x]) :
    (concat rs).choices = [concat rs] := by
  unfold concat
  match hjoin : joinTexts (rs.flatMap parts) with
  | [] => rfl
  | [x] =>
    rcases eq_of_joinTexts_eq hjoin with heq | ⟨s, rfl⟩
    · exact h x heq
    · rfl
  | x :: y :: zs => rfl

theorem parts_ne_nil {r : Regex Atom} (h : r ≠ empty) : r.parts ≠ [] := by
  cases r <;> simp_all [parts]

theorem alternation_alone {r : Regex Atom} (h : r.choices = [r]) : alternation [r] = r := by
  simp [alternation, choice_alone h, h]

/-- What an expression of a pattern has become is left as it is where it is a part of another. -/
theorem alternation_alternation {rs : List (Regex Atom)} (h : ∀ r ∈ rs, r.Full) :
    alternation [alternation rs] = alternation rs := by
  let all := (choice rs).choices
  let start := commonStart all
  by_cases hwhole : (all.length ≤ 1 || start.isEmpty) = true
  · have hchoice : ∀ ss, choice ss = choice rs → alternation ss = choice rs := fun ss hss => by
      dsimp only [alternation]
      rw [hss]
      exact if_pos hwhole
    rw [hchoice rs rfl, hchoice [choice rs] (choice_choice rs)]
  · simp only [Bool.or_eq_true, decide_eq_true_eq, not_or, List.isEmpty_iff] at hwhole
    obtain ⟨last, hlast, hparted⟩ :
        ∃ last, last ≠ empty ∧ alternation rs = concat (start ++ [last]) := by
      refine ⟨_, choice_ne_empty ?_, if_neg ?_⟩
      · rw [List.length_map]
        exact Nat.lt_of_not_le hwhole.1
      · simpa only [Bool.or_eq_true, decide_eq_true_eq, not_or, List.isEmpty_iff] using hwhole
    obtain ⟨x, xs, hstart⟩ := List.exists_cons_of_ne_nil hwhole.2
    have hx : x ≠ empty := by
      refine (Full.commonStart (full_choice h).choices x ?_).1
      show x ∈ start
      exact hstart ▸ List.mem_cons_self
    rw [hparted]
    -- Something stands before the last part, so that the whole is no choice.
    refine alternation_alone (choices_concat fun y hy => ?_)
    have hlen := congrArg List.length hy
    have := List.length_pos_iff.mpr (parts_ne_nil hx)
    have := List.length_pos_iff.mpr (parts_ne_nil hlast)
    simp only [hstart, List.cons_append, List.flatMap_cons, List.flatMap_append, List.flatMap_nil,
      List.append_nil, List.length_append, List.length_singleton] at hlen
    omega

theorem alternation_concat {rs : List (Regex Atom)} {a : Atom} (h : atom a ∈ rs) :
    alternation [concat rs] = concat rs := by
  refine alternation_alone (choices_concat fun x hx => ?_)
  have hmem : atom a ∈ rs.flatMap parts := List.mem_flatMap.mpr ⟨_, h, List.mem_singleton_self _⟩
  rw [hx, List.mem_singleton] at hmem
  rw [← hmem]
  rfl

def anchored (r : Regex Atom) : Regex Atom :=
  concat [atom (.look .start), concat [r, atom (.look .stop)]]

theorem spans_start {text : List Char} {i j : Nat} :
    (atom (.look .start)).Spans text i j ↔ i = 0 ∧ j = 0 := by
  simp only [Spans, Atom.Spans, Look.holds, Option.isNone_iff_eq_none, List.getLast?_eq_none_iff,
    ← List.length_eq_zero_iff, List.length_take]
  omega

theorem spans_stop {text : List Char} {i j : Nat} :
    (atom (.look .stop)).Spans text i j ↔ i = text.length ∧ j = text.length := by
  simp only [Spans, Atom.Spans, Look.holds, Option.isNone_iff_eq_none, List.head?_eq_none_iff,
    List.drop_eq_nil_iff]
  omega

end SheetTables.Regex
