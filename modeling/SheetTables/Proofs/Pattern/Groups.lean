import SheetTables.Pattern.Compile
import SheetTables.Proofs.Pattern.Alternatives
import SheetTables.Proofs.Pattern.Language
import SheetTables.Proofs.Pattern.NormalForms

/-! # Groups as they are read

The text in a group is read as it is read by itself, up to the first parenthesis that closes the
group. Where all of a pattern means something, so does what is read first, in the flags that hold
there. So the language of the reader is one in which parentheses pair and groups match what is in
them.
-/

namespace SheetTables
namespace Pattern

namespace Expr

/-- An expression that has no meaning unless another has one. -/
def Needs (e e' : Expr) : Prop :=
  ∀ f, (e.choices? f).isSome → (e'.choices? f).isSome

/-- Expressions that have meanings one after the other, each in the flags that the one before it
leaves. -/
def AllMean : List Expr → Flags → Prop
  | [], _ => True
  | e :: es, f => ∃ found, e.choices? f = some found ∧ AllMean es found.2

theorem allMean_singleton {e : Expr} {f : Flags} : AllMean [e] f ↔ (e.choices? f).isSome := by
  simp [AllMean, Option.isSome_iff_exists]

theorem allMean_concatenation {es : List Expr} {f : Flags} :
    ((concatenation es).choices? f).isSome ↔ AllMean es f := by
  induction es generalizing f with
  | nil => exact iff_of_true rfl trivial
  | cons e es ih =>
    cases es with
    | nil => exact allMean_singleton.symm
    | cons e' es =>
      have hcons : concatenation (e :: e' :: es) = .concat e (concatenation (e' :: es)) := rfl
      rw [hcons, choices?, AllMean]
      cases e.choices? f with
      | none => simp
      | some found =>
        simp only [Option.some.injEq, exists_eq_left', ← ih]
        cases (concatenation (e' :: es)).choices? found.2 <;> rfl

theorem allMean_alternation {es : List Expr} {f : Flags} :
    ((alternation es).choices? f).isSome ↔ AllMean es f := by
  induction es generalizing f with
  | nil => exact iff_of_true rfl trivial
  | cons e es ih =>
    cases es with
    | nil => exact allMean_singleton.symm
    | cons e' es =>
      have hcons : alternation (e :: e' :: es) = .alternate e (alternation (e' :: es)) := rfl
      rw [hcons, choices?, AllMean]
      cases e.choices? f with
      | none => simp
      | some found =>
        simp only [Option.some.injEq, exists_eq_left', ← ih]
        cases (alternation (e' :: es)).choices? found.2 <;> rfl

theorem AllMean.of_append {es ds : List Expr} {f : Flags} (h : AllMean (es ++ ds) f) :
    AllMean es f := by
  induction es generalizing f with
  | nil => trivial
  | cons e es ih =>
    obtain ⟨found, he, hrest⟩ := h
    exact ⟨found, he, ih hrest⟩

theorem AllMean.last {es : List Expr} {x y : Expr} {f : Flags} (h : AllMean (es ++ [x]) f)
    (hxy : x.Needs y) : AllMean (es ++ [y]) f := by
  induction es generalizing f with
  | nil => exact allMean_singleton.mpr (hxy f (allMean_singleton.mp h))
  | cons e es ih =>
    obtain ⟨found, he, hrest⟩ := h
    exact ⟨found, he, ih hrest⟩

/-- The expression read so far, by its alternatives and the parts of the present one. -/
def soFar (branches items : List Expr) : Expr :=
  alternation (branches.reverse ++ [concatenation items.reverse])

variable {e x : Expr} {branches items : List Expr}

theorem Needs.of_item (h : e.Needs (soFar branches (x :: items))) :
    e.Needs (soFar branches items) := by
  intro f hf
  refine allMean_alternation.mpr ((allMean_alternation.mp (h f hf)).last fun g hg => ?_)
  rw [List.reverse_cons] at hg
  exact allMean_concatenation.mpr (allMean_concatenation.mp hg).of_append

theorem Needs.of_branch (h : e.Needs (soFar (concatenation items.reverse :: branches) [])) :
    e.Needs (soFar branches items) := by
  intro f hf
  have hmean := allMean_alternation.mp (h f hf)
  rw [List.reverse_cons] at hmean
  exact allMean_alternation.mpr hmean.of_append

theorem needs_repeated (e : Expr) (least : Nat) (most : Option Nat) (greedy : Bool) :
    (repeated e least most greedy).Needs e := by
  intro f hf
  rw [choices?] at hf
  cases h : e.choices? f with
  | none => simp [h] at hf
  | some found => rfl

theorem Needs.of_repeat {least : Nat} {most : Option Nat} {greedy : Bool} {items' : List Expr}
    (hitems : repeatLast? items least most greedy = some items')
    (h : e.Needs (soFar branches items')) : e.Needs (soFar branches items) := by
  unfold repeatLast? at hitems
  split at hitems
  · cases hitems
  · cases hitems
  · cases hitems
  · cases hitems
    intro f hf
    refine allMean_alternation.mpr ((allMean_alternation.mp (h f hf)).last fun g hg => ?_)
    rw [List.reverse_cons] at hg ⊢
    exact allMean_concatenation.mpr
      ((allMean_concatenation.mp hg).last (needs_repeated _ _ _ _))

end Expr

theorem needs_of_alternatives? {fuel : Nat} {extended : Bool} {groups : List (Option String)}
    {branches items : List Expr} {s : List Char} {e : Expr} {rest : Progress}
    (h : alternatives? fuel extended groups branches items s = some (e, rest)) :
    e.Needs (.soFar branches items) := by
  induction fuel generalizing extended groups branches items s with
  | zero => cases h
  | succ fuel ih =>
    rw [alternatives?] at h
    dsimp only at h
    split at h
    case h_1 | h_2 =>
      cases h
      rw [List.reverse_cons]
      exact fun f hf => hf
    case h_3 => exact (ih h).of_branch
    case h_4 =>
      split at h
      · cases h
      · exact (ih h).of_item
      · split at h
        · exact (ih h).of_item
        · cases h
      · split at h
        · exact (ih h).of_item
        · cases h
      · split at h
        · cases h
        · split at h
          · exact (ih h).of_item
          · cases h
    case h_5 =>
      split at h
      · exact (ih h).of_item
      · cases h
    case h_6 | h_7 | h_8 =>
      split at h
      · next hitems => exact (ih h).of_repeat hitems
      · cases h
    case h_9 =>
      split at h
      · split at h
        · next hitems => exact (ih h).of_repeat hitems
        · cases h
      · cases h
    case h_10 =>
      split at h
      · exact (ih h).of_item
      · exact (ih h).of_item
      · exact (ih h).of_item
      · cases h
    case h_11 | h_12 | h_13 | h_14 => exact (ih h).of_item

/-- A pattern as an expression, however deep it nests. -/
def expr? (pattern : String) : Option Expr :=
  match alternatives? (pattern.toList.length + 1) false [] [] [] pattern.toList with
  | some (e, ⟨[], _⟩) => some e
  | _ => none

/-- What a pattern says, however large its machine is. -/
def meaning? (pattern : String) : Option (Regex Atom) :=
  (expr? pattern).bind fun e => (e.choices? {}).map fun found => .alternation found.1

theorem expr?_of_read? {pattern : String} {e : Expr} (h : read? pattern = some e) :
    expr? pattern = some e := by
  unfold read? at h
  dsimp only at h
  split at h
  · next e' _ hread =>
    have hexpr : expr? pattern = some e' := by rw [expr?, hread]
    split at h
    · rw [hexpr]
      exact h
    · cases h
  · cases h

theorem meaning?_of_compile? {pattern : String} {r : Regex Atom}
    (h : compile? pattern = some r) : meaning? pattern = some r := by
  unfold compile? at h
  split at h
  · cases h
  · next e hread =>
    split at h
    · next rs f hchoices =>
      dsimp only at h
      split at h
      · rw [meaning?, expr?_of_read? hread, Option.bind_some, hchoices]
        exact h
      · cases h
    · cases h

theorem meaning?_isSome {pattern : String} :
    (meaning? pattern).isSome ↔ ∃ e, expr? pattern = some e ∧ (e.choices? {}).isSome := by
  unfold meaning?
  cases expr? pattern <;> simp

/-- Up to a parenthesis right after it a text is read as an expression by itself. -/
def ReadsUpTo (text : List Char) (e : Expr) (groups : List (Option String)) : Prop :=
  alternatives? (text.length + 2) false [] [] [] (text ++ [')']) = some (e, ⟨[')'], groups⟩)

theorem alternatives?_replace {fuel n : Nat} {s u t : List Char} {e : Expr}
    {groups : List (Option String)} (ht : Closes t)
    (h : alternatives? fuel false [] [] [] (s ++ ')' :: u) = some (e, ⟨')' :: u, groups⟩))
    (hn : (s ++ t).length < n) :
    alternatives? n false [] [] [] (s ++ t) = some (e, ⟨t, groups⟩) := by
  obtain ⟨r', hr', halike⟩ :=
    (step_alternatives? ht h).alike (List.suffix_refl _) _ (.append s)
  obtain ⟨w, hw, rfl⟩ := halike.exists_append
  obtain rfl : w = [] := by simpa using congrArg List.length hw
  exact hr' n hn

theorem ReadsUpTo.alternatives? {text : List Char} {e : Expr} {groups : List (Option String)}
    (h : ReadsUpTo text e groups) (u : List Char) {n : Nat} (hn : text.length + u.length + 1 < n) :
    alternatives? n false [] [] [] (text ++ ')' :: u) = some (e, ⟨')' :: u, groups⟩) :=
  alternatives?_replace (closes_cons u) h (by rw [List.length_append, List.length_cons]; omega)

theorem ReadsUpTo.expr? {text : List Char} {e : Expr} {groups : List (Option String)}
    (h : ReadsUpTo text e groups) : expr? (String.ofList text) = some e := by
  have hread := alternatives?_replace (n := text.length + 1) (t := []) nofun h (by simp)
  rw [List.append_nil] at hread
  rw [Pattern.expr?, String.toList_ofList, hread]

/-- A pattern that is read as a whole has no parenthesis in it that closes a group it is in. -/
theorem not_readsUpTo_of_expr? {k b : List Char} {e e' : Expr} {groups : List (Option String)}
    (h : expr? (String.ofList (k ++ ')' :: b)) = some e) : ¬ ReadsUpTo k e' groups := by
  intro hgroup
  rw [expr?, String.toList_ofList, hgroup.alternatives? b (by simp)] at h
  cases h

theorem alternatives?_group (n : Nat) (items : List Expr) (s : List Char) :
    alternatives? (n + 1) false [] [] items ('(' :: '?' :: ':' :: s) =
      match alternatives? n false [] [] [] s with
      | some (e, ⟨')' :: rest, groups⟩) =>
        alternatives? n false groups [] (.group [] e :: items) rest
      | _ => none := rfl

/-- A group ends at the first parenthesis that closes it. -/
theorem exists_readsUpTo {n : Nat} {items : List Expr} {s : List Char} {found : Expr × Progress}
    (h : alternatives? (n + 1) false [] [] items ('(' :: '?' :: ':' :: s) = some found) :
    ∃ k tail e groups, s = k ++ ')' :: tail ∧ ReadsUpTo k e groups ∧
      alternatives? n false groups [] (.group [] e :: items) tail = some found := by
  rw [alternatives?_group] at h
  split at h
  · next e tail groups hbody =>
    obtain ⟨k, hk⟩ := (step_alternatives? (u := []) (t := []) nofun hbody).suffix
    rw [← hk] at hbody
    exact ⟨k, tail, e, groups, hk.symm,
      alternatives?_replace (closes_cons []) hbody (by simp), h⟩
  · cases h

theorem toList_group (p : String) :
    (group p).toList = '(' :: '?' :: ':' :: (p.toList ++ [')']) := by
  simp [group]

theorem readsUpTo_of_group {p : String} (hp : (meaning? p).isSome)
    (hg : (meaning? (group p)).isSome) :
    ∃ e groups, expr? p = some e ∧ ReadsUpTo p.toList e groups := by
  obtain ⟨e₀, hexpr, -⟩ := meaning?_isSome.mp hp
  obtain ⟨e₁, hgroup, -⟩ := meaning?_isSome.mp hg
  unfold expr? at hgroup
  split at hgroup
  · next hread =>
    rw [toList_group] at hread
    obtain ⟨k, tail, e, groups, hsplit, hk, -⟩ := exists_readsUpTo hread
    rcases closing_cases List.not_mem_nil hsplit with hpk | ⟨b, hb⟩
    · subst hpk
      have hown := hk.expr?
      rw [String.ofList_toList] at hown
      exact ⟨e, groups, hown, hk⟩
    · rw [← String.ofList_toList (s := p), hb] at hexpr
      exact absurd hk (not_readsUpTo_of_expr? hexpr)
  · cases hgroup

theorem expr?_group {p : String} {e : Expr} {groups : List (Option String)}
    (h : ReadsUpTo p.toList e groups) : expr? (group p) = some (.group [] e) := by
  have hbody := h.alternatives? [] (n := (group p).toList.length) (by simp [toList_group])
  have hread : alternatives? ((group p).toList.length + 1) false [] [] [] (group p).toList =
      some (.group [] e, ⟨[], groups⟩) := by
    rw [toList_group] at hbody ⊢
    rw [alternatives?_group, hbody]
    rfl
  rw [expr?, hread]

def Expr.whole (e : Expr) : Expr :=
  .concat (.assertion .lineStart) (.concat (.group [] e) (.assertion .lineStop))

theorem expr?_whole {p : String} {e : Expr} {groups : List (Option String)}
    (h : ReadsUpTo p.toList e groups) : expr? ("^" ++ group p ++ "$") = some e.whole := by
  have hlist : ("^" ++ group p ++ "$").toList =
      '^' :: '(' :: '?' :: ':' :: (p.toList ++ [')', '$']) := by
    simp [group]
  have hbody := h.alternatives? ['$'] (n := p.toList.length + 5) (by simp)
  have hread : alternatives? (("^" ++ group p ++ "$").toList.length + 1) false [] [] []
      ("^" ++ group p ++ "$").toList = some (e.whole, ⟨[], groups⟩) := by
    have hfuel : ('^' :: '(' :: '?' :: ':' :: (p.toList ++ [')', '$'])).length + 1 =
        p.toList.length + 5 + 1 + 1 := by
      simp
    have hstart : ∀ n s, alternatives? (n + 1) false [] [] [] ('^' :: s) =
        alternatives? n false [] [] [.assertion .lineStart] s := fun _ _ => rfl
    rw [hlist, hfuel, hstart, alternatives?_group, hbody]
    rfl
  rw [expr?, hread]

theorem choices?_group (e : Expr) : (Expr.group [] e).choices? {} =
    (e.choices? {}).map fun found => ([.alternation found.1], {}) := by
  rw [Expr.choices?, Flags.apply, List.foldl_nil]
  cases e.choices? {} <;> rfl

theorem meaning?_group {p : String} {e : Expr} {groups : List (Option String)}
    (h : ReadsUpTo p.toList e groups) : meaning? (group p) = meaning? p := by
  have hown := h.expr?
  rw [String.ofList_toList] at hown
  rw [meaning?, meaning?, expr?_group h, hown, Option.bind_some, Option.bind_some, choices?_group]
  cases hchoices : e.choices? {} with
  | none => rfl
  | some found =>
    exact congrArg some (Regex.alternation_alternation (Regex.full_of_choices? hchoices))

theorem meaning?_whole {p : String} {e : Expr} {groups : List (Option String)}
    (h : ReadsUpTo p.toList e groups) :
    meaning? ("^" ++ group p ++ "$") = (meaning? p).map Regex.anchored := by
  have hown := h.expr?
  rw [String.ofList_toList] at hown
  rw [meaning?, meaning?, expr?_whole h, hown, Option.bind_some, Option.bind_some]
  simp only [Expr.whole, Expr.choices?, Flags.apply, List.foldl_nil]
  cases hchoices : e.choices? {} with
  | none => rfl
  | some found =>
    have hlook : ∀ l, Regex.alternation [.atom (.look l)] = .atom (.look l) := fun _ =>
      Regex.alternation_alone rfl
    have hbody := Regex.alternation_alternation (Regex.full_of_choices? hchoices)
    have hstop : ∀ r, Regex.alternation [.concat [r, .atom (.look .stop)]] =
        .concat [r, .atom (.look .stop)] := fun r =>
      Regex.alternation_concat (List.mem_cons_of_mem r List.mem_cons_self)
    simp only [Option.map_some, Assertion.look, Bool.false_eq_true, if_false, hlook, hbody, hstop]
    exact congrArg some (Regex.alternation_concat List.mem_cons_self)

def language : PatternLanguage where
  WellWritten p := (meaning? p).isSome
  Matches p s i j := i ≤ s.length ∧ ∃ r, meaning? p = some r ∧ r.Spans s i j

theorem matches_iff {p : String} {r : Regex Atom} (h : meaning? p = some r) {s : List Char}
    {i j : Nat} : language.Matches p s i j ↔ i ≤ s.length ∧ r.Spans s i j := by
  simp [language, h]

theorem exists_closed {rest : String} (h : (meaning? ("^(?:" ++ rest)).isSome) :
    ∃ body tail, rest = body ++ ")" ++ tail ∧ language.Groups body := by
  obtain ⟨e, hexpr, hchoices⟩ := meaning?_isSome.mp h
  have hlist : ("^(?:" ++ rest).toList = '^' :: '(' :: '?' :: ':' :: rest.toList := by simp
  unfold expr? at hexpr
  rw [hlist] at hexpr
  split at hexpr
  · next groups hread =>
    cases hexpr
    obtain ⟨k, tail, body, inner, hsplit, hk, hrest⟩ := exists_readsUpTo hread
    -- What is read of the pattern first is the anchor and the group, so the group has a meaning.
    have hfirst := needs_of_alternatives? hrest {} hchoices
    have hbody : (body.choices? {}).isSome := by
      cases hnone : body.choices? {} with
      | none => simp [Expr.soFar, Expr.alternation, Expr.concatenation, Expr.choices?,
          Flags.apply, hnone] at hfirst
      | some found => rfl
    have hup : ReadsUpTo (String.ofList k).toList body inner := by rwa [String.toList_ofList]
    refine ⟨String.ofList k, String.ofList tail, ?_, ?_, ?_⟩
    · rw [← String.toList_inj, hsplit]
      simp
    · exact meaning?_isSome.mpr ⟨body, hk.expr?, hbody⟩
    · refine meaning?_isSome.mpr ⟨.group [] body, expr?_group hup, ?_⟩
      rw [choices?_group, Option.isSome_map]
      exact hbody
  · cases hexpr

theorem language_documented : language.Documented where
  compiled p test h := by
    obtain ⟨r, hr, -⟩ := Option.map_eq_some_iff.mp h
    exact Option.isSome_of_eq_some (meaning?_of_compile? hr)
  found p test h s := by
    obtain ⟨r, hr, rfl⟩ := Option.map_eq_some_iff.mp h
    simp only [matches_iff (meaning?_of_compile? hr), Regex.matchesIn_iff, exists_and_left]
  start s i j := by
    rw [matches_iff (r := .atom (.look .start)) rfl, Regex.spans_start]
    omega
  stop s i j := by
    rw [matches_iff (r := .atom (.look .stop)) rfl, Regex.spans_stop]
    omega
  group p hp s i j := by
    obtain ⟨e, groups, -, h⟩ := readsUpTo_of_group hp.1 hp.2
    simp only [language, meaning?_group h]
  concat p hp s i j := by
    obtain ⟨e, groups, -, h⟩ := readsUpTo_of_group hp.1 hp.2
    obtain ⟨r, hr⟩ := Option.isSome_iff_exists.mp hp.1
    have hgroup : meaning? (group p) = some r := (meaning?_group h).trans hr
    have hwhole : meaning? ("^" ++ group p ++ "$") = some r.anchored := by
      rw [meaning?_whole h, hr]
      rfl
    have hstart : meaning? "^" = some (.atom (.look .start)) := rfl
    have hstop : meaning? "$" = some (.atom (.look .stop)) := rfl
    simp only [matches_iff hgroup, matches_iff hwhole, matches_iff hstart, matches_iff hstop,
      Regex.anchored, Regex.spans_concat, Regex.SpansAll, Regex.spans_start, Regex.spans_stop]
    constructor
    · rintro ⟨_, _, ⟨rfl, rfl⟩, _, ⟨l, hr, _, ⟨rfl, rfl⟩, rfl⟩, rfl⟩
      exact ⟨0, s.length, by simp, ⟨Nat.zero_le _, hr⟩, by simp⟩
    · rintro ⟨_, l, ⟨hi, rfl, rfl⟩, ⟨_, hr⟩, -, rfl, rfl⟩
      exact ⟨hi, 0, ⟨rfl, rfl⟩, _, ⟨_, hr, _, ⟨rfl, rfl⟩, rfl⟩, rfl⟩
  closed rest := exists_closed
  unopened a b h ha := by
    obtain ⟨e, groups, -, hup⟩ := readsUpTo_of_group ha.1 ha.2
    obtain ⟨e', hexpr, -⟩ := meaning?_isSome.mp h
    have hsplit : a ++ ")" ++ b = String.ofList (a.toList ++ ')' :: b.toList) := by
      rw [← String.toList_inj]
      simp
    rw [hsplit] at hexpr
    exact not_readsUpTo_of_expr? hexpr hup

end Pattern
end SheetTables
