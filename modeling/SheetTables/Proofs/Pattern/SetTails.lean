import SheetTables.Proofs.Pattern.Tails

/-! # Bracketed sets in patterns that are alike

A bracketed set is read alike in patterns that are the same up to a closing parenthesis after it.
Inside the brackets the reader looks further ahead than elsewhere: for the end of a named set, and
past a dash. A set that does not end is refused, so that all it may see past the parenthesis comes
to nothing.
-/

namespace SheetTables.Pattern

variable {u t s s' r : List Char}

theorem step_setPrimitive? {extended : Bool} {e : Primitive} (ht : Closes t)
    (h : setPrimitive? extended s = some (e, r)) (he : ∀ a, e ≠ .assertion a) :
    Step u t (fun s' r' => setPrimitive? extended s' = some (e, r')) s r := by
  unfold setPrimitive? at h
  split at h
  · cases h
  · next s =>
    refine ((Step.char _ s).seq (step_escape? ht h)).imp ?_
    rintro _ r' ⟨k, rfl, h'⟩
    exact h' fun ⟨a, ha⟩ => absurd ha (he a)
  · next c s hc =>
    cases h
    refine (Step.char c _).imp ?_
    rintro _ r' rfl
    rw [setPrimitive?]
    exact hc

theorem length_lt_of_setPrimitive? {extended : Bool} {e : Primitive}
    (h : setPrimitive? extended s = some (e, r)) : r.length < s.length := by
  unfold setPrimitive? at h
  split at h
  · cases h
  · next s =>
    have hstep := step_escape? (u := []) (t := []) nofun h
    exact Nat.lt_succ_of_le hstep.suffix.length_le
  · cases h
    exact Nat.lt_succ_self _

/-- A mark that is neither blank nor begins a comment, other than a closing parenthesis. -/
def IsMark (c : Char) : Prop := isBlank c = false ∧ c ≠ '#' ∧ c ≠ ')'

theorem Alike.firstPast {marked : Bool} {c : Char} (ht : Closes t) (hc : IsMark c)
    (h : Alike u t s s') : firstPast marked s' = some c ↔ Pattern.firstPast marked s = some c := by
  have hclose : ∀ u, Pattern.firstPast marked (')' :: u) ≠ some c := fun u heq =>
    hc.2.2 (Option.some.inj (heq.symm.trans (by cases marked <;> rfl)))
  induction h generalizing marked with
  | close =>
    refine iff_of_false ?_ (hclose u)
    cases t with
    | nil => nofun
    | cons d t =>
      obtain rfl := ht d rfl
      exact hclose t
  | cons d h ih =>
    simp only [Pattern.firstPast]
    split
    · exact ih hclose
    · split
      · exact ih fun u heq => hc.2.2 (Option.some.inj (heq.symm.trans rfl))
      · exact Iff.rfl

theorem peekPast_eq_some {c : Char} (hc : IsMark c) :
    peekPast true s = some c ↔ firstPast false s = some c := by
  rw [peekPast, if_pos rfl]
  cases h : firstPast false s with
  | some d => simp
  | none =>
    refine iff_of_false (fun hhead => ?_) nofun
    obtain ⟨x, rfl⟩ : ∃ x, s = c :: x := List.head?_eq_some_iff.mp hhead
    simp [firstPast, hc.1, hc.2.1] at h

theorem Alike.head? {c : Char} (ht : Closes t) (hc : IsMark c) (h : Alike u t s s') :
    s'.head? = some c ↔ s.head? = some c := by
  cases h with
  | close => exact iff_of_false (fun h => hc.2.2 (ht c h)) fun h => hc.2.2 (Option.some.inj h).symm
  | cons _ _ => exact Iff.rfl

theorem Alike.peekPast {extended : Bool} {c : Char} (ht : Closes t) (hc : IsMark c)
    (h : Alike u t s s') :
    peekPast extended s' = some c ↔ Pattern.peekPast extended s = some c := by
  cases extended with
  | true => rw [peekPast_eq_some hc, peekPast_eq_some hc, h.firstPast ht hc]
  | false => exact h.head? ht hc

/-- What a single primitive is as a member of a set. -/
def Primitive.member? : Primitive → Option ClassExpr
  | .literal l => some (.literal l)
  | .set e => some e
  | .assertion _ => none

theorem member?_eq_some {first : Primitive} {e : ClassExpr} : (match first with
      | .literal l => some (ClassExpr.literal l, s)
      | .set e => some (e, s)
      | .assertion _ => none) = some (e, r) ↔ first.member? = some e ∧ s = r := by
  cases first <;> simp [Primitive.member?]

/-- After a dash that stands for itself, the set ends or another dash stands. -/
def DashAlone (extended : Bool) (after : List Char) : Prop :=
  peekPast extended after = some ']' ∨ peekPast extended after = some '-'

theorem Alike.dashAlone {extended : Bool} (ht : Closes t) (h : Alike u t s s') :
    DashAlone extended s' ↔ DashAlone extended s :=
  or_congr (h.peekPast ht ⟨rfl, by decide, by decide⟩) (h.peekPast ht ⟨rfl, by decide, by decide⟩)

theorem setItem?_eq_some {extended : Bool} {e : ClassExpr} :
    setItem? extended s = some (e, r) ↔ ∃ first rest, setPrimitive? extended s = some (first, rest) ∧
      (first.member? = some e ∧ skip extended rest = r ∧ r ≠ [] ∧
          (∀ after, r = '-' :: after → DashAlone extended after) ∨
        ∃ low high after, first = .literal low ∧ skip extended rest = '-' :: after ∧
          ¬ DashAlone extended after ∧
          setPrimitive? extended (skip extended after) = some (.literal high, r) ∧
          low.char ≤ high.char ∧ e = .range low high) := by
  constructor
  · intro h
    unfold setItem? at h
    split at h
    · cases h
    · next first rest hfirst =>
      refine ⟨first, rest, hfirst, ?_⟩
      dsimp only at h
      split at h
      · cases h
      · next after hskip =>
        split at h
        · next hpeek =>
          obtain ⟨hmember, rfl⟩ := member?_eq_some.mp h
          refine Or.inl ⟨hmember, rfl, by simp [hskip], fun after' heq => ?_⟩
          obtain rfl : after = after' := (List.cons.inj (hskip.symm.trans heq)).2
          exact hpeek
        · next hpeek =>
          split at h
          · next high rest' hhigh =>
            split at h
            · next low =>
              split at h
              · next hle =>
                cases h
                exact Or.inr ⟨low, high, after, rfl, hskip, hpeek, hhigh, hle, rfl⟩
              · cases h
            · cases h
          · cases h
      · next hne hrange =>
        obtain ⟨hmember, rfl⟩ := member?_eq_some.mp h
        exact Or.inl ⟨hmember, rfl, hne, fun after heq => (hrange after heq).elim⟩
  · rintro ⟨first, rest, hfirst, ⟨hmember, hskip, hne, hpeek⟩ |
      ⟨low, high, after, rfl, hskip, hpeek, hhigh, hle, rfl⟩⟩
    · have halone := member?_eq_some.mpr ⟨hmember, hskip⟩
      unfold setItem?
      rw [hfirst]
      dsimp only
      split
      · next heq => exact absurd (hskip.symm.trans heq) hne
      · next after heq =>
        refine (if_pos ?_).trans halone
        exact hpeek after (hskip.symm.trans heq)
      · exact halone
    · rw [DashAlone] at hpeek
      simp only [setItem?, hfirst, hskip, if_neg hpeek, hhigh, if_pos hle]

theorem not_assertion_of_member? {first : Primitive} {e : ClassExpr} (h : first.member? = some e)
    (a : Assertion) : first ≠ .assertion a := by
  rintro rfl
  cases h

theorem length_lt_of_setItem? {extended : Bool} {e : ClassExpr}
    (h : setItem? extended s = some (e, r)) : r.length < s.length := by
  obtain ⟨first, rest, hfirst, ⟨-, rfl, -, -⟩ |
    ⟨low, high, after, rfl, hskip, -, hhigh, -, -⟩⟩ := setItem?_eq_some.mp h
  · exact Nat.lt_of_le_of_lt (length_skip_le extended rest)
      (length_lt_of_setPrimitive? hfirst)
  · have := length_lt_of_setPrimitive? hfirst
    have := length_lt_of_skip hskip
    have := length_skip_le extended after
    have := length_lt_of_setPrimitive? hhigh
    omega

/-- A member before the end of a text is none, since the set is not closed there. -/
theorem step_setItem? {extended : Bool} {e : ClassExpr} (ht : Closes t)
    (h : setItem? extended s = some (e, r)) :
    Step u t (fun s' r' => r' ≠ [] → setItem? extended s' = some (e, r')) s r := by
  obtain ⟨first, rest, hfirst, ⟨hmember, hskip, _, hdash⟩ |
    ⟨low, high, after, rfl, hskip, hdash, hhigh, hle, rfl⟩⟩ := setItem?_eq_some.mp h
  · have hdash' : ∀ s', Alike u t r s' → ∀ after, s' = '-' :: after → DashAlone extended after := by
      rintro s' hs after rfl
      cases hs with
      | close => exact absurd (ht '-' rfl) (by decide)
      | cons _ hs => exact (hs.dashAlone ht).mpr (hdash _ rfl)
    refine ((step_setPrimitive? ht hfirst (not_assertion_of_member? hmember)).seq
      ((step_skip ht hskip).seq (.look hdash'))).imp ?_
    rintro s' r' ⟨_, hfirst', _, hskip', rfl, hdash'⟩ hne
    exact setItem?_eq_some.mpr ⟨_, _, hfirst', Or.inl ⟨hmember, hskip', hne, hdash'⟩⟩
  · refine ((step_setPrimitive? ht hfirst nofun).seq ((step_next ht hskip).seq
      ((Step.look fun s' hs => (not_congr (hs.dashAlone ht)).mpr hdash).seq
        ((step_skip ht rfl).seq (step_setPrimitive? ht hhigh nofun))))).imp ?_
    rintro s' r' ⟨_, hfirst', _, hskip', _, ⟨rfl, hdash'⟩, _, rfl, hhigh'⟩ _
    exact setItem?_eq_some.mpr
      ⟨_, _, hfirst', Or.inr ⟨low, high, _, rfl, hskip', hdash', hhigh', hle, rfl⟩⟩

theorem isAlpha_of_posixOfName? {name : String} {set : Posix} (h : posixOfName? name = some set) :
    name.toList ≠ [] ∧ ∀ c ∈ name.toList, c.isAlpha := by
  unfold posixOfName? at h
  split at h <;> cases h
  all_goals exact ⟨by decide, List.all_eq_true.mp (by decide)⟩

def posixText (negated : Bool) (name : List Char) : List Char :=
  (if negated then [':', '^'] else [':']) ++ name ++ [':', ']']

def namedSet? (negated : Bool) (s : List Char) : Option (ClassExpr × List Char) :=
  match posixOfName? (String.ofList (s.takeWhile (· != ':'))), s.dropWhile (· != ':') with
  | some set, ':' :: ']' :: rest => some (.posix set negated, rest)
  | _, _ => none

theorem posix?_colon (s : List Char) : posix? (':' :: s) =
    if s.head? = some '^' then namedSet? true s.tail else namedSet? false s := by
  cases s with
  | nil => rfl
  | cons c s =>
    by_cases hc : c = '^'
    · subst hc
      rfl
    · have hhead : ¬ (c :: s).head? = some '^' := fun h => hc (Option.some.inj h)
      rw [if_neg hhead, posix?]
      · rfl
      · exact fun rest heq => hc (List.cons.inj heq).1

theorem namedSet?_eq_some {negated : Bool} {e : ClassExpr} : namedSet? negated s = some (e, r) ↔
    ∃ name set, posixOfName? (String.ofList name) = some set ∧ e = .posix set negated ∧
      s = name ++ ':' :: ']' :: r := by
  constructor
  · intro h
    unfold namedSet? at h
    split at h
    · next set rest hset hrest =>
      cases h
      refine ⟨_, set, hset, rfl, ?_⟩
      rw [← hrest, List.takeWhile_append_dropWhile]
    · cases h
  · rintro ⟨name, set, hname, rfl, rfl⟩
    have halpha := (isAlpha_of_posixOfName? hname).2
    rw [String.toList_ofList] at halpha
    have hcolon : ∀ c ∈ name, (c != ':') = true := fun c hc => bne_iff_ne.mpr fun heq =>
      absurd (halpha c hc) (by rw [heq]; decide)
    rw [namedSet?, List.takeWhile_append_of_pos hcolon, List.dropWhile_append_of_pos hcolon]
    simp [hname]

theorem posix?_eq_some {e : ClassExpr} : posix? s = some (e, r) ↔
    ∃ negated name set, posixOfName? (String.ofList name) = some set ∧ e = .posix set negated ∧
      s = posixText negated name ++ r := by
  constructor
  · intro h
    cases s with
    | nil => cases h
    | cons c s =>
      obtain rfl : c = ':' := by
        unfold posix? at h
        split at h
        · next heq => exact (List.cons.inj heq).1
        · cases h
      rw [posix?_colon] at h
      split at h
      · next hcaret =>
        obtain ⟨name, set, hname, rfl, hs⟩ := namedSet?_eq_some.mp h
        obtain ⟨x, rfl⟩ := List.head?_eq_some_iff.mp hcaret
        exact ⟨true, name, set, hname, rfl, by simpa [posixText] using hs⟩
      · obtain ⟨name, set, hname, rfl, rfl⟩ := namedSet?_eq_some.mp h
        exact ⟨false, name, set, hname, rfl, by simp [posixText]⟩
  · rintro ⟨negated, name, set, hname, rfl, rfl⟩
    have hnamed : namedSet? negated (name ++ ':' :: ']' :: r) = some (.posix set negated, r) :=
      namedSet?_eq_some.mpr ⟨name, set, hname, rfl, rfl⟩
    cases negated with
    | true => simpa [posixText, posix?_colon] using hnamed
    | false =>
      obtain ⟨hne, halpha⟩ := isAlpha_of_posixOfName? hname
      rw [String.toList_ofList] at hne halpha
      obtain ⟨c, name, rfl⟩ := List.exists_cons_of_ne_nil hne
      have hc : c ≠ '^' := by
        rintro rfl
        exact absurd (halpha '^' List.mem_cons_self) (by decide)
      simpa [posixText, posix?_colon, hc] using hnamed

theorem not_mem_posixText {negated : Bool} {name : List Char} {set : Posix}
    (h : posixOfName? (String.ofList name) = some set) : ')' ∉ posixText negated name := by
  have halpha := (isAlpha_of_posixOfName? h).2
  rw [String.toList_ofList] at halpha
  have hname : ')' ∉ name := fun hmem => absurd (halpha ')' hmem) (by decide)
  cases negated <;> simp [posixText, hname]

theorem step_posix? {e : ClassExpr} (h : posix? s = some (e, r)) :
    Step u t (fun s' r' => posix? s' = some (e, r')) s r := by
  obtain ⟨negated, name, set, hname, rfl, rfl⟩ := posix?_eq_some.mp h
  refine (Step.word _ r).imp fun s' r' hs' => ?_
  exact posix?_eq_some.mpr ⟨negated, name, set, hname, rfl, hs'⟩

theorem Alike.posix?_eq_none (ht : Closes t) (h : Alike u t s s') (hs : posix? s = none) :
    posix? s' = none := by
  refine Option.eq_none_iff_forall_ne_some.mpr fun ⟨e, r'⟩ hs' => ?_
  obtain ⟨negated, name, set, hname, rfl, rfl⟩ := posix?_eq_some.mp hs'
  obtain ⟨r, rfl⟩ := (h.isPrefix ht (not_mem_posixText hname)).mp (List.prefix_append _ r')
  rw [posix?_eq_some.mpr ⟨negated, name, set, hname, rfl, rfl⟩] at hs
  cases hs

def caret (extended : Bool) (s : List Char) : Bool × List Char :=
  match skip extended s with
  | '^' :: rest => (true, skip extended rest)
  | rest => (false, rest)

theorem step_caret {extended negated : Bool} (ht : Closes t) (h : caret extended s = (negated, r)) :
    Step u t (fun s' r' => caret extended s' = (negated, r')) s r := by
  unfold caret at h
  split at h
  · next rest hskip =>
    cases h
    refine ((step_next ht hskip).seq (step_skip ht rfl)).imp ?_
    rintro s' r' ⟨_, hskip', rfl⟩
    simp only [caret, hskip']
  · next hbare =>
    cases h
    refine ((step_skip ht rfl).seq (.other ht (by decide) hbare)).imp ?_
    rintro s' r' ⟨_, hskip', rfl, hbare'⟩
    simp only [caret, hskip']

/-- Reads the members that an opening bracket brings with it: dashes, or a closing bracket. -/
def opened? (extended negated : Bool) (s : List Char) :
    Option (Bool × List ClassExpr × List Char) :=
  let (dashes, s) := takeRun extended (· == '-') s
  match dashes.map fun c => ClassExpr.literal ⟨c, false⟩, s with
  | _, [] => none
  | [], ']' :: rest =>
    match skip extended rest with
    | [] => none
    | rest => some (negated, [.literal ⟨']', false⟩], rest)
  | items, rest => some (negated, items, rest)

theorem openSet?_eq (extended : Bool) (s : List Char) :
    openSet? extended s = opened? extended (caret extended s).1 (caret extended s).2 := rfl

theorem step_opened? {extended negated negated' : Bool} {items : List ClassExpr} (ht : Closes t)
    (h : opened? extended negated s = some (negated', items, r)) :
    Step u t (fun s' r' => r' ≠ [] → opened? extended negated s' = some (negated', items, r'))
      s r := by
  unfold opened? at h
  generalize hrun : takeRun extended (· == '-') s = run at h
  obtain ⟨dashes, rest⟩ := run
  dsimp only at h
  split at h
  · cases h
  · next k hnone =>
    split at h
    · cases h
    · next hne =>
      cases h
      refine ((step_takeRun ht hrun).seq ((Step.char ']' k).seq (step_skip ht rfl))).imp ?_
      rintro s' r' ⟨_, hrun', _, rfl, rfl⟩ hne'
      simp only [opened?, hrun', hnone]
  · next hbare =>
    cases h
    have hbare' : ∀ s', Alike u t r s' →
        dashes.map (fun c => ClassExpr.literal ⟨c, false⟩) = [] → ¬ [']'] <+: s' :=
      fun s' hs hnone hpre =>
        let ⟨x, hx⟩ := (hs.isPrefix ht (by decide)).mp hpre
        hbare x hnone hx.symm
    refine ((step_takeRun ht hrun).seq (.look hbare')).imp ?_
    rintro s' r' ⟨_, hrun', rfl, hbare'⟩ hne'
    obtain ⟨c, k, rfl⟩ := List.exists_cons_of_ne_nil hne'
    simp only [opened?, hrun']
    split
    · next heq => cases heq
    · next hnone heq => exact absurd ⟨_, heq.symm⟩ (hbare' hnone)
    · rfl

theorem step_openSet? {extended negated : Bool} {items : List ClassExpr} (ht : Closes t)
    (h : openSet? extended s = some (negated, items, r)) :
    Step u t (fun s' r' => r' ≠ [] → openSet? extended s' = some (negated, items, r')) s r := by
  rw [openSet?_eq] at h
  obtain ⟨marked, k, hcaret⟩ : ∃ marked k, caret extended s = (marked, k) := ⟨_, _, rfl⟩
  rw [hcaret] at h
  refine ((step_caret ht hcaret).seq (step_opened? ht h)).imp ?_
  rintro s' r' ⟨_, hcaret', hopened'⟩ hne
  rw [openSet?_eq, hcaret', hopened' hne]

/-- What has a meaning of its own where a member of a set may stand. -/
def setMarks : List (List Char) := [['['], [']'], ['&', '&'], ['-', '-'], ['~', '~']]

theorem setBody?_item {extended : Bool} {fuel : Nat} {pending : Option (SetOperation × ClassExpr)}
    {items : List ClassExpr} (h : ∀ w ∈ setMarks, ¬ w <+: skip extended s) :
    setBody? extended (fuel + 1) pending items s =
      match setItem? extended (skip extended s) with
      | some (item, rest) => setBody? extended fuel pending (item :: items) rest
      | none => none := by
  have hmark : ∀ {k}, skip extended s = k → ∀ w ∈ setMarks, ¬ w <+: k := fun hk => hk ▸ h
  rw [setBody?]
  split
  · next hskip =>
    rw [hskip]
    rfl
  · next hskip => exact absurd ⟨_, rfl⟩ (hmark hskip ['['] (by decide))
  · next hskip => exact absurd ⟨_, rfl⟩ (hmark hskip [']'] (by decide))
  · next hskip => exact absurd ⟨_, rfl⟩ (hmark hskip ['&', '&'] (by decide))
  · next hskip => exact absurd ⟨_, rfl⟩ (hmark hskip ['-', '-'] (by decide))
  · next hskip => exact absurd ⟨_, rfl⟩ (hmark hskip ['~', '~'] (by decide))
  · rfl

theorem ne_nil_of_setBody? {extended : Bool} {fuel : Nat}
    {pending : Option (SetOperation × ClassExpr)} {items : List ClassExpr}
    {found : ClassExpr × List Char} (h : setBody? extended fuel pending items s = some found) :
    s ≠ [] := by
  rintro rfl
  cases fuel <;> cases extended <;> cases h

theorem step_setBody? {extended : Bool} {fuel : Nat} {pending : Option (SetOperation × ClassExpr)}
    {items : List ClassExpr} {e : ClassExpr} (ht : Closes t)
    (h : setBody? extended fuel pending items s = some (e, r)) :
    Step u t (fun s' r' => ∀ n, s'.length < n →
      setBody? extended n pending items s' = some (e, r')) s r := by
  induction fuel generalizing pending items s e r with
  | zero => cases h
  | succ fuel ih =>
    rw [setBody?] at h
    dsimp only at h
    split at h
    · cases h
    · next rest hskip =>
      have hlt := length_lt_of_skip hskip
      split at h
      · next item rest' hposix =>
        have hset := step_posix? (u := u) (t := t) hposix
        have := hset.suffix.length_le
        refine ((step_next ht hskip).seq hset).before (by omega) (ih h) ?_
        rintro n s' k' r' _ ⟨_, hskip', hposix'⟩ h'
        simp only [setBody?, hskip', hposix', h']
      · next hposix =>
        split at h
        · cases h
        · next negated first inside hopen =>
          split at h
          · cases h
          · next body rest' hbody =>
            have hset := step_openSet? (u := u) ht hopen
            have hinside := ih hbody
            have := hset.suffix.length_le
            have := hinside.suffix.length_le
            refine ((step_next ht hskip).seq ((Step.look fun _ hs =>
              hs.posix?_eq_none ht hposix).seq (hset.measured.seq hinside))).before
                (by omega) (ih h) ?_
            rintro n s' k' r' hn ⟨k₁, hskip', _, ⟨rfl, hposix'⟩, k₂, ⟨hopen', hlen⟩, hbody'⟩ h'
            have := length_lt_of_skip hskip'
            have hbody' := hbody' n (by omega)
            simp only [setBody?, hskip', hposix', hopen' (ne_nil_of_setBody? hbody'), hbody', h']
    · next rest hskip =>
      cases h
      refine (step_next ht hskip).imp fun s' r' hskip' => ?_
      exact forall_fuel fun n _ => by simp only [setBody?, hskip']
    case h_4 rest hskip | h_5 rest hskip | h_6 rest hskip =>
      have hlt := length_lt_of_skip hskip
      rw [List.length_cons] at hlt
      refine ((step_next ht hskip).seq (.char _ rest)).before (by omega) (ih h) ?_
      rintro n s' k' r' _ ⟨_, hskip', rfl⟩ h'
      simp only [setBody?, hskip', h']
    · next hset hclose hand hminus htilde =>
      have hmarks : ∀ w ∈ setMarks, ¬ w <+: skip extended s := by
        rintro w hw ⟨x, hx⟩
        simp only [setMarks, List.mem_cons, List.not_mem_nil, or_false] at hw
        rcases hw with rfl | rfl | rfl | rfl | rfl
        · exact hset x hx.symm
        · exact hclose x hx.symm
        · exact hand x hx.symm
        · exact hminus x hx.symm
        · exact htilde x hx.symm
      split at h
      · next item rest hitem =>
        have hstep := step_setItem? (u := u) ht hitem
        have := length_lt_of_setItem? hitem
        have := length_skip_le extended s
        have hplain : ∀ w ∈ setMarks, ')' ∉ w := by decide
        have hlook : ∀ s', Alike u t (skip extended s) s' → ∀ w ∈ setMarks, ¬ w <+: s' :=
          fun s' hs w hw hpre => hmarks w hw ((hs.isPrefix ht (hplain w hw)).mp hpre)
        refine ((step_skip ht rfl).seq ((Step.look hlook).seq hstep)).before
          (by omega) (ih h) ?_
        rintro n s' k' r' _ ⟨_, rfl, _, ⟨rfl, hmarks'⟩, hitem'⟩ h'
        rw [setBody?_item hmarks', hitem' (ne_nil_of_setBody? h')]
        exact h'
      · cases h

theorem step_set? {extended : Bool} {e : ClassExpr} (ht : Closes t)
    (h : set? extended s = some (e, r)) :
    Step u t (fun s' r' => set? extended s' = some (e, r')) s r := by
  unfold set? at h
  split at h
  · cases h
  · next negated first rest hopen =>
    obtain ⟨_, hbody, h⟩ := Option.map_eq_some_iff.mp h
    cases h
    refine ((step_openSet? ht hopen).seq (step_setBody? ht hbody)).imp ?_
    rintro s' r' ⟨k, hopen', hbody'⟩
    have hbody' := hbody' _ (Nat.lt_succ_self _)
    simp only [set?, hopen' (ne_nil_of_setBody? hbody'), hbody', Option.map_some]

end SheetTables.Pattern
