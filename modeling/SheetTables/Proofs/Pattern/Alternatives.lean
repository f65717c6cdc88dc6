import SheetTables.Proofs.Pattern.SetTails

/-! # Alternatives in patterns that are alike

The reader of alternatives stops at a closing parenthesis and at the end of a pattern. What it
returns depends on neither which of the two it is nor what follows, so that the text inside a group
can be read by itself.
-/

namespace SheetTables.Pattern

variable {u t s s' r : List Char}

theorem takeRun_false (p : Char → Bool) (s : List Char) :
    takeRun false p s = (s.takeWhile p, s.dropWhile p) := by
  induction s with
  | nil => rw [takeRun]; rfl
  | cons c s ih =>
    rw [takeRun]
    split
    · next hc => simp [hc, skip, ih]
    · next hc => simp [hc]

theorem step_dropWhile {p : Char → Bool} (ht : Closes t) (h : s.dropWhile p = r) :
    Step u t (fun s' r' => s'.dropWhile p = r') s r := by
  have hrun : takeRun false p s = (s.takeWhile p, r) := by rw [takeRun_false, h]
  refine (step_takeRun ht hrun).imp fun s' r' hs' => ?_
  rw [takeRun_false] at hs'
  exact congrArg Prod.snd hs'

theorem step_count? {extended : Bool} {n : Option Nat} (ht : Closes t)
    (h : count? extended s = (n, r)) :
    Step u t (fun s' r' => count? extended s' = (n, r')) s r := by
  obtain ⟨digits, rest, hdigits⟩ : ∃ digits rest,
      takeRun extended Char.isDigit (s.dropWhile isBlank) = (digits, rest) := ⟨_, _, rfl⟩
  obtain ⟨blanks, k, hblanks⟩ : ∃ blanks k, takeRun extended isBlank rest = (blanks, k) :=
    ⟨_, _, rfl⟩
  simp only [count?, hdigits, hblanks, Prod.mk.injEq] at h
  obtain ⟨hn, rfl⟩ := h
  refine ((step_dropWhile ht rfl).seq ((step_takeRun ht hdigits).seq
    (step_takeRun ht hblanks))).imp ?_
  rintro s' r' ⟨_, rfl, k, hdigits', hblanks'⟩
  simp only [count?, hdigits', hblanks', hn]

theorem step_bounds? {extended : Bool} {bounds : Nat × Option Nat} (ht : Closes t)
    (h : bounds? extended s = some (bounds, r)) :
    Step u t (fun s' r' => bounds? extended s' = some (bounds, r')) s r := by
  obtain ⟨n, k, hcount⟩ : ∃ n k, count? extended (skip extended s) = (n, k) := ⟨_, _, rfl⟩
  have hleast := (step_skip (u := u) ht rfl).seq (step_count? ht hcount)
  unfold bounds? at h
  rw [hcount] at h
  dsimp only at h
  split at h
  · next least rest =>
    split at h
    · next rest' hskip =>
      simp only [Option.all_none, if_true] at h
      cases h
      refine (hleast.seq ((Step.char ',' rest).seq ((step_next ht hskip).seq
        (step_skip ht rfl)))).imp ?_
      rintro s' r' ⟨_, ⟨_, rfl, hcount'⟩, k, rfl, _, hskip', rfl⟩
      simp only [bounds?, hcount', hskip', Option.all_none, if_true]
    · next hopen =>
      split at h
      · next most rest' hmost =>
        split at h
        · next rest'' =>
          split at h
          · next hle =>
            cases h
            refine (hleast.seq ((Step.char ',' rest).seq ((step_skip ht rfl).seq
              ((Step.other ht (by decide) hopen).seq ((step_count? ht hmost).seq
                ((Step.char _ _).seq (step_skip ht rfl))))))).imp ?_
            rintro s' r' ⟨_, ⟨_, rfl, hcount'⟩, k, rfl, _, hskip', _, ⟨rfl, hopen'⟩, _, hmost', _,
              rfl, rfl⟩
            simp only [bounds?, hcount', hskip', hmost', if_pos hle]
          · cases h
        · cases h
      · cases h
  · next least hcomma =>
    split at h
    · next rest' =>
      split at h
      · next hle =>
        cases h
        refine (hleast.seq ((Step.char _ rest').seq (step_skip ht rfl))).imp ?_
        rintro s' r' ⟨_, ⟨_, rfl, hcount'⟩, k, rfl, rfl⟩
        simp [bounds?, hcount']
      · cases h
    · cases h
  · cases h

theorem step_greed {greedy : Bool} (ht : Closes t) (h : greed s = (greedy, r)) :
    Step u t (fun s' r' => greed s' = (greedy, r')) s r := by
  unfold greed at h
  split at h
  · next s =>
    cases h
    refine (Step.char '?' _).imp ?_
    rintro _ r' rfl
    rfl
  · next hbare =>
    cases h
    refine (Step.other ht (by decide) hbare).imp ?_
    rintro s' _ ⟨rfl, hbare'⟩
    simp only [greed]

theorem step_flags? {negating dangling : Bool} {found switches : Switches} {c : Char}
    (h : flags? negating dangling found s = some (switches, c, r)) :
    Step u t (fun s' r' => flags? negating dangling found s' = some (switches, c, r')) s r := by
  induction s generalizing negating dangling found with
  | nil => cases h
  | cons d s ih =>
    simp only [flags?] at h
    split at h
    · next hend =>
      split at h
      · cases h
      · next hdangling =>
        cases h
        refine (Step.char c _).imp ?_
        rintro _ r' rfl
        rw [flags?, if_pos hend, if_neg hdangling]
    · next hend =>
      split at h
      · next hminus =>
        split at h
        · cases h
        · next hnegating =>
          refine ((Step.char d s).seq (ih h)).imp ?_
          rintro _ r' ⟨k, rfl, h'⟩
          rw [flags?, if_neg hend, if_pos hminus, if_neg hnegating, h']
      · next hminus =>
        split at h
        · cases h
        · next f hf =>
          split at h
          · cases h
          · next hnew =>
            refine ((Step.char d s).seq (ih h)).imp ?_
            rintro _ r' ⟨k, rfl, h'⟩
            simp only [flags?, if_neg hend, if_neg hminus, hf, if_neg hnew, h']

theorem step_groupName? {name : String} (ht : Closes t) (h : groupName? s = some (name, r)) :
    Step u t (fun s' r' => groupName? s' = some (name, r')) s r := by
  unfold groupName? at h
  split at h
  · next c run d rest hrun hrest =>
    split at h
    · next hvalid =>
      cases h
      have hname : takeRun false (· != '>') s = (c :: run, d :: r) := by
        rw [takeRun_false, hrun, hrest]
      refine ((step_takeRun ht hname).seq (Step.char d _)).imp ?_
      rintro s' r' ⟨_, hname', rfl⟩
      rw [takeRun_false, Prod.mk.injEq] at hname'
      simp only [groupName?, hname'.1, hname'.2, if_pos hvalid]
    · cases h
  · cases h

def Opening.ofSwitches? : Switches → Char → Option Opening
  | [], ')' => none
  | s, ')' => some (.switches s)
  | s, _ => some (.group s)

theorem opening?_flags {extended : Bool} {k : List Char} {switches : Switches} {c : Char}
    (hskip : skip extended s = '?' :: k)
    (hflags : flags? false false [] k = some (switches, c, r)) :
    opening? extended s = (Opening.ofSwitches? switches c).map (·, r) := by
  have hhead : ∀ d x, Flag.ofChar? d = none → d ≠ '-' → d ≠ ':' → d ≠ ')' → k = d :: x → False := by
    rintro d x hd hminus hcolon hclose rfl
    simp [flags?, hd, hminus, hcolon, hclose] at hflags
  unfold opening?
  split
  case h_7 rest _ _ _ _ _ _ heq =>
    obtain rfl : k = rest := (List.cons.inj (hskip.symm.trans heq)).2
    rw [hflags]
    by_cases hc : c = ')' <;> cases switches <;> simp [Opening.ofSwitches?, hc]
  case h_8 hbare => exact (hbare k hskip).elim
  all_goals
    next heq =>
    exact (hhead _ _ rfl (by decide) (by decide) (by decide)
      (List.cons.inj (hskip.symm.trans heq)).2).elim

theorem step_opening? {extended : Bool} {o : Opening} (ht : Closes t)
    (h : opening? extended s = some (o, r)) :
    Step u t (fun s' r' => opening? extended s' = some (o, r')) s r := by
  have hopening := h
  unfold opening? at h
  split at h
  case h_5 rest hskip =>
    obtain ⟨_, hname, h⟩ := Option.map_eq_some_iff.mp h
    cases h
    refine ((step_skip ht hskip).seq ((Step.word ['?', 'P', '<'] rest).seq
      (step_groupName? ht hname))).imp ?_
    rintro s' r' ⟨_, hskip', k, rfl, hname'⟩
    simp only [opening?, hskip', List.cons_append, List.nil_append, hname', Option.map_some]
  case h_6 rest hahead hbehind hskip =>
    obtain ⟨_, hname, h⟩ := Option.map_eq_some_iff.mp h
    cases h
    refine ((step_skip ht hskip).seq ((Step.word ['?', '<'] rest).seq
      ((Step.other ht (by decide) hahead).seq ((Step.other ht (by decide) hbehind).seq
        (step_groupName? ht hname))))).imp ?_
    rintro s' r' ⟨_, hskip', _, rfl, _, ⟨rfl, hahead'⟩, k, ⟨rfl, hbehind'⟩, hname'⟩
    simp only [opening?, hskip', List.cons_append, List.nil_append, hname', Option.map_some]
  case h_7 rest _ _ _ _ _ _ hskip =>
    cases hflags : flags? false false [] rest with
    | none =>
      rw [hflags] at h
      cases h
    | some found =>
      obtain ⟨switches, c, k⟩ := found
      rw [opening?_flags hskip hflags] at hopening
      obtain ⟨_, ho, hopening⟩ := Option.map_eq_some_iff.mp hopening
      cases hopening
      refine ((step_next ht hskip).seq (step_flags? hflags)).imp ?_
      rintro s' r' ⟨_, hskip', hflags'⟩
      rw [opening?_flags hskip' hflags', ho]
      rfl
  case h_8 hbare =>
    cases h
    refine ((step_skip ht rfl).seq (Step.other ht (by decide) hbare)).imp ?_
    rintro s' r' ⟨_, hskip', rfl, hbare'⟩
    rw [opening?, hskip']
    split
    all_goals first
      | rfl
      | exact (hbare' _ rfl).elim
  all_goals cases h

theorem alternatives?_of_closes {fuel : Nat} {extended : Bool} {groups : List (Option String)}
    {branches items : List Expr} (h : skip extended s = r) (hr : Closes r) :
    alternatives? (fuel + 1) extended groups branches items s =
      some (.alternation (.concatenation items.reverse :: branches).reverse, ⟨r, groups⟩) := by
  rw [alternatives?, h]
  cases r with
  | nil => rfl
  | cons c r =>
    obtain rfl := hr c rfl
    rfl

theorem isSome_bounds? {fuel : Nat} {extended : Bool} {groups : List (Option String)}
    {branches items : List Expr} {found : Expr × Progress}
    (h : alternatives? fuel extended groups branches items ('\x7b' :: s) = some found) :
    (bounds? extended s).isSome := by
  cases fuel with
  | zero => cases h
  | succ fuel =>
    have hskip : skip extended ('\x7b' :: s) = '\x7b' :: s := by cases extended <;> rfl
    cases hbounds : bounds? extended s with
    | some found => rfl
    | none =>
      rw [alternatives?, hskip] at h
      simp only [hbounds] at h
      cases h

/-- Alternatives that are read of a text are read of those like it, with fuel for their length. -/
def ReadAlike (u t : List Char) (extended : Bool) (groups : List (Option String))
    (branches items : List Expr) (e : Expr) (groups' : List (Option String))
    (s r : List Char) : Prop :=
  Step u t (fun s' r' => ∀ n, s'.length < n →
    alternatives? n extended groups branches items s' = some (e, ⟨r', groups'⟩)) s r

section Parts

variable {extended extended' : Bool} {groups groups' outer inner : List (Option String)}
  {branches branches' items items' : List Expr} {e inside item : Expr} {rest k after : List Char}

/-- A part is read by its first character and by what `P` tells of the rest of it. -/
theorem ReadAlike.part {P : List Char → List Char → Prop} {c : Char} (ht : Closes t)
    (hskip : skip extended s = c :: rest) (hpart : Step u t P rest k)
    (hrest : ReadAlike u t extended' outer branches' items' e groups' k r)
    (hread : ∀ n s' k₁ k₂ found, s'.length ≤ n → skip extended s' = c :: k₁ → P k₁ k₂ →
      alternatives? n extended' outer branches' items' k₂ = some found →
      alternatives? (n + 1) extended groups branches items s' = some found) :
    ReadAlike u t extended groups branches items e groups' s r := by
  have := length_lt_of_skip hskip
  have := hpart.suffix.length_le
  refine ((step_next ht hskip).seq hpart).before (by omega) hrest ?_
  rintro n s' k' r' hn ⟨k₁, hskip', hP⟩ h'
  exact hread n s' k₁ k' _ hn hskip' hP h'

theorem ReadAlike.group {o : Opening} (ht : Closes t) (hskip : skip extended s = '(' :: rest)
    (hopening : opening? extended rest = some (o, k))
    (hinside : ReadAlike u t extended' outer [] [] inside inner k (')' :: after))
    (hrest : ReadAlike u t extended inner branches (item :: items) e groups' after r)
    (hread : ∀ n s' k₁ k₂ k₃, skip extended s' = '(' :: k₁ → opening? extended k₁ = some (o, k₂) →
      alternatives? n extended' outer [] [] k₂ = some (inside, ⟨')' :: k₃, inner⟩) →
      alternatives? (n + 1) extended groups branches items s' =
        alternatives? n extended inner branches (item :: items) k₃) :
    ReadAlike u t extended groups branches items e groups' s r := by
  have hstep := step_opening? (u := u) ht hopening
  refine .part ht hskip (hstep.measured.seq (hinside.seq (.char ')' after))) hrest ?_
  rintro n s' k₁ k₃ found hn hskip' ⟨k₂, ⟨hopening', hlen⟩, _, hinside', rfl⟩ h'
  have := length_lt_of_skip hskip'
  have := hstep.suffix.length_le
  exact (hread n s' k₁ k₂ k₃ hskip' hopening' (hinside' n (by omega))).trans h'

/-- After the escape of a word edge, what is read next are the bounds of a repetition if a brace
stands there. -/
theorem ReadAlike.escape {p : Primitive} (ht : Closes t) (hskip : skip extended s = '\\' :: rest)
    (hp : escape? extended rest = some (p, k))
    (hrest : ReadAlike u t extended groups branches (item :: items) e groups' k r)
    (hread : ∀ n s' k₁ k₂, skip extended s' = '\\' :: k₁ → escape? extended k₁ = some (p, k₂) →
      alternatives? (n + 1) extended groups branches items s' =
        alternatives? n extended groups branches (item :: items) k₂) :
    ReadAlike u t extended groups branches items e groups' s r := by
  refine .part ht hskip (step_escape? ht hp) hrest ?_
  intro n s' k₁ k₂ found _ hskip' hp' h'
  refine (hread n s' k₁ k₂ hskip' (hp' fun _ x hx => ?_)).trans h'
  rw [hx] at h'
  exact isSome_bounds? h'

end Parts

/-- Alternatives before a closing parenthesis are read alike, whatever follows it. -/
theorem step_alternatives? {fuel : Nat} {extended : Bool} {groups groups' : List (Option String)}
    {branches items : List Expr} {e : Expr} (ht : Closes t)
    (h : alternatives? fuel extended groups branches items s = some (e, ⟨r, groups'⟩)) :
    ReadAlike u t extended groups branches items e groups' s r := by
  induction fuel generalizing extended groups groups' branches items s r e with
  | zero => cases h
  | succ fuel ih =>
    rw [alternatives?] at h
    dsimp only at h
    split at h
    case h_1 hskip =>
      cases h
      exact ⟨List.nil_suffix, fun hk => absurd hk (not_keeps List.nil_suffix)⟩
    case h_2 rest hskip =>
      cases h
      have hlook : ∀ s', Alike u t (')' :: rest) s' → Closes s' := by
        intro s' hs
        cases hs with
        | close => exact ht
        | cons _ _ => exact closes_cons _
      refine ((step_skip ht hskip).seq (.look hlook)).imp ?_
      rintro s' r' ⟨_, hskip', rfl, hcloses⟩
      exact forall_fuel fun n _ => alternatives?_of_closes hskip' hcloses
    case h_3 rest hskip | h_11 rest hskip | h_12 rest hskip | h_13 rest hskip =>
      refine .part ht hskip (.stay rest) (ih h) ?_
      rintro n s' k _ found _ hskip' rfl h'
      rw [alternatives?, hskip']
      exact h'
    case h_4 rest hskip =>
      split at h
      · cases h
      · next switches rest' hopening =>
        refine .part ht hskip (step_opening? ht hopening) (ih h) ?_
        intro n s' k₁ k₂ found _ hskip' hopening' h'
        rw [alternatives?, hskip']
        simp only [hopening', h']
      · next switches rest' hopening =>
        split at h
        · next hinside =>
          refine .group ht hskip hopening (ih hinside) (ih h) ?_
          intro n s' k₁ k₂ k₃ hskip' hopening' hinside'
          rw [alternatives?, hskip']
          simp only [hopening', hinside']
        · cases h
      · next rest' hopening =>
        split at h
        · next hinside =>
          refine .group ht hskip hopening (ih hinside) (ih h) ?_
          intro n s' k₁ k₂ k₃ hskip' hopening' hinside'
          rw [alternatives?, hskip']
          simp only [hopening', hinside']
        · cases h
      · next name rest' hopening =>
        split at h
        · cases h
        · next hnew =>
          split at h
          · next hinside =>
            refine .group ht hskip hopening (ih hinside) (ih h) ?_
            intro n s' k₁ k₂ k₃ hskip' hopening' hinside'
            rw [alternatives?, hskip']
            simp only [hopening', if_neg hnew, hinside']
          · cases h
    case h_5 rest hskip =>
      split at h
      · next set rest' hset =>
        refine .part ht hskip (step_set? ht hset) (ih h) ?_
        intro n s' k₁ k₂ found _ hskip' hset' h'
        rw [alternatives?, hskip']
        simp only [hset', h']
      · cases h
    case h_6 rest hskip | h_7 rest hskip | h_8 rest hskip =>
      obtain ⟨greedy, rest', hgreed⟩ : ∃ greedy rest', greed rest = (greedy, rest') := ⟨_, _, rfl⟩
      rw [hgreed] at h
      split at h
      · next items' hrepeat =>
        refine .part ht hskip (step_greed ht hgreed) (ih h) ?_
        intro n s' k₁ k₂ found _ hskip' hgreed' h'
        rw [alternatives?, hskip']
        simp only [hgreed', hrepeat, h']
      · cases h
    case h_9 rest hskip =>
      split at h
      · next least most rest' hbounds =>
        obtain ⟨greedy, rest'', hgreed⟩ : ∃ greedy rest'', greed rest' = (greedy, rest'') :=
          ⟨_, _, rfl⟩
        rw [hgreed] at h
        split at h
        · next items' hrepeat =>
          refine .part ht hskip ((step_bounds? ht hbounds).seq (step_greed ht hgreed)) (ih h) ?_
          rintro n s' k₁ k₂ found _ hskip' ⟨_, hbounds', hgreed'⟩ h'
          rw [alternatives?, hskip']
          simp only [hbounds', hgreed', hrepeat, h']
        · cases h
      · cases h
    case h_10 rest hskip =>
      split at h
      · next l rest' hl =>
        refine .escape ht hskip hl (ih h) fun n s' k₁ k₂ hskip' hl' => ?_
        rw [alternatives?, hskip']
        simp only [hl']
      · next a rest' ha =>
        refine .escape ht hskip ha (ih h) fun n s' k₁ k₂ hskip' ha' => ?_
        rw [alternatives?, hskip']
        simp only [ha']
      · next set rest' hset =>
        refine .escape ht hskip hset (ih h) fun n s' k₁ k₂ hskip' hset' => ?_
        rw [alternatives?, hskip']
        simp only [hset']
      · cases h
    case h_14 c rest _ _ _ _ _ _ _ _ _ _ _ _ hskip =>
      refine .part ht hskip (.stay rest) (ih h) ?_
      rintro n s' k _ found _ hskip' rfl h'
      rw [alternatives?, hskip']
      simp only [h']

end SheetTables.Pattern
