import SheetTables.Pattern.Reader

/-! # Patterns that are alike up to a closing parenthesis

What is read up to a closing parenthesis does not depend on what follows it, nor does it matter
whether the parenthesis stands there or the pattern ends. Two patterns that are the same up to
such a place are read alike, as long as the reading leaves the parenthesis where it is: a comment
could run over it, and so could a bracketed set or a name. A reading is told as a chain of steps,
each of which is made in both patterns.
-/

namespace SheetTables.Pattern

def Closes (t : List Char) : Prop := ∀ c ∈ t.head?, c = ')'

theorem closes_cons (t : List Char) : Closes (')' :: t) := fun _ hc => (Option.some.inj hc).symm

/-- Texts that are the same up to a place where the first goes on with a closing parenthesis and
`u`, and the second with `t`. -/
inductive Alike (u t : List Char) : List Char → List Char → Prop
  | close : Alike u t (')' :: u) t
  | cons (c : Char) {s s' : List Char} : Alike u t s s' → Alike u t (c :: s) (c :: s')

/-- What is left of a text still has the closing parenthesis before `u` in it. -/
def Keeps (u r : List Char) : Prop := ')' :: u <:+ r

/-- A reader leaves `r` of the text `s`. If the parenthesis is kept, then what it did, which `P`
tells, is done with each text that is like `s`, and leaves what is like `r`. -/
structure Step (u t : List Char) (P : List Char → List Char → Prop) (s r : List Char) : Prop where
  suffix : r <:+ s
  alike : Keeps u r → ∀ s', Alike u t s s' → ∃ r', P s' r' ∧ Alike u t r r'

variable {u t s s' r : List Char}

theorem Keeps.trans (h : Keeps u r) (hr : r <:+ s) : Keeps u s :=
  List.IsSuffix.trans h hr

theorem not_keeps (h : s <:+ u) : ¬ Keeps u s := fun hk => by
  have hlong := List.IsSuffix.length_le hk
  have := h.length_le
  rw [List.length_cons] at hlong
  omega

namespace Alike

theorem append (w : List Char) : Alike u t (w ++ ')' :: u) (w ++ t) := by
  induction w with
  | nil => exact close
  | cons c w ih => exact cons c ih

theorem exists_append (h : Alike u t s s') : ∃ w, s = w ++ ')' :: u ∧ s' = w ++ t := by
  induction h with
  | close => exact ⟨[], rfl, rfl⟩
  | cons c _ ih =>
    obtain ⟨w, rfl, rfl⟩ := ih
    exact ⟨c :: w, rfl, rfl⟩

theorem length (h : Alike u t s s') : s'.length + (u.length + 1) = s.length + t.length := by
  obtain ⟨w, rfl, rfl⟩ := h.exists_append
  simp only [List.length_append, List.length_cons]
  omega

theorem isPrefix (ht : Closes t) (h : Alike u t s s') {w : List Char} (hw : ')' ∉ w) :
    w <+: s' ↔ w <+: s := by
  induction w generalizing s s' with
  | nil => simp
  | cons c w ih =>
    rw [List.mem_cons, not_or] at hw
    cases h with
    | close =>
      have hs : ¬ c :: w <+: ')' :: u := fun h => hw.1 (List.cons_prefix_cons.mp h).1.symm
      have hs' : ¬ c :: w <+: t := by
        rintro ⟨x, rfl⟩
        exact hw.1 (ht c rfl).symm
      exact iff_of_false hs' hs
    | cons d h => rw [List.cons_prefix_cons, List.cons_prefix_cons, ih h hw.2]

end Alike

theorem forall_fuel {least : Nat} {Q : Nat → Prop} (h : ∀ n, least ≤ n → Q (n + 1)) :
    ∀ n, least < n → Q n
  | 0, hn => absurd hn (Nat.not_lt_zero least)
  | n + 1, hn => h n (Nat.le_of_lt_succ hn)

namespace Step

variable {P Q : List Char → List Char → Prop} {k : List Char}

theorem imp (h : Step u t P s r) (hPQ : ∀ s' r', P s' r' → Q s' r') : Step u t Q s r :=
  ⟨h.suffix, fun hk s' hs => (h.alike hk s' hs).imp fun r' hr => ⟨hPQ s' r' hr.1, hr.2⟩⟩

theorem seq (h : Step u t P s k) (h' : Step u t Q k r) :
    Step u t (fun s' r' => ∃ k', P s' k' ∧ Q k' r') s r := by
  refine ⟨h'.suffix.trans h.suffix, fun hk s' hs => ?_⟩
  obtain ⟨k', hP, hs'⟩ := h.alike (hk.trans h'.suffix) s' hs
  obtain ⟨r', hQ, hr⟩ := h'.alike hk k' hs'
  exact ⟨r', ⟨k', hP, hQ⟩, hr⟩

theorem measured (h : Step u t P s r) :
    Step u t (fun s' r' => P s' r' ∧ s'.length + r.length = s.length + r'.length) s r := by
  refine ⟨h.suffix, fun hk s' hs => ?_⟩
  obtain ⟨r', hP, hr⟩ := h.alike hk s' hs
  refine ⟨r', ⟨hP, ?_⟩, hr⟩
  have := hs.length
  have := hr.length
  omega

theorem char (c : Char) (s : List Char) : Step u t (fun s' r' => s' = c :: r') (c :: s) s := by
  refine ⟨List.suffix_cons c s, fun hk s' h => ?_⟩
  cases h with
  | close => exact absurd hk (not_keeps (List.suffix_refl u))
  | cons _ h => exact ⟨_, rfl, h⟩

theorem stay (s : List Char) : Step u t (fun s' r' => s' = r') s s :=
  ⟨List.suffix_refl s, fun _ s' hs => ⟨s', rfl, hs⟩⟩

theorem word (w s : List Char) : Step u t (fun s' r' => s' = w ++ r') (w ++ s) s := by
  induction w with
  | nil => exact stay s
  | cons c w ih => exact ((char c (w ++ s)).seq ih).imp fun _ _ ⟨_, hc, hw⟩ => hc.trans (hw ▸ rfl)

theorem look {L : List Char → Prop} (h : ∀ s', Alike u t s s' → L s') :
    Step u t (fun s' r' => s' = r' ∧ L s') s s :=
  ⟨List.suffix_refl s, fun _ s' hs => ⟨s', ⟨rfl, h s' hs⟩, hs⟩⟩

theorem other {c : Char} (ht : Closes t) (hc : c ≠ ')') (h : ∀ x, s = c :: x → False) :
    Step u t (fun s' r' => s' = r' ∧ ∀ x, s' = c :: x → False) s s := by
  refine look fun s' hs x hx => ?_
  obtain ⟨y, rfl⟩ := (hs.isPrefix ht (w := [c]) (by simpa using hc.symm)).mp ⟨x, hx.symm⟩
  exact h y rfl

/-- A step that reads something, and what is done with the rest by a reader with less fuel. -/
theorem before {F G : Nat → List Char → List Char → Prop} (h : Step u t P s k)
    (hlt : k.length < s.length)
    (hrest : Step u t (fun s' r' => ∀ n, s'.length < n → F n s' r') k r)
    (hG : ∀ n s' k' r', s'.length ≤ n → P s' k' → F n k' r' → G (n + 1) s' r') :
    Step u t (fun s' r' => ∀ n, s'.length < n → G n s' r') s r := by
  refine (h.measured.seq hrest).imp ?_
  rintro s' r' ⟨k', ⟨hP, hlen⟩, hF⟩
  exact forall_fuel fun n hn => hG n s' k' r' hn hP (hF n (by omega))

end Step

theorem skipFrom_suffix (comment : Bool) (s : List Char) : skipFrom comment s <:+ s := by
  induction s generalizing comment with
  | nil => exact List.suffix_refl []
  | cons c s ih =>
    simp only [skipFrom]
    split
    · exact (ih _).trans (List.suffix_cons c s)
    · split
      · exact (ih _).trans (List.suffix_cons c s)
      · split
        · exact (ih _).trans (List.suffix_cons c s)
        · exact List.suffix_refl _

theorem length_lt_of_skip {extended : Bool} {c : Char} (h : skip extended s = c :: r) :
    r.length < s.length := by
  have := length_skip_le extended s
  rwa [h] at this

theorem skip_of_closes (extended : Bool) (ht : Closes t) : skip extended t = t := by
  cases t with
  | nil => cases extended <;> rfl
  | cons c t =>
    obtain rfl := ht c rfl
    cases extended <;> rfl

theorem Alike.skipFrom {comment : Bool} (ht : Closes t) (h : Alike u t s s')
    (hk : Keeps u (skipFrom comment s)) :
    Alike u t (skipFrom comment s) (Pattern.skipFrom comment s') := by
  induction h generalizing comment with
  | close =>
    cases comment with
    | true => exact absurd hk (not_keeps (skipFrom_suffix true u))
    | false =>
      have hstay : Pattern.skipFrom false t = t := skip_of_closes true ht
      rw [hstay]
      exact close
  | cons c h ih =>
    simp only [Pattern.skipFrom] at hk ⊢
    by_cases hcomment : comment
    · rw [if_pos hcomment] at hk
      rw [if_pos hcomment, if_pos hcomment]
      exact ih hk
    · simp only [if_neg hcomment] at hk ⊢
      by_cases hblank : isBlank c
      · simp only [if_pos hblank] at hk ⊢
        exact ih hk
      · simp only [if_neg hblank] at hk ⊢
        by_cases hmark : c = '#'
        · simp only [if_pos hmark] at hk ⊢
          exact ih hk
        · simp only [if_neg hmark]
          exact cons c h

theorem step_skip {extended : Bool} (ht : Closes t) (h : skip extended s = r) :
    Step u t (fun s' r' => skip extended s' = r') s r := by
  subst h
  cases extended with
  | true => exact ⟨skipFrom_suffix false s, fun hk s' hs => ⟨_, rfl, hs.skipFrom ht hk⟩⟩
  | false => exact .stay s

theorem step_next {extended : Bool} {c : Char} (ht : Closes t) (h : skip extended s = c :: r) :
    Step u t (fun s' r' => skip extended s' = c :: r') s r :=
  ((step_skip ht h).seq (.char c r)).imp fun _ _ ⟨_, hskip, hnext⟩ => hskip.trans hnext

theorem step_takeRun {extended : Bool} {p : Char → Bool} {run : List Char} (ht : Closes t)
    (h : takeRun extended p s = (run, r)) :
    Step u t (fun s' r' => takeRun extended p s' = (run, r')) s r := by
  fun_induction takeRun extended p s generalizing run with
  | case1 =>
    cases h
    exact ⟨List.suffix_refl [], fun _ _ hs => nomatch hs⟩
  | case2 c s hp run' rest heq ih =>
    cases h
    refine ((Step.char c s).seq ((step_skip ht rfl).seq (ih heq))).imp ?_
    rintro _ r' ⟨k, rfl, _, rfl, hrun⟩
    rw [takeRun, if_pos hp, hrun]
  | case3 c s hp =>
    cases h
    have hstop : ∀ d x, ¬ p d → takeRun extended p (d :: x) = ([], d :: x) := fun d x hd => by
      rw [takeRun, if_neg hd]
    refine ⟨List.suffix_refl _, fun _ s' hs => ?_⟩
    cases hs with
    | cons _ hs => exact ⟨_, hstop c _ hp, .cons c hs⟩
    | close =>
      refine ⟨t, ?_, .close⟩
      cases t with
      | nil => rw [takeRun]
      | cons d t =>
        obtain rfl := ht d rfl
        exact hstop _ t hp

theorem step_hexDigits? {extended : Bool} {n : Nat} {digits : List Char} (ht : Closes t)
    (h : hexDigits? extended n s = some (digits, r)) :
    Step u t (fun s' r' => hexDigits? extended n s' = some (digits, r')) s r := by
  induction n generalizing s digits with
  | zero =>
    cases h
    exact (Step.stay _).imp fun _ _ heq => heq ▸ rfl
  | succ n ih =>
    cases s with
    | nil => cases h
    | cons c s =>
      rw [hexDigits?] at h
      split at h
      · next hc =>
        obtain ⟨_, hrest, h⟩ := Option.map_eq_some_iff.mp h
        cases h
        refine ((Step.char c s).seq ((step_skip ht rfl).seq (ih hrest))).imp ?_
        rintro _ r' ⟨k, rfl, _, rfl, hdigits⟩
        rw [hexDigits?, if_pos hc, hdigits]
        rfl
      · cases h

theorem step_hexLiteral? {extended : Bool} {width : Nat} {l : Literal} (ht : Closes t)
    (h : hexLiteral? extended (width + 1) s = some (l, r)) :
    Step u t (fun s' r' => hexLiteral? extended (width + 1) s' = some (l, r')) s r := by
  rw [hexLiteral?] at h
  split at h
  · cases h
  · next rest hskip =>
    split at h
    · cases h
    · next digits rest' hne hrun =>
      obtain ⟨c, hc, h⟩ := Option.map_eq_some_iff.mp h
      cases h
      refine ((step_next ht hskip).seq ((step_skip ht rfl).seq ((step_takeRun ht hrun).seq
        ((Step.char _ rest').seq (step_skip ht rfl))))).imp ?_
      rintro s' r' ⟨k, hskip', _, rfl, _, hrun', _, rfl, rfl⟩
      cases digits with
      | nil => exact absurd rfl hne
      | cons d digits => simp only [hexLiteral?, hskip', hrun', hc, Option.map_some]
    · cases h
  · next hopen =>
    split at h
    · next digits rest hdigits =>
      obtain ⟨c, hc, h⟩ := Option.map_eq_some_iff.mp h
      cases h
      refine ((step_skip ht rfl).seq ((Step.other ht (by decide) hopen).seq
        (step_hexDigits? ht hdigits))).imp ?_
      rintro s' r' ⟨k, hskip', _, ⟨rfl, hopen'⟩, hdigits'⟩
      -- That the text neither ends nor opens braces here tells which case of the reader it is.
      have hne : k = [] → False := by
        rintro rfl
        cases hdigits'
      simp only [hexLiteral?, hskip', hdigits', hc, Option.map_some]
    · cases h

theorem step_property? {extended negated : Bool} {e : ClassExpr} (ht : Closes t)
    (h : property? extended negated s = some (e, r)) :
    Step u t (fun s' r' => property? extended negated s' = some (e, r')) s r := by
  rw [property?] at h
  split at h
  · cases h
  · next rest hskip =>
    split at h
    · next name d rest' hrun =>
      cases h
      refine ((step_next ht hskip).seq ((step_skip ht rfl).seq ((step_takeRun ht hrun).seq
        (Step.char d _)))).imp ?_
      rintro s' r' ⟨k, hskip', _, rfl, _, hrun', rfl⟩
      simp only [property?, hskip', hrun']
    · cases h
  · next c rest hopen hskip =>
    split at h
    · cases h
    · next hc =>
      cases h
      refine ((step_next ht hskip).seq (step_skip ht rfl)).imp ?_
      rintro s' r' ⟨k, hskip', rfl⟩
      rw [property?, hskip']
      split
      · next heq => cases heq
      · next heq =>
        cases heq
        exact (hopen rfl).elim
      · next heq =>
        cases heq
        rw [if_neg hc]

theorem exists_cons_of_takeRun {extended : Bool} {p : Char → Bool} {c : Char} {run : List Char}
    (h : takeRun extended p s = (c :: run, r)) : p c ∧ ∃ x, s = c :: x := by
  cases s with
  | nil =>
    rw [takeRun] at h
    cases h
  | cons d s =>
    rw [takeRun] at h
    split at h
    · next hd =>
      cases h
      exact ⟨hd, s, rfl⟩
    · cases h

def IsNamed (c : Char) : Prop := (c.isAlpha || c == '-') = true

theorem IsNamed.toNat {c : Char} (h : IsNamed c) :
    c.toNat = 45 ∨ (65 ≤ c.toNat ∧ c.toNat ≤ 90) ∨ (97 ≤ c.toNat ∧ c.toNat ≤ 122) := by
  have hmarks : (decide ('A' ≤ c ∧ c ≤ 'Z') || (decide ('a' ≤ c) && decide (c ≤ 'z')) ||
      c == '-') = true := h
  simp only [Bool.or_eq_true, Bool.and_eq_true, decide_eq_true_eq, beq_iff_eq] at hmarks
  rcases hmarks with (h | h) | rfl
  · exact Or.inr (Or.inl h)
  · exact Or.inr (Or.inr h)
  · exact Or.inl rfl

theorem IsNamed.not_isBlank {c : Char} (h : IsNamed c) : isBlank c = false := by
  have := h.toNat
  simp only [isBlank, Bool.or_eq_false_iff, Bool.and_eq_false_iff, decide_eq_false_iff_not,
    beq_eq_false_iff_ne]
  omega

theorem IsNamed.not_isDigit {c : Char} (h : IsNamed c) : c.isDigit = false := by
  have := h.toNat
  simp only [Char.isDigit, Bool.and_eq_false_iff, decide_eq_false_iff_not, ge_iff_le,
    UInt32.le_iff_toNat_le]
  show ¬ 48 ≤ c.toNat ∨ ¬ c.toNat ≤ 57
  omega

theorem exists_cons_of_bounds? {extended : Bool} {found : (Nat × Option Nat) × List Char}
    (h : bounds? extended s = some found) : ∃ c x, skip extended s = c :: x ∧ ¬ IsNamed c := by
  have hcount : (count? extended (skip extended s)).1 ≠ none := by
    intro hnone
    unfold bounds? at h
    split at h
    next least rest heq =>
    rw [heq] at hnone
    cases hnone
    cases h
  cases hskip : skip extended s with
  | nil => simp [hskip, count?, takeRun] at hcount
  | cons c x =>
    refine ⟨c, x, rfl, fun hc => ?_⟩
    simp [hskip, count?, takeRun, hc.not_isBlank, hc.not_isDigit] at hcount

/-- The escape of a word edge before an opening brace looks at what is in the braces. That may be
cut off in a text that is like it, unless the bounds of a repetition stand there. -/
theorem step_wordEdge? {extended : Bool} {a : Assertion} (ht : Closes t)
    (h : wordEdge? extended s = some (a, r)) :
    Step u t (fun s' r' => (∀ rest, r' = '\x7b' :: rest → (bounds? extended rest).isSome) →
      wordEdge? extended s' = some (a, r')) s r := by
  unfold wordEdge? at h
  dsimp only at h
  split at h
  · next rest =>
    split at h
    · cases h
    · next c inside hskip =>
      by_cases hc : (c.isAlpha || c == '-') = true
      · rw [if_pos hc] at h
        split at h
        · next name rest' hrun =>
          have hstep := (Step.char (u := u) (t := t) '\x7b' rest).seq
            ((step_skip ht hskip).seq ((step_takeRun ht hrun).seq (Step.char _ rest')))
          obtain ⟨run, rfl⟩ : ∃ run, name = c :: run := by
            rw [takeRun, if_pos hc] at hrun
            exact ⟨_, (congrArg Prod.fst hrun).symm⟩
          split at h
          all_goals cases h
          all_goals
            next hname =>
            refine hstep.imp ?_
            rintro s' r' ⟨_, rfl, _, hskip', _, hrun', rfl⟩ _
            obtain ⟨_, x, rfl⟩ := exists_cons_of_takeRun hrun'
            simp only [wordEdge?, hskip', if_pos hc, hrun', hname]
        · cases h
      · rw [if_neg hc] at h
        cases h
        refine ⟨List.suffix_refl _, fun _ s' hs => ⟨s', fun hbounds => ?_, hs⟩⟩
        obtain ⟨x, rfl⟩ := (hs.isPrefix ht (w := ['\x7b']) (by decide)).mpr ⟨rest, rfl⟩
        obtain ⟨found, hfound⟩ := Option.isSome_iff_exists.mp (hbounds x rfl)
        obtain ⟨d, y, hskip', hd⟩ := exists_cons_of_bounds? hfound
        simp only [List.singleton_append, wordEdge?, hskip']
        exact if_neg hd
  · next hbare =>
    cases h
    refine (Step.other ht (by decide) hbare).imp ?_
    rintro s' _ ⟨rfl, hbare'⟩ _
    simp only [wordEdge?]

theorem step_escape? {extended : Bool} {e : Primitive} (ht : Closes t)
    (h : escape? extended s = some (e, r)) :
    Step u t (fun s' r' => ((∃ a, e = .assertion a) →
        ∀ rest, r' = '\x7b' :: rest → (bounds? extended rest).isSome) →
      escape? extended s' = some (e, r')) s r := by
  cases s with
  | nil => cases h
  | cons c s =>
    simp only [escape?] at h
    split at h
    case h_24 =>
      split at h
      · next hc =>
        cases h
        refine (Step.char c _).imp ?_
        rintro _ r' rfl _
        rw [escape?]
        · rw [if_pos hc]
        all_goals assumption
      · cases h
    case h_1 | h_2 | h_3 =>
      obtain ⟨l, hl, h⟩ := Option.map_eq_some_iff.mp h
      cases h
      refine ((Step.char _ s).seq (step_hexLiteral? ht hl)).imp ?_
      rintro _ r' ⟨k, rfl, hl'⟩ _
      simp only [escape?, hl', Option.map_some]
    case h_4 | h_5 =>
      obtain ⟨l, hl, h⟩ := Option.map_eq_some_iff.mp h
      cases h
      refine ((Step.char _ s).seq (step_property? ht hl)).imp ?_
      rintro _ r' ⟨k, rfl, hl'⟩ _
      simp only [escape?, hl', Option.map_some]
    case h_20 =>
      obtain ⟨⟨a, _⟩, ha, h⟩ := Option.map_eq_some_iff.mp h
      cases h
      refine ((Step.char _ s).seq (step_wordEdge? ht ha)).imp ?_
      rintro _ r' ⟨k, rfl, ha'⟩ hbounds
      simp only [escape?, ha' (hbounds ⟨a, rfl⟩), Option.map_some]
    all_goals
      cases h
      refine (Step.char _ _).imp ?_
      rintro _ r' rfl _
      rfl

end SheetTables.Pattern
