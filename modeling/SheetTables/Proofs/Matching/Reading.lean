import SheetTables.Proofs.Matching.Expressions

/-! # Reading of steps

The matcher that steps build is the expression that they describe: it accepts the subjects for
which the expression has the value true. There is none where a pattern or script is refused or a
junction has got no part, and the first that was refused is named, or else the junction without
parts that was opened first.
-/

namespace SheetTables
namespace Matcher

open Conditions

variable {α : Type}

/-- What is wrong with a step by itself: a pattern or script that is none. -/
def Step.refusal? : Step α → Option MatcherError
  | .refused e => some e
  | _ => none

def Expression.childless? : Expression α → Option Junction
  | .junction _ kind _ [] => some kind
  | _ => none

theorem Expression.childless?_eq_some_iff {e : Expression α} {kind : Junction} :
    e.childless? = some kind ↔ ∃ id message, e = .junction id kind message [] := by
  cases e with
  | leaf id test message => simp [childless?]
  | junction id k message parts => cases parts <;> simp [childless?]

end Matcher

namespace Conditions

open Matcher

variable {α : Type}

/-- Conditions as parts of an expression, the first node being number `id`. -/
def parts (id : Nat) : Conditions α → List (Expression α)
  | nil => []
  | leaf test message rest => .leaf id test message :: rest.parts (id + 1)
  | junction kind message children rest =>
    .junction id kind message (children.parts (id + 1)) :: rest.parts (id + 1 + children.size)

def nodes (id : Nat) : Conditions α → List (Expression α)
  | nil => []
  | leaf test message rest => .leaf id test message :: rest.nodes (id + 1)
  | junction kind message children rest =>
    .junction id kind message (children.parts (id + 1)) ::
      (children.nodes (id + 1) ++ rest.nodes (id + 1 + children.size))

@[simp] theorem append_nil (cs : Conditions α) : cs.append nil = cs := by
  induction cs with
  | nil => rfl
  | leaf test message rest ih => rw [append, ih]
  | junction kind message children rest _ ih => rw [append, ih]

theorem append_assoc (as bs cs : Conditions α) :
    (as.append bs).append cs = as.append (bs.append cs) := by
  induction as with
  | nil => rfl
  | leaf test message rest ih => simp only [append, ih]
  | junction kind message children rest _ ih => simp only [append, ih]

theorem parts_eq_nil_iff {id : Nat} {cs : Conditions α} : cs.parts id = [] ↔ cs.isNil := by
  cases cs <;> simp [parts, isNil]

theorem nodes_ids (id : Nat) (cs : Conditions α) :
    (cs.nodes id).map Expression.id = List.range' id cs.size := by
  induction cs generalizing id with
  | nil => rfl
  | leaf test message rest ih =>
    rw [nodes, List.map_cons, ih, size, List.range'_succ]
    rfl
  | junction kind message children rest ihc ihr =>
    rw [nodes, List.map_cons, List.map_append, ihc, ihr, size, List.range'_succ,
      List.range'_append_1]
    rfl

theorem mem_nodes {id : Nat} {cs : Conditions α} {n : Expression α} :
    n ∈ cs.nodes id ↔ ∃ e ∈ cs.parts id, ∃ p, e.Path p n := by
  induction cs generalizing id with
  | nil => simp [nodes, parts]
  | leaf test message rest ih =>
    simp only [nodes, parts, List.mem_cons, ih, exists_eq_or_imp]
    refine or_congr_left ⟨?_, ?_⟩
    · rintro rfl
      exact ⟨_, .here⟩
    · rintro ⟨p, h⟩
      cases h with
      | here => rfl
      | part mem => cases mem
  | junction kind message children rest ihc ihr =>
    simp only [nodes, parts, List.mem_cons, List.mem_append, ihc, ihr, exists_eq_or_imp,
      ← or_assoc]
    refine or_congr_left ⟨?_, ?_⟩
    · rintro (rfl | ⟨e, he, p, h⟩)
      · exact ⟨_, .here⟩
      · exact ⟨_, .part he h⟩
    · rintro ⟨p, h⟩
      cases h with
      | here => exact Or.inl rfl
      | part mem rest => exact Or.inr ⟨_, mem, _, rest⟩

theorem childless?_eq (id : Nat) (cs : Conditions α) :
    cs.childless? = (cs.nodes id).findSome? Expression.childless? := by
  induction cs generalizing id with
  | nil => rfl
  | leaf test message rest ih =>
    rw [childless?, nodes, List.findSome?_cons, ih (id + 1)]
    rfl
  | junction kind message children rest ihc ihr =>
    rw [childless?, nodes, List.findSome?_cons, List.findSome?_append, ihc (id + 1),
      ihr (id + 1 + children.size)]
    cases children <;> rfl

/-- How a junction goes on after a child, given the failure of the child. -/
def goOn (kind : Junction) (found : Option Mismatch) (here : Mismatch)
    (rest : Mismatch → Option Mismatch) : Option Mismatch :=
  match kind, found with
  | .and, none => rest here
  | .and, some found => some found
  | .or, none => none
  | .or, some found => rest found

theorem failure_leaf (kind : Junction) (voice message : Option (α → String)) (here : Mismatch)
    (id : Nat) (a : α) (test : α → Bool) (rest : Conditions α) :
    (leaf test message rest).failure kind voice here id a =
      goOn kind (if test a then none else some ⟨id, (message.or voice).map (· a)⟩) here
        fun here => rest.failure kind voice here (id + 1) a := by
  cases kind <;> cases htest : test a <;> simp [failure, goOn, htest]

theorem failure_junction (kind inner : Junction) (voice message : Option (α → String))
    (here : Mismatch) (id : Nat) (a : α) (children rest : Conditions α) :
    (junction inner message children rest).failure kind voice here id a =
      goOn kind (children.failure inner (message.or voice) ⟨id, (message.or voice).map (· a)⟩
        (id + 1) a) here
        fun here => rest.failure kind voice here (id + 1 + children.size) a := by
  cases kind <;>
    cases h : children.failure inner (message.or voice) ⟨id, (message.or voice).map (· a)⟩
      (id + 1) a <;>
    simp [failure, goOn, h]

theorem goOn_isNone {kind : Junction} {found : Option Mismatch} {here : Mismatch}
    {rest : Mismatch → Option Mismatch} {a : α} {n : Nat} {message : Option (α → String)}
    {e : Expression α} {es : List (Expression α)} (hfound : found.isNone = e.holds a)
    (hrest : ∀ here, (rest here).isNone = (Expression.junction n kind message es).holds a) :
    (goOn kind found here rest).isNone =
      (Expression.junction n kind message (e :: es)).holds a := by
  cases kind with
  | and =>
    rw [Expression.holds_and] at hrest ⊢
    rw [List.all_cons, ← hfound, ← hrest here]
    cases found <;> rfl
  | or =>
    rw [Expression.holds_or] at hrest ⊢
    rw [List.any_cons, ← hfound]
    cases found with
    | none => rfl
    | some found => exact hrest found

theorem failure_isNone (kind : Junction) (voice : Option (α → String)) (here : Mismatch) (id : Nat)
    (a : α) (cs : Conditions α) (n : Nat) (message : Option (α → String)) :
    (cs.failure kind voice here id a).isNone =
      (Expression.junction n kind message (cs.parts id)).holds a := by
  induction cs generalizing kind voice here id n message with
  | nil => cases kind <;> rfl
  | leaf test own rest ih =>
    rw [failure_leaf]
    refine goOn_isNone ?_ fun here => ih kind voice here (id + 1) n message
    rw [Expression.holds_leaf]
    cases test a <;> rfl
  | junction inner own children rest ihc ihr =>
    rw [failure_junction]
    exact goOn_isNone (ihc inner (own.or voice) _ (id + 1) id own)
      fun here => ihr kind voice here _ n message

end Conditions

namespace Matcher

variable {α : Type}

def expression (m : Matcher α) : Expression α :=
  .junction 0 m.kind m.message (m.conditions.parts 1)

def nodes (m : Matcher α) : List (Expression α) :=
  m.expression :: m.conditions.nodes 1

theorem nodes_ids (m : Matcher α) : m.nodes.map Expression.id = List.range m.size := by
  rw [nodes, List.map_cons, Conditions.nodes_ids, size, List.range_eq_range', List.range'_succ]
  rfl

theorem mem_nodes {m : Matcher α} {n : Expression α} :
    n ∈ m.nodes ↔ ∃ p, m.expression.Path p n := by
  rw [nodes, List.mem_cons, Conditions.mem_nodes]
  constructor
  · rintro (rfl | ⟨e, he, p, h⟩)
    · exact ⟨_, .here⟩
    · exact ⟨_, .part he h⟩
  · rintro ⟨p, h⟩
    cases h with
    | here => exact Or.inl rfl
    | part mem rest => exact Or.inr ⟨_, mem, _, rest⟩

namespace OpenJunction

def filled (j : OpenJunction α) (message : Option (α → String)) (cs : Conditions α) :
    OpenJunction α :=
  { j with message := message.or j.message, children := j.children.append cs }

@[simp] theorem filled_none (j : OpenJunction α) : j.filled none .nil = j := by
  simp [filled]

theorem filled_addLeaf (j : OpenJunction α) (test : α → Bool)
    (own message : Option (α → String)) (cs : Conditions α) :
    (j.addLeaf test own).filled message cs = j.filled message (.leaf test own cs) := by
  simp [filled, addLeaf, Conditions.append_assoc, Conditions.append]

theorem filled_addJunction (j child : OpenJunction α) (message : Option (α → String))
    (cs : Conditions α) : (j.addJunction child).filled message cs =
      j.filled message (.junction child.kind child.message child.children cs) := by
  simp [filled, addJunction, Conditions.append_assoc, Conditions.append]

end OpenJunction

namespace Builder

def root (b : Builder α) : OpenJunction α := close b.current b.outer

/-- A builder in which `j`, the innermost of the open junctions, has been closed, unless it is the
root; `outer` are the others. -/
def Closes (outer : List (OpenJunction α)) (j : OpenJunction α) (b : Builder α) : Prop :=
  match outer with
  | [] => b.current = j ∧ b.outer = []
  | k :: outer => b.current = k.addJunction j ∧ b.outer = outer

theorem Closes.root {outer : List (OpenJunction α)} {j : OpenJunction α} {b : Builder α}
    (h : Closes outer j b) : b.root = close j outer := by
  cases outer with
  | nil => rw [Builder.root, h.1, h.2]
  | cons k outer =>
    rw [Builder.root, h.1, h.2]
    rfl

theorem exists_closes (outer : List (OpenJunction α)) (j : OpenJunction α) :
    ∃ b, Closes outer j b := by
  cases outer with
  | nil => exact ⟨⟨j, [], 1, none⟩, rfl, rfl⟩
  | cons k outer => exact ⟨⟨k.addJunction j, outer, 1, none⟩, rfl, rfl⟩

theorem step_closing {b : Builder α} (ho : b.outer ≠ []) :
    Closes b.outer b.current (b.step (.closing b.current.kind)) := by
  cases h : b.outer with
  | nil => exact absurd h ho
  | cons k outer => simp [Closes, step, h]

theorem step_closing_other {b : Builder α} {k : Junction}
    (h : b.outer ≠ [] → k ≠ b.current.kind) : b.step (.closing k) = b := by
  cases ho : b.outer with
  | nil => simp [step, ho]
  | cons j outer =>
    have hk : b.current.kind ≠ k := fun he => h (by simp [ho]) he.symm
    simp [step, ho, hk]

end Builder

open Builder in
/-- While the content of a junction is read, the builder fills the junction with it. -/
theorem Reads.foldl {nested : Bool} {kind : Junction} {p q : Pending α} {c : Content α}
    (h : Reads nested kind p c q) : ∃ cs : Conditions α,
      cs.parts p.next = c.parts ∧ q.next = p.next + cs.size ∧
        ∀ b : Builder α, b.current.kind = kind → (nested = true ↔ b.outer ≠ []) →
          ∃ b', Closes b.outer (b.current.filled c.message cs) b' ∧
            (p.steps.foldl step b).root = (q.steps.foldl step b').root := by
  -- What is compared is the root that comes of it all in the end: a junction that no step closes
  -- is closed only by then.
  induction h with
  | ended =>
    refine ⟨.nil, rfl, rfl, fun b _ _ => ?_⟩
    obtain ⟨b', hb'⟩ := exists_closes b.outer b.current
    exact ⟨b', by simpa using hb', hb'.root.symm⟩
  | closed =>
    refine ⟨.nil, rfl, rfl, fun b hk ho => ⟨_, ?_, rfl⟩⟩
    rw [OpenJunction.filled_none, ← hk]
    exact step_closing (ho.mp rfl)
  | kept other _ ih =>
    obtain ⟨cs, hparts, hnext, hfold⟩ := ih
    refine ⟨cs, hparts, hnext, fun b hk ho => ?_⟩
    rw [List.foldl_cons, step_closing_other fun hne => hk ▸ other (ho.mpr hne)]
    exact hfold b hk ho
  | @leaf _ _ n _ c _ test own _ ih =>
    obtain ⟨cs, hparts, hnext, hfold⟩ := ih
    refine ⟨.leaf test own cs, ?_, ?_, fun b hk ho => ?_⟩
    · rw [Conditions.parts, hparts]
      rfl
    · rw [hnext, Conditions.size, Nat.add_assoc, Nat.add_comm 1]
    · obtain ⟨b', hb', hroot⟩ := hfold (b.step (.leaf test own)) hk ho
      refine ⟨b', ?_, hroot⟩
      rw [← OpenJunction.filled_addLeaf]
      exact hb'
  | @opened _ _ k n _ inner c p _ _ _ ihj ih =>
    obtain ⟨js, hjs, hjnext, hjfold⟩ := ihj
    obtain ⟨cs, hparts, hnext, hfold⟩ := ih
    refine ⟨.junction k inner.message js cs, ?_, ?_, fun b hk ho => ?_⟩
    · rw [Conditions.parts, hjs, ← hjnext, hparts]
      rfl
    · rw [hnext, hjnext, Conditions.size]
      dsimp only
      omega
    -- The junction is filled and closed first; what follows fills the one around it.
    · obtain ⟨b₁, ⟨hcurrent, houter⟩, hroot₁⟩ :=
        hjfold (b.step (.opening k)) rfl (by simp [step])
      obtain ⟨b₂, hb₂, hroot₂⟩ := hfold b₁ (by rw [hcurrent]; exact hk) (by rwa [houter])
      refine ⟨b₂, ?_, hroot₁.trans hroot₂⟩
      have hinner : (b.step (.opening k)).current.filled inner.message js =
          ⟨b.count, k, inner.message, js⟩ := by
        simp [OpenJunction.filled, step, Conditions.append]
      rw [hcurrent, houter, hinner, OpenJunction.filled_addJunction] at hb₂
      exact hb₂
  | @message _ _ _ _ c _ text _ ih =>
    obtain ⟨cs, hparts, hnext, hfold⟩ := ih
    refine ⟨cs, hparts, hnext, fun b hk ho => ?_⟩
    obtain ⟨b', hb', hroot⟩ := hfold (b.step (.message text)) hk ho
    refine ⟨b', ?_, hroot⟩
    have hfilled : (b.step (.message text)).current.filled c.message cs =
        b.current.filled (c.message.or (some text)) cs := by
      simp [OpenJunction.filled, step]
    rw [← hfilled]
    exact hb'
  | @refused _ _ _ _ _ _ e _ ih =>
    obtain ⟨cs, hparts, hnext, hfold⟩ := ih
    exact ⟨cs, hparts, hnext, fun b hk ho => hfold (b.step (.refused e)) hk ho⟩

/-- What the builder of some steps comes to is the expression that they describe. -/
theorem ReadsAs.root {root : Junction} {steps : List (Step α)} {e : Expression α}
    (h : ReadsAs root steps e) : ∃ j : OpenJunction α,
      (steps.foldl Builder.step (Builder.ofRoot root)).root = j ∧
        (⟨j.kind, j.message, j.children⟩ : Matcher α).expression = e := by
  obtain ⟨c, q, h, rfl⟩ := h
  obtain ⟨cs, hparts, _, hfold⟩ := h.foldl
  obtain ⟨b, ⟨hcurrent, houter⟩, hroot⟩ := hfold (Builder.ofRoot root) rfl (by simp [Builder.ofRoot])
  refine ⟨_, rfl, ?_⟩
  rw [hroot, h.root_steps, List.foldl_nil, Builder.root, houter, hcurrent]
  simp [Builder.close, OpenJunction.filled, Builder.ofRoot, expression, Conditions.append, hparts]

theorem foldl_step_error (b : Builder α) (steps : List (Step α)) :
    (steps.foldl Builder.step b).error = b.error.or (steps.findSome? Step.refusal?) := by
  induction steps generalizing b with
  | nil => simp
  | cons step steps ih =>
    rw [List.foldl_cons, ih, List.findSome?_cons]
    cases step with
    | refused e => cases hb : b.error <;> simp [Builder.step, Step.refusal?, hb]
    | closing k =>
      have hstep : (b.step (.closing k)).error = b.error := by
        cases ho : b.outer with
        | nil => simp [Builder.step, ho]
        | cons j outer => by_cases hk : b.current.kind = k <;> simp [Builder.step, ho, hk]
      rw [hstep]
      rfl
    | _ => rfl

theorem ofSteps_eq {root : Junction} {steps : List (Step α)} {e : Expression α}
    (h : ReadsAs root steps e) : ∃ m : Matcher α, m.expression = e ∧ ofSteps root steps =
      match steps.findSome? Step.refusal? with
      | some err => .error err
      | none =>
        match m.nodes.findSome? Expression.childless? with
        | some kind => .error (.emptyJunction kind)
        | none => .ok m := by
  obtain ⟨j, hj, he⟩ := h.root
  refine ⟨_, he, ?_⟩
  have herror : (steps.foldl Builder.step (Builder.ofRoot root)).error =
      steps.findSome? Step.refusal? := foldl_step_error (Builder.ofRoot root) steps
  have hchildless : (⟨j.kind, j.message, j.children⟩ : Matcher α).nodes.findSome?
      Expression.childless? = if j.children.isNil then some j.kind else j.children.childless? := by
    rw [nodes, List.findSome?_cons, ← Conditions.childless?_eq]
    cases j.children <;> rfl
  unfold ofSteps Builder.build
  rw [herror, hchildless]
  subst hj
  rfl

theorem test_eq_holds (m : Matcher α) (a : α) : m.test a = m.expression.holds a :=
  Conditions.failure_isNone m.kind m.message _ 1 a m.conditions 0 m.message

/-- The junction without parts that was opened first is the first that is met. -/
theorem findSome?_childless {m : Matcher α} {p : List (Expression α)} {id : Nat}
    {kind : Junction} {message : Option (α → String)}
    (h : m.expression.Path p (.junction id kind message []))
    (hfirst : ∀ p' id' kind' message',
      m.expression.Path p' (.junction id' kind' message' []) → id ≤ id') :
    m.nodes.findSome? Expression.childless? = some kind := by
  have hsorted : m.nodes.Pairwise fun n n' => n.id < n'.id := by
    have hids : (m.nodes.map Expression.id).Pairwise (· < ·) :=
      m.nodes_ids ▸ List.pairwise_lt_range
    exact List.pairwise_map.mp hids
  obtain ⟨before, after, hsplit⟩ := List.append_of_mem (mem_nodes.mpr ⟨p, h⟩)
  -- A node without parts before it would have a smaller number.
  have hbefore : before.findSome? Expression.childless? = none := by
    refine List.findSome?_eq_none_iff.mpr fun n hn => Option.eq_none_iff_forall_ne_some.mpr ?_
    intro kind' hkind'
    obtain ⟨id', message', rfl⟩ := Expression.childless?_eq_some_iff.mp hkind'
    obtain ⟨p', hp'⟩ := mem_nodes.mp (hsplit ▸ List.mem_append_left _ hn)
    rw [hsplit] at hsorted
    have hlt : id' < id := (List.pairwise_append.mp hsorted).2.2 _ hn _ List.mem_cons_self
    exact absurd (hfirst p' id' kind' message' hp') (Nat.not_le_of_lt hlt)
  rw [hsplit, List.findSome?_append, hbefore]
  rfl

/-- The outcome of building a matcher from steps that describe an expression. -/
structure Builds (steps : List (Step α)) (e : Expression α)
    (outcome : Except MatcherError (Matcher α)) : Prop where
  accepted : (∃ m, outcome = .ok m) ↔ (∀ s ∈ steps, s.refusal? = none) ∧
    ∀ p id kind message parts, e.Path p (.junction id kind message parts) → parts ≠ []
  refused : ∀ err, steps.findSome? Step.refusal? = some err → outcome = .error err
  childless : steps.findSome? Step.refusal? = none →
    ∀ p id kind message, e.Path p (.junction id kind message []) →
      (∀ p' id' kind' message', e.Path p' (.junction id' kind' message' []) → id ≤ id') →
      outcome = .error (.emptyJunction kind)
  value : ∀ m, outcome = .ok m → ∀ a, m.test a = e.holds a

theorem ReadsAs.builds {root : Junction} {steps : List (Step α)} {e : Expression α}
    (h : ReadsAs root steps e) : Builds steps e (ofSteps root steps) := by
  obtain ⟨m, rfl, hm⟩ := ofSteps_eq h
  have hchildless : m.nodes.findSome? Expression.childless? = none ↔
      ∀ p id kind message parts, m.expression.Path p (.junction id kind message parts) →
        parts ≠ [] := by
    rw [List.findSome?_eq_none_iff]
    constructor
    · rintro hn p id kind message parts hp rfl
      cases hn _ (mem_nodes.mpr ⟨p, hp⟩)
    · intro hn n hmem
      refine Option.eq_none_iff_forall_ne_some.mpr fun kind hkind => ?_
      obtain ⟨id, message, rfl⟩ := Expression.childless?_eq_some_iff.mp hkind
      obtain ⟨p, hp⟩ := mem_nodes.mp hmem
      exact hn p id kind message [] hp rfl
  constructor
  · rw [hm, ← hchildless, ← List.findSome?_eq_none_iff]
    cases steps.findSome? Step.refusal? with
    | some err => simp
    | none => cases m.nodes.findSome? Expression.childless? <;> simp
  · intro err herr
    rw [hm, herr]
  · intro hnone p id kind message hp hfirst
    rw [hm, hnone, findSome?_childless hp hfirst]
  · intro m' hm' a
    rw [hm] at hm'
    split at hm'
    · cases hm'
    · split at hm'
      · cases hm'
      · cases hm'
        exact m.test_eq_holds a

end Matcher
end SheetTables
