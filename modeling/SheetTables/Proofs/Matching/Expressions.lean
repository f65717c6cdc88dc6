import SheetTables.Matching.Builder

/-! # Expressions of conditions

Steps that describe a matcher read as a nested expression: a step that opens a junction starts a
part of the innermost junction that is open, which takes in what follows up to the step that closes
it. Every list of steps is read, and in one way only. Nodes are numbered as they are made, the
root being zero.
-/

namespace SheetTables
namespace Matcher

variable {α : Type}

inductive Expression (α : Type) where
  | leaf (id : Nat) (test : α → Bool) (message : Option (α → String))
  | junction (id : Nat) (kind : Junction) (message : Option (α → String))
      (parts : List (Expression α))

namespace Expression

def id : Expression α → Nat
  | leaf id _ _ => id
  | junction id _ _ _ => id

def message : Expression α → Option (α → String)
  | leaf _ _ message => message
  | junction _ _ message _ => message

def parts : Expression α → List (Expression α)
  | leaf _ _ _ => []
  | junction _ _ _ parts => parts

mutual

/-- The value of an expression for a subject. -/
def holds (a : α) : Expression α → Bool
  | leaf _ test _ => test a
  | junction _ .and _ parts => allHold a parts
  | junction _ .or _ parts => anyHolds a parts

def allHold (a : α) : List (Expression α) → Bool
  | [] => true
  | e :: parts => e.holds a && allHold a parts

def anyHolds (a : α) : List (Expression α) → Bool
  | [] => false
  | e :: parts => e.holds a || anyHolds a parts

end

theorem allHold_eq_all (a : α) (parts : List (Expression α)) :
    allHold a parts = parts.all fun e => e.holds a := by
  induction parts with
  | nil => rfl
  | cons e parts ih => rw [allHold, ih, List.all_cons]

theorem anyHolds_eq_any (a : α) (parts : List (Expression α)) :
    anyHolds a parts = parts.any fun e => e.holds a := by
  induction parts with
  | nil => rfl
  | cons e parts ih => rw [anyHolds, ih, List.any_cons]

@[simp] theorem holds_leaf (a : α) (id : Nat) (test : α → Bool) (message : Option (α → String)) :
    (leaf id test message).holds a = test a := rfl

@[simp] theorem holds_and (a : α) (id : Nat) (message : Option (α → String))
    (parts : List (Expression α)) :
    (junction id .and message parts).holds a = parts.all fun e => e.holds a := by
  rw [holds, allHold_eq_all]

@[simp] theorem holds_or (a : α) (id : Nat) (message : Option (α → String))
    (parts : List (Expression α)) :
    (junction id .or message parts).holds a = parts.any fun e => e.holds a := by
  rw [holds, anyHolds_eq_any]

/-- The nodes on the way from an expression down to one of its nodes, both included. -/
inductive Path : Expression α → List (Expression α) → Expression α → Prop
  | here {e : Expression α} : Path e [e] e
  | part {e c n : Expression α} {p : List (Expression α)} (mem : c ∈ e.parts)
      (rest : Path c p n) : Path e (e :: p) n

end Expression

structure Pending (α : Type) where
  next : Nat
  steps : List (Step α)

structure Content (α : Type) where
  message : Option (α → String) := none
  parts : List (Expression α) := []

def Content.adding (e : Expression α) (c : Content α) : Content α :=
  { c with parts := e :: c.parts }

/-- The content of a junction of some kind, `nested` in another or the root, as it is read from the
steps after the one that opens it, with what is left once it is closed. A junction that is never
closed, such as the root, takes in all steps. -/
inductive Reads : Bool → Junction → Pending α → Content α → Pending α → Prop
  | ended {nested : Bool} {kind : Junction} {n : Nat} : Reads nested kind ⟨n, []⟩ {} ⟨n, []⟩
  | closed {kind : Junction} {n : Nat} {steps : List (Step α)} :
      Reads true kind ⟨n, .closing kind :: steps⟩ {} ⟨n, steps⟩
  | kept {nested : Bool} {kind k : Junction} {n : Nat} {steps : List (Step α)} {c : Content α}
      {q : Pending α} (other : nested = true → k ≠ kind)
      (rest : Reads nested kind ⟨n, steps⟩ c q) :
      Reads nested kind ⟨n, .closing k :: steps⟩ c q
  | leaf {nested : Bool} {kind : Junction} {n : Nat} {steps : List (Step α)} {c : Content α}
      {q : Pending α} {test : α → Bool} {message : Option (α → String)}
      (rest : Reads nested kind ⟨n + 1, steps⟩ c q) :
      Reads nested kind ⟨n, .leaf test message :: steps⟩ (c.adding (.leaf n test message)) q
  | opened {nested : Bool} {kind k : Junction} {n : Nat} {steps : List (Step α)}
      {inner c : Content α} {p q : Pending α} (junction : Reads true k ⟨n + 1, steps⟩ inner p)
      (rest : Reads nested kind p c q) :
      Reads nested kind ⟨n, .opening k :: steps⟩
        (c.adding (.junction n k inner.message inner.parts)) q
  | message {nested : Bool} {kind : Junction} {n : Nat} {steps : List (Step α)} {c : Content α}
      {q : Pending α} {text : α → String} (rest : Reads nested kind ⟨n, steps⟩ c q) :
      Reads nested kind ⟨n, .message text :: steps⟩
        { c with message := c.message.or (some text) } q
  | refused {nested : Bool} {kind : Junction} {n : Nat} {steps : List (Step α)} {c : Content α}
      {q : Pending α} {e : MatcherError} (rest : Reads nested kind ⟨n, steps⟩ c q) :
      Reads nested kind ⟨n, .refused e :: steps⟩ c q

def ReadsAs (root : Junction) (steps : List (Step α)) (e : Expression α) : Prop :=
  ∃ c q, Reads false root ⟨1, steps⟩ c q ∧ e = .junction 0 root c.message c.parts

theorem Reads.unique {nested : Bool} {kind : Junction} {p q q' : Pending α} {c c' : Content α}
    (h : Reads nested kind p c q) (h' : Reads nested kind p c' q') : c = c' ∧ q = q' := by
  induction h generalizing c' q' with
  | ended =>
    cases h'
    exact ⟨rfl, rfl⟩
  | closed =>
    cases h' with
    | closed => exact ⟨rfl, rfl⟩
    | kept other => exact absurd rfl (other rfl)
  | kept other _ ih =>
    cases h' with
    | closed => exact absurd rfl (other rfl)
    | kept _ rest => exact ih rest
  | leaf _ ih =>
    cases h' with
    | leaf rest =>
      obtain ⟨rfl, rfl⟩ := ih rest
      exact ⟨rfl, rfl⟩
  | opened _ _ ihj ih =>
    cases h' with
    | opened junction rest =>
      obtain ⟨rfl, rfl⟩ := ihj junction
      obtain ⟨rfl, rfl⟩ := ih rest
      exact ⟨rfl, rfl⟩
  | message _ ih =>
    cases h' with
    | message rest =>
      obtain ⟨rfl, rfl⟩ := ih rest
      exact ⟨rfl, rfl⟩
  | refused _ ih =>
    cases h' with
    | refused rest => exact ih rest

/-- Reading never fails: a junction inside leaves fewer steps for the one around it. -/
theorem exists_reads (nested : Bool) (kind : Junction) (p : Pending α) :
    ∃ c q, Reads nested kind p c q ∧ q.steps.length ≤ p.steps.length := by
  obtain ⟨n, steps⟩ := p
  induction hlen : steps.length using Nat.strongRecOn generalizing nested kind n steps with
  | _ length ih =>
    subst hlen
    cases steps with
    | nil => exact ⟨_, _, .ended, Nat.le_refl _⟩
    | cons step steps =>
      have hrest : ∀ m, ∃ c q, Reads nested kind ⟨m, steps⟩ c q ∧
          q.steps.length ≤ steps.length :=
        fun m => ih steps.length (Nat.lt_succ_self _) nested kind m steps rfl
      cases step with
      | leaf test message =>
        obtain ⟨c, q, h, hq⟩ := hrest (n + 1)
        exact ⟨_, q, .leaf h, Nat.le_succ_of_le hq⟩
      | refused e =>
        obtain ⟨c, q, h, hq⟩ := hrest n
        exact ⟨_, q, .refused h, Nat.le_succ_of_le hq⟩
      | message text =>
        obtain ⟨c, q, h, hq⟩ := hrest n
        exact ⟨_, q, .message h, Nat.le_succ_of_le hq⟩
      | closing k =>
        by_cases hk : nested = true ∧ k = kind
        · obtain ⟨rfl, rfl⟩ := hk
          exact ⟨_, _, .closed, Nat.le_succ _⟩
        · obtain ⟨c, q, h, hq⟩ := hrest n
          exact ⟨_, q, .kept (fun hn he => hk ⟨hn, he⟩) h, Nat.le_succ_of_le hq⟩
      | opening k =>
        obtain ⟨inner, p, hj, hp⟩ := ih steps.length (Nat.lt_succ_self _) true k (n + 1) steps rfl
        obtain ⟨c, q, h, hq⟩ :=
          ih p.steps.length (Nat.lt_succ_of_le hp) nested kind p.next p.steps rfl
        exact ⟨_, q, .opened hj h, Nat.le_succ_of_le (Nat.le_trans hq hp)⟩

theorem Reads.root_steps {kind : Junction} {p q : Pending α} {c : Content α}
    (h : Reads false kind p c q) : q.steps = [] := by
  generalize hn : false = nested at h
  induction h with
  | ended => rfl
  | closed => cases hn
  | kept _ _ ih => exact ih hn
  | leaf _ ih => exact ih hn
  | opened _ _ _ ih => exact ih hn
  | message _ ih => exact ih hn
  | refused _ ih => exact ih hn

theorem exists_readsAs (root : Junction) (steps : List (Step α)) :
    ∃ e, ReadsAs root steps e ∧ ∀ e', ReadsAs root steps e' → e' = e := by
  obtain ⟨c, q, h, _⟩ := exists_reads false root ⟨1, steps⟩
  refine ⟨_, ⟨c, q, h, rfl⟩, ?_⟩
  rintro e' ⟨c', q', h', rfl⟩
  obtain ⟨rfl, _⟩ := h.unique h'
  rfl

end Matcher
end SheetTables
