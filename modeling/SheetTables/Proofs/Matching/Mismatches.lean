import Mathlib.Data.List.Nodup
import SheetTables.Proofs.Matching.Reading

/-! # Mismatches

Where a subject fails an expression and what is said of it. From the root the failure goes down, at
a junction of all to the first part that fails and at a junction of one to the last part, until it
comes to a leaf. The nearest node with a message speaks for it, on the way from the leaf back up to
the root; and so for every node, in whatever order messages were set and parts added.
-/

namespace SheetTables
namespace Matcher

variable {α : Type}

namespace Expression

/-- The part of a junction that a failure goes down to. -/
def culprit? (a : α) : Expression α → Option (Expression α)
  | leaf _ _ _ => none
  | junction _ .and _ parts => parts.find? fun e => !e.holds a
  | junction _ .or _ parts => parts.getLast?

/-- The way of a failure down to a leaf. -/
inductive Blames (a : α) : Expression α → List (Expression α) → Expression α → Prop
  | leaf {id : Nat} {test : α → Bool} {message : Option (α → String)} :
      Blames a (leaf id test message) [leaf id test message] (leaf id test message)
  | part {e c n : Expression α} {p : List (Expression α)} (culprit : e.culprit? a = some c)
      (rest : Blames a c p n) : Blames a e (e :: p) n

/-- The node that speaks for the last of the nodes on a way down from the root. -/
def speaker? (p : List (Expression α)) : Option (Expression α) :=
  p.reverse.find? fun e => e.message.isSome

theorem culprit?_mem {a : α} {e c : Expression α} (h : e.culprit? a = some c) : c ∈ e.parts := by
  cases e with
  | leaf id test message => cases h
  | junction id kind message parts =>
    cases kind with
    | and => exact List.mem_of_find?_eq_some h
    | or => exact List.mem_of_getLast? h

theorem Blames.path {a : α} {e n : Expression α} {p : List (Expression α)} (h : Blames a e p n) :
    e.Path p n := by
  induction h with
  | leaf => exact .here
  | part culprit _ ih => exact .part (culprit?_mem culprit) ih

theorem Blames.unique {a : α} {e n n' : Expression α} {p p' : List (Expression α)}
    (h : Blames a e p n) (h' : Blames a e p' n') : p = p' ∧ n = n' := by
  induction h generalizing p' n' with
  | leaf =>
    cases h' with
    | leaf => exact ⟨rfl, rfl⟩
    | part culprit => cases culprit
  | part culprit _ ih =>
    cases h' with
    | leaf => cases culprit
    | part culprit' rest =>
      obtain rfl := Option.some.inj (culprit.symm.trans culprit')
      obtain ⟨rfl, rfl⟩ := ih rest
      exact ⟨rfl, rfl⟩

theorem exists_culprit {a : α} {id : Nat} {kind : Junction} {message : Option (α → String)}
    {parts : List (Expression α)} (hparts : parts ≠ [])
    (h : (junction id kind message parts).holds a = false) :
    ∃ c, (junction id kind message parts).culprit? a = some c := by
  cases kind with
  | and =>
    rw [holds_and, List.all_eq_false] at h
    rw [← Option.isSome_iff_exists, culprit?, List.find?_isSome]
    obtain ⟨e, he, hfails⟩ := h
    exact ⟨e, he, by simpa using hfails⟩
  | or => exact ⟨_, List.getLast?_eq_some_getLast hparts⟩

theorem speaker?_cons (e : Expression α) (p : List (Expression α)) :
    speaker? (e :: p) = (speaker? p).or (if e.message.isSome then some e else none) := by
  rw [speaker?, List.reverse_cons, List.find?_append, List.find?_singleton]
  rfl

def voice? (p : List (Expression α)) : Option (α → String) :=
  (speaker? p).bind Expression.message

theorem voice?_cons (e : Expression α) (p : List (Expression α)) :
    voice? (e :: p) = (voice? p).or e.message := by
  unfold voice?
  rw [speaker?_cons]
  cases hs : speaker? p with
  | none => cases he : e.message <;> simp [he]
  | some s =>
    have hsome : s.message.isSome :=
      List.find?_some (p := fun e : Expression α => e.message.isSome) hs
    obtain ⟨text, htext⟩ := Option.isSome_iff_exists.mp hsome
    simp [htext]

/-- A failure of an expression in a junction that speaks with some voice, as it is told. -/
def Told (a : α) (voice : Option (α → String)) (e : Expression α) (found : Option Mismatch) :
    Prop :=
  ∃ p id test message, Blames a e p (leaf id test message) ∧ test a = false ∧
    found = some ⟨id, ((voice? p).or voice).map (· a)⟩

theorem told_leaf {a : α} {voice message : Option (α → String)} {id : Nat} {test : α → Bool}
    (h : test a = false) :
    Told a voice (leaf id test message) (some ⟨id, (message.or voice).map (· a)⟩) := by
  refine ⟨_, id, test, message, .leaf, h, ?_⟩
  rw [voice?_cons]
  rfl

/-- A failure of a junction is that of the part it goes down to, told with the junction's voice. -/
theorem Told.of_culprit {a : α} {voice : Option (α → String)} {e c : Expression α}
    {found : Option Mismatch} (hc : e.culprit? a = some c)
    (h : Told a (e.message.or voice) c found) : Told a voice e found := by
  obtain ⟨p, id, test, message, hp, htest, hfound⟩ := h
  refine ⟨e :: p, id, test, message, .part hc hp, htest, ?_⟩
  rw [hfound, voice?_cons, Option.or_assoc]

end Expression

end Matcher

namespace Conditions

open Matcher Expression

variable {α : Type}

theorem told_goOn {kind : Junction} {n : Nat} {own voice : Option (α → String)} {a : α}
    {found : Option Mismatch} {here : Mismatch} {rest : Mismatch → Option Mismatch}
    {e c : Expression α} {es : List (Expression α)}
    (hnone : e.holds a = true → found = none) (hfound : e.holds a = false → Told a voice e found)
    (hend : es = [] → kind = .or → ∀ here, rest here = some here)
    (hrest : ∀ here c, (Expression.junction n kind own es).holds a = false →
      (Expression.junction n kind own es).culprit? a = some c → Told a voice c (rest here))
    (hfails : (Expression.junction n kind own (e :: es)).holds a = false)
    (hc : (Expression.junction n kind own (e :: es)).culprit? a = some c) :
    Told a voice c (goOn kind found here rest) := by
  cases kind with
  | and =>
    cases he : e.holds a with
    | false =>
      have hce : e = c := by simpa [culprit?, he] using hc
      subst hce
      obtain ⟨p, id, test, message, hp, htest, rfl⟩ := hfound he
      exact ⟨p, id, test, message, hp, htest, rfl⟩
    | true =>
      rw [hnone he]
      refine hrest here c ?_ ?_
      · simpa [he] using hfails
      · simpa [culprit?, he] using hc
  | or =>
    -- All parts have failed; each failure replaces the one before, so the last is what is told.
    rw [holds_or, List.any_cons, Bool.or_eq_false_iff] at hfails
    have htold := hfound hfails.1
    obtain ⟨_, _, _, _, _, _, rfl⟩ := hfound hfails.1
    cases es with
    | nil =>
      obtain rfl : e = c := by simpa [culprit?] using hc
      rw [goOn, hend rfl rfl]
      exact htold
    | cons e' es =>
      refine hrest _ c ?_ ?_
      · rw [holds_or, hfails.2]
      · simpa [culprit?] using hc

theorem failure_of_parts_eq_nil {cs : Conditions α} {id : Nat} (h : cs.parts id = [])
    (voice : Option (α → String)) (here : Mismatch) (a : α) :
    cs.failure .or voice here id a = some here := by
  cases cs with
  | nil => rfl
  | leaf => cases h
  | junction => cases h

theorem failure_told {cs : Conditions α} {kind : Junction} {voice own : Option (α → String)}
    {here : Mismatch} {id n : Nat} {a : α} {c : Expression α} (hcs : cs.childless? = none)
    (hfails : (Expression.junction n kind own (cs.parts id)).holds a = false)
    (hc : (Expression.junction n kind own (cs.parts id)).culprit? a = some c) :
    Told a voice c (cs.failure kind voice here id a) := by
  induction cs generalizing kind voice own here id n c with
  | nil => cases kind <;> cases hc
  | leaf test message rest ih =>
    rw [failure_leaf]
    refine told_goOn ?_ ?_ ?_ (fun here c => ih hcs) hfails hc
    · intro htest
      rw [holds_leaf] at htest
      rw [if_pos htest]
    · intro htest
      rw [holds_leaf] at htest
      rw [htest]
      exact told_leaf htest
    · rintro hnil rfl here
      exact failure_of_parts_eq_nil hnil voice here a
  | junction inner message children rest ihc ihr =>
    rw [childless?] at hcs
    split at hcs
    · cases hcs
    next hchildren =>
    obtain ⟨hcschildren, hcsrest⟩ := Option.or_eq_none_iff.mp hcs
    have hvalue := failure_isNone inner (message.or voice) ⟨id, (message.or voice).map (· a)⟩
      (id + 1) a children id message
    rw [failure_junction]
    refine told_goOn ?_ ?_ ?_ (fun here c => ihr hcsrest) hfails hc
    · intro hholds
      rw [hholds] at hvalue
      exact Option.isNone_iff_eq_none.mp hvalue
    · intro hfails
      obtain ⟨c, hc⟩ := exists_culprit (mt parts_eq_nil_iff.mp hchildren) hfails
      exact .of_culprit hc (ihc hcschildren hfails hc)
    · rintro hnil rfl here
      exact failure_of_parts_eq_nil hnil voice here a

theorem length_origins (parent : Nat) (source : Option Nat) (id : Nat) (cs : Conditions α) :
    (cs.origins parent source id).length = cs.size := by
  induction cs generalizing parent source id with
  | nil => rfl
  | leaf test message rest ih => rw [origins, List.length_cons, ih, size]
  | junction kind message children rest ihc ihr =>
    rw [origins, List.length_cons, List.length_append, ihc, ihr, size]

theorem map_speaker?_cons_or (e : Expression α) (p : List (Expression α)) (source : Option Nat) :
    ((speaker? (e :: p)).map Expression.id).or source =
      ((speaker? p).map Expression.id).or
        (if e.message.isSome then some e.id else source) := by
  rw [speaker?_cons, Option.map_or, Option.or_assoc]
  cases e.message <;> rfl

/-- The origin of a node stands where its number says, and names as source the node that speaks on
the way down, or else the one handed down to all. -/
theorem origins_source {cs : Conditions α} {id : Nat} {e n : Expression α}
    {p : List (Expression α)} (parent : Nat) (source : Option Nat) (he : e ∈ cs.parts id)
    (hp : e.Path p n) :
    ∃ i o, n.id = id + i ∧ (cs.origins parent source id)[i]? = some o ∧
      o.source = ((speaker? p).map Expression.id).or source := by
  induction cs generalizing parent source id e p n with
  | nil => cases he
  | leaf test message rest ih =>
    rcases List.mem_cons.mp he with rfl | he
    · cases hp with
      | here => exact ⟨0, _, rfl, rfl, by rw [map_speaker?_cons_or]; rfl⟩
      | part mem => cases mem
    · obtain ⟨i, o, hid, ho, hsource⟩ := ih parent source he hp
      exact ⟨i + 1, o, by omega, ho, hsource⟩
  | junction kind message children rest ihc ihr =>
    rcases List.mem_cons.mp he with rfl | he
    · cases hp with
      | here => exact ⟨0, _, rfl, rfl, by rw [map_speaker?_cons_or]; rfl⟩
      | part mem hp =>
        obtain ⟨i, o, hid, ho, hsource⟩ := ihc id _ mem hp
        -- The parts of the junction are told of the junction as their source, if it speaks.
        have hi := (List.getElem?_eq_some_iff.mp ho).1
        refine ⟨i + 1, o, by omega, ?_, ?_⟩
        · rw [origins, List.getElem?_cons_succ, List.getElem?_append_left hi, ho]
        · rw [map_speaker?_cons_or]
          exact hsource
    · obtain ⟨i, o, hid, ho, hsource⟩ := ihr parent source he hp
      refine ⟨children.size + i + 1, o, by omega, ?_, hsource⟩
      rw [origins, List.getElem?_cons_succ, List.getElem?_append_right (by simp [length_origins]),
        length_origins, Nat.add_sub_cancel_left, ho]

end Conditions

namespace Matcher

open Expression

variable {α : Type}

theorem mismatch?_told {m : Matcher α} {a : α}
    (hm : m.nodes.findSome? Expression.childless? = none) (h : m.test a = false) :
    Told a none m.expression (m.mismatch? a) := by
  rw [test_eq_holds] at h
  rw [nodes, List.findSome?_cons] at hm
  split at hm
  · cases hm
  next hroot =>
  have hparts : m.conditions.parts 1 ≠ [] := by
    intro hnil
    rw [expression, hnil] at hroot
    cases hroot
  obtain ⟨c, hc⟩ := exists_culprit hparts h
  refine .of_culprit hc ?_
  rw [Option.or_none]
  exact Conditions.failure_told ((m.conditions.childless?_eq 1).trans hm) h hc

theorem source?_eq {m : Matcher α} {p : List (Expression α)} {n : Expression α}
    (h : m.expression.Path p n) : m.source? n.id = (speaker? p).map Expression.id := by
  rw [← Option.or_none (o := (speaker? p).map Expression.id)]
  cases h with
  | here =>
    rw [Conditions.map_speaker?_cons_or]
    rfl
  | part mem rest =>
    rw [Conditions.map_speaker?_cons_or]
    obtain ⟨i, o, hid, ho, hsource⟩ := Conditions.origins_source 0
      (if m.message.isSome then some 0 else none) mem rest
    rw [source?, origins, hid, Nat.add_comm, List.getElem?_cons_succ, ho]
    exact hsource

/-- What a matcher says of a subject, in terms of the expression that it is. -/
structure Explains (m : Matcher α) (e : Expression α) : Prop where
  checked : ∀ a, m.mismatch? a = none ↔ m.test a = true
  value : ∀ a, m.test a = e.holds a
  blames : ∀ a, m.test a = false → ∃ p n, Blames a e p n
  blamed : ∀ a p n, m.test a = false → Blames a e p n → e.Path p n ∧
    (∃ test message, n = .leaf n.id test message ∧ test a = false) ∧
      m.mismatch? a = some ⟨n.id, (voice? p).map (· a)⟩
  numbered : ∀ id, id < m.size ↔ ∃ p n, e.Path p n ∧ n.id = id
  distinct : ∀ p n p' n', e.Path p n → e.Path p' n' → n.id = n'.id → n = n'
  sources : ∀ p n, e.Path p n → m.source? n.id = (speaker? p).map Expression.id

theorem explains {m : Matcher α} (hm : m.nodes.findSome? Expression.childless? = none) :
    Explains m m.expression where
  checked a := by rw [test, Option.isNone_iff_eq_none]
  value := m.test_eq_holds
  blames a h := by
    obtain ⟨p, id, test, message, hp, _⟩ := mismatch?_told hm h
    exact ⟨p, _, hp⟩
  blamed a p n h hp := by
    obtain ⟨p', id, test, message, hp', htest, hfound⟩ := mismatch?_told hm h
    obtain ⟨rfl, rfl⟩ := hp.unique hp'
    refine ⟨hp.path, ⟨test, message, rfl, htest⟩, ?_⟩
    rw [hfound, Option.or_none]
    rfl
  numbered id := by
    rw [← List.mem_range, ← nodes_ids, List.mem_map]
    constructor
    · rintro ⟨n, hn, hid⟩
      obtain ⟨p, hp⟩ := mem_nodes.mp hn
      exact ⟨p, n, hp, hid⟩
    · rintro ⟨p, n, hp, hid⟩
      exact ⟨n, mem_nodes.mpr ⟨p, hp⟩, hid⟩
  distinct p n p' n' hp hp' hid := by
    have hnodup : (m.nodes.map Expression.id).Nodup := m.nodes_ids ▸ List.nodup_range
    exact List.inj_on_of_nodup_map hnodup (mem_nodes.mpr ⟨p, hp⟩) (mem_nodes.mpr ⟨p', hp'⟩) hid
  sources p n h := source?_eq h

/-- A matcher that is built fails a subject at the leaf that the failure of its expression goes
down to, and says what the nearest node on the way back up says. The message of a junction in the
expression is the last that was set on it, before or after its parts. -/
theorem ofSteps_explains {root : Junction} {steps : List (Step α)} {m : Matcher α}
    (h : ofSteps root steps = .ok m) :
    ∃ e, ReadsAs root steps e ∧ (∀ e', ReadsAs root steps e' → e' = e) ∧ Explains m e := by
  obtain ⟨e, he, hunique⟩ := exists_readsAs root steps
  refine ⟨e, he, hunique, ?_⟩
  obtain ⟨m', rfl, hm'⟩ := ofSteps_eq he
  rw [h] at hm'
  split at hm'
  · cases hm'
  split at hm'
  · cases hm'
  next hnone =>
  cases hm'
  exact explains hnone

/-- The message of the junction of one is set after its part has been added. -/
def evenSteps : List (Step Int) :=
  [.opening .or, .opening .and, .leaf (0 < ·) none, .leaf (· % 2 == 0) none, .closing .and,
    .message fun _ => "must be positive and even", .closing .or]

def evenMatcher : Matcher Int where
  kind := .and
  message := none
  conditions := .junction .or (some fun _ => "must be positive and even")
    (.junction .and none (.leaf (0 < ·) none (.leaf (· % 2 == 0) none .nil)) .nil) .nil

theorem evenSteps_explains : ofSteps .and evenSteps = .ok evenMatcher ∧
    (∃ e, ReadsAs .and evenSteps e ∧ (∀ e', ReadsAs .and evenSteps e' → e' = e) ∧
      Explains evenMatcher e) ∧
    evenMatcher.mismatch? 3 = some ⟨4, some "must be positive and even"⟩ ∧
    evenMatcher.mismatch? 4 = none ∧
    (List.range 5).map evenMatcher.source? = [none, some 1, some 1, some 1, some 1] :=
  ⟨rfl, ofSteps_explains rfl, by decide, by decide, by decide⟩

end Matcher
end SheetTables
