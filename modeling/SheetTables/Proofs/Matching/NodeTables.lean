import SheetTables.Matching.NodeTable
import SheetTables.Matching.Script
import SheetTables.Proofs.Matching.Mismatches

/-! # Tables of nodes and trees of conditions

A table of nodes lists the nodes of a tree, each before those below it, with the numbers of parents
and children in place of the branches. Every step that acts on the current junction of a table acts
on the innermost open junction of the tree alike. So the table that steps build is that of the tree
that they build; it fails a subject at the same node, and the same node speaks.
-/

namespace SheetTables

open Matcher

variable {α : Type}

namespace Conditions

def childIds (id : Nat) : Conditions α → List Nat
  | nil => []
  | leaf _ _ rest => id :: rest.childIds (id + 1)
  | junction _ _ children rest => id :: rest.childIds (id + 1 + children.size)

/-- The nodes of conditions as the rows of a table, from number `id` on. -/
def table (parent id : Nat) : Conditions α → List (Node α)
  | nil => []
  | leaf test message rest => ⟨.leaf test, some parent, message⟩ :: rest.table parent (id + 1)
  | junction kind message children rest =>
    ⟨.junction kind (children.childIds (id + 1)), some parent, message⟩ ::
      (children.table id (id + 1) ++ rest.table parent (id + 1 + children.size))

@[simp] theorem length_table (parent id : Nat) (cs : Conditions α) :
    (cs.table parent id).length = cs.size := by
  induction cs generalizing parent id with
  | nil => rfl
  | leaf test message rest ih => rw [table, List.length_cons, ih, size]
  | junction kind message children rest ihc ihr =>
    rw [table, List.length_cons, List.length_append, ihc, ihr, size]

@[simp] theorem size_append (cs ds : Conditions α) : (cs.append ds).size = cs.size + ds.size := by
  induction cs with
  | nil => simp [append, size]
  | leaf test message rest ih =>
    simp only [append, size, ih]
    omega
  | junction kind message children rest _ ih =>
    simp only [append, size, ih]
    omega

theorem childIds_append (id : Nat) (cs ds : Conditions α) :
    (cs.append ds).childIds id = cs.childIds id ++ ds.childIds (id + cs.size) := by
  induction cs generalizing id with
  | nil => rfl
  | leaf test message rest ih =>
    simp only [append, childIds, ih, List.cons_append, size]
    congr 3
    omega
  | junction kind message children rest _ ih =>
    simp only [append, childIds, ih, List.cons_append, size]
    congr 3
    omega

theorem table_append (parent id : Nat) (cs ds : Conditions α) :
    (cs.append ds).table parent id =
      cs.table parent id ++ ds.table parent (id + cs.size) := by
  induction cs generalizing id with
  | nil => rfl
  | leaf test message rest ih =>
    simp only [append, table, ih, List.cons_append, size]
    congr 3
    omega
  | junction kind message children rest _ ih =>
    simp only [append, table, ih, List.cons_append, List.append_assoc, size]
    congr 4
    omega

theorem findSome?_table (parent id : Nat) (cs : Conditions α) :
    (cs.table parent id).findSome? Node.childless? = cs.childless? := by
  induction cs generalizing parent id with
  | nil => rfl
  | leaf test message rest ih =>
    rw [table, List.findSome?_cons, ih]
    rfl
  | junction kind message children rest ihc ihr =>
    rw [table, List.findSome?_cons, List.findSome?_append, ihc, ihr]
    cases children <;> rfl

theorem map_parent_table (parent id : Nat) (source : Option Nat) (cs : Conditions α) :
    (cs.table parent id).map (·.parent) = (cs.origins parent source id).map (·.parent) := by
  induction cs generalizing parent source id with
  | nil => rfl
  | leaf test message rest ih => rw [table, List.map_cons, origins, List.map_cons, ih]
  | junction kind message children rest ihc ihr =>
    rw [table, List.map_cons, List.map_append, origins, List.map_cons, List.map_append, ihc, ihr]

/-- One pass over the rows finds the nodes that speak. -/
theorem foldl_source_table (cs : Conditions α) (parent id : Nat) (source : Option Nat)
    (sources : List (Option Nat)) (hid : sources.length = id) (hparent : parent < id)
    (hsource : sources[parent]?.join = source) :
    (cs.table parent id).foldl (fun sources n => sources ++ [n.source sources]) sources =
      sources ++ (cs.origins parent source id).map (·.source) := by
  induction cs generalizing parent id source sources with
  | nil => simp [table, origins]
  | leaf test message rest ih =>
    rw [table, origins, List.foldl_cons, List.map_cons, ih parent (id + 1) source _ (by simp [hid])
      (Nat.lt_succ_of_lt hparent) (by rw [List.getElem?_append_left (by omega), hsource])]
    simp [Node.source, hid, hsource]
  | junction kind message children rest ihc ihr =>
    let own := if message.isSome then some id else source
    have hlen : (sources ++ [own] ++
        (children.origins id own (id + 1)).map (·.source)).length = id + 1 + children.size := by
      simp only [List.length_append, List.length_map, List.length_singleton, length_origins, hid]
    have hown : (⟨.junction kind (children.childIds (id + 1)), some parent, message⟩ :
        Node α).source sources = own := by
      simp [Node.source, hid, hsource, own]
    rw [table, origins, List.foldl_cons, List.foldl_append, List.map_cons, List.map_append, hown,
      ihc id (id + 1) own _ (by simp [hid]) (Nat.lt_succ_self id)
        (by rw [List.getElem?_append_right (by omega), hid]; simp),
      ihr parent _ source _ hlen (by omega) (by
        rw [List.append_assoc, List.getElem?_append_left (by omega), hsource])]
    simp [own]

end Conditions

namespace Matcher

namespace OpenJunction

/-- An open junction as rows of a table; `inner` is the number of a child that is still open. -/
def table (parent : Option Nat) (inner : List Nat) (j : OpenJunction α) : List (Node α) :=
  ⟨.junction j.kind (j.children.childIds (j.id + 1) ++ inner), parent, j.message⟩ ::
    j.children.table j.id (j.id + 1)

theorem table_addJunction {j child : OpenJunction α} (parent : Option Nat)
    (hid : child.id = j.id + 1 + j.children.size) :
    (j.addJunction child).table parent [] =
      j.table parent [child.id] ++ child.table (some j.id) [] := by
  simp [table, addJunction, Conditions.childIds_append, Conditions.table_append,
    Conditions.childIds, Conditions.table, hid]

end OpenJunction

def openTable (inner : List Nat) : List (OpenJunction α) → List (Node α)
  | [] => []
  | j :: outer => openTable [j.id] outer ++ j.table (outer.head?.map (·.id)) inner

/-- The numbers of open junctions, the innermost first, are their places among `count` nodes. -/
def Numbered (count : Nat) : List (OpenJunction α) → Prop
  | [] => count = 0
  | j :: outer => count = j.id + 1 + j.children.size ∧ Numbered j.id outer

theorem length_openTable {count : Nat} {js : List (OpenJunction α)} (h : Numbered count js)
    (inner : List Nat) : (openTable inner js).length = count := by
  induction js generalizing count inner with
  | nil => exact h.symm
  | cons j outer ih =>
    rw [openTable, List.length_append, ih h.2, OpenJunction.table, List.length_cons,
      Conditions.length_table, h.1]
    omega

/-- A junction that is closed stays where it is, and so do all the others. -/
theorem openTable_addJunction {count : Nat} {j child : OpenJunction α}
    {outer : List (OpenJunction α)} (h : Numbered count (child :: j :: outer)) :
    openTable [] (child :: j :: outer) = openTable [] (j.addJunction child :: outer) := by
  rw [openTable, openTable, openTable, OpenJunction.table_addJunction _ h.2.1, List.append_assoc]
  rfl

theorem Numbered.addJunction {count : Nat} {j child : OpenJunction α}
    {outer : List (OpenJunction α)} (h : Numbered count (child :: j :: outer)) :
    Numbered count (j.addJunction child :: outer) := by
  obtain ⟨hcount, hchild, houter⟩ := h
  refine ⟨?_, houter⟩
  simp only [OpenJunction.addJunction, Conditions.size_append, Conditions.size]
  omega

theorem openTable_close {count : Nat} {j : OpenJunction α} {outer : List (OpenJunction α)}
    (h : Numbered count (j :: outer)) :
    openTable [] (j :: outer) = (Builder.close j outer).table none [] ∧
      (Builder.close j outer).id = 0 := by
  induction outer generalizing j with
  | nil => exact ⟨rfl, h.2⟩
  | cons k outer ih =>
    rw [openTable_addJunction h]
    exact ih h.addJunction

/-- A table in the making that shows what a builder has open. -/
structure Shows (b : Builder α) (t : TableBuilder α) : Prop where
  nodes : t.nodes = openTable [] (b.current :: b.outer)
  current : t.current = b.current.id
  error : t.error = b.error
  numbered : Numbered b.count (b.current :: b.outer)

theorem shows_ofRoot (kind : Junction) :
    Shows (Builder.ofRoot kind : Builder α) (TableBuilder.ofRoot kind) :=
  ⟨rfl, rfl, rfl, rfl, rfl⟩

namespace Shows

variable {b : Builder α} {t : TableBuilder α} (h : Shows b t)
include h

theorem length_nodes : t.nodes.length = b.count := by
  rw [h.nodes, length_openTable h.numbered]

theorem nodes_eq (f : Node α → Node α) : t.nodes.modify t.current f =
    openTable [b.current.id] b.outer ++
      f ⟨.junction b.current.kind (b.current.children.childIds (b.current.id + 1)),
        b.outer.head?.map (·.id), b.current.message⟩ ::
      b.current.children.table b.current.id (b.current.id + 1) := by
  have hlen := length_openTable h.numbered.2 [b.current.id]
  rw [h.nodes, h.current, openTable, OpenJunction.table, List.append_nil]
  have hmodify := List.modifyTailIdx_add (List.modifyHead f) 0 (openTable [b.current.id] b.outer)
  rw [hlen] at hmodify
  exact hmodify (_ :: _)

theorem nodes_current : t.nodes[t.current]? =
    some ⟨.junction b.current.kind (b.current.children.childIds (b.current.id + 1)),
      b.outer.head?.map (·.id), b.current.message⟩ := by
  have hlen := length_openTable h.numbered.2 [b.current.id]
  rw [h.nodes, h.current, openTable, OpenJunction.table, List.append_nil,
    List.getElem?_append_right (Nat.le_of_eq hlen), hlen, Nat.sub_self]
  rfl

theorem push_nodes (content : NodeContent α) (message : Option (α → String)) :
    (t.push content message).nodes =
      openTable [b.count] (b.current :: b.outer) ++ [⟨content, some b.current.id, message⟩] := by
  rw [TableBuilder.push]
  dsimp only
  rw [h.nodes_eq, h.current, h.length_nodes]
  rfl

/-- A closing step leads to the junction around, which takes in what has been closed. -/
theorem step_closing (kind : Junction) :
    Shows (b.step (.closing kind)) (t.step (.closing kind)) := by
  have hstep : t.step (.closing kind) = if b.current.kind = kind then
      { t with current := (b.outer.head?.map (·.id)).getD t.current } else t := by
    simp only [TableBuilder.step, h.nodes_current]
  rw [hstep]
  cases ho : b.outer with
  | nil =>
    have hkept : b.step (.closing kind) = b := by simp only [Builder.step, ho]
    rw [hkept]
    split
    · exact h
    · exact h
  | cons j outer =>
    by_cases hkind : b.current.kind = kind
    · have hclosed : b.step (.closing kind) =
          { b with current := j.addJunction b.current, outer } := by
        simp only [Builder.step, ho, if_pos hkind]
      have hnumbered := ho ▸ h.numbered
      rw [hclosed, if_pos hkind]
      exact ⟨by rw [h.nodes, ho, openTable_addJunction hnumbered], rfl, h.error,
        hnumbered.addJunction⟩
    · have hkept : b.step (.closing kind) = b := by simp only [Builder.step, ho, if_neg hkind]
      rw [hkept, if_neg hkind]
      exact h

/-- Every step acts on the current junction as on the innermost open one. -/
theorem step (s : Step α) : Shows (b.step s) (t.step s) := by
  obtain ⟨hcount, houter⟩ := h.numbered
  cases s with
  | leaf test message =>
    constructor
    · rw [TableBuilder.step, h.push_nodes]
      simp [Builder.step, openTable, OpenJunction.table, OpenJunction.addLeaf,
        Conditions.childIds_append, Conditions.table_append, Conditions.childIds, Conditions.table,
        hcount]
    · exact h.current
    · exact h.error
    · refine ⟨?_, houter⟩
      simp only [Builder.step, OpenJunction.addLeaf, Conditions.size_append, Conditions.size]
      omega
  | refused e =>
    refine ⟨h.nodes, h.current, ?_, h.numbered⟩
    simp only [TableBuilder.step, Builder.step, h.error]
  | opening kind =>
    constructor
    · exact h.push_nodes _ _
    · exact h.length_nodes
    · exact h.error
    · exact ⟨rfl, hcount, houter⟩
  | closing kind => exact h.step_closing kind
  | message text =>
    refine ⟨?_, h.current, h.error, hcount, houter⟩
    rw [TableBuilder.step]
    dsimp only
    rw [h.nodes_eq]
    simp [Builder.step, openTable, OpenJunction.table, Node.setMessage]

theorem foldl (steps : List (Step α)) :
    Shows (steps.foldl Builder.step b) (steps.foldl TableBuilder.step t) := by
  induction steps generalizing b t with
  | nil => exact h
  | cons s steps ih => exact ih (h.step s)

end Shows

def rows (m : Matcher α) : List (Node α) :=
  ⟨.junction m.kind (m.conditions.childIds 1), none, m.message⟩ :: m.conditions.table 0 1

def nodeTable (m : Matcher α) : NodeTable α where
  nodes := m.rows
  sources := m.origins.map (·.source)

theorem ofNodes_rows (m : Matcher α) : NodeTable.ofNodes m.rows = m.nodeTable := by
  have hpass := Conditions.foldl_source_table m.conditions 0 1
    (if m.message.isSome then some 0 else none) [if m.message.isSome then some 0 else none]
    rfl Nat.one_pos (by simp)
  simp only [NodeTable.ofNodes, nodeTable, rows, origins, List.foldl_cons, List.map_cons]
  exact congrArg _ hpass

theorem findSome?_rows (m : Matcher α) : m.rows.findSome? Node.childless? =
    if m.conditions.isNil then some m.kind else m.conditions.childless? := by
  rw [rows, List.findSome?_cons, Conditions.findSome?_table]
  cases m.conditions <;> rfl

/-- The table that steps build is that of the matcher that they build. -/
theorem ofSteps_table (root : Junction) (steps : List (Step α)) :
    NodeTable.ofSteps root steps = (ofSteps root steps).map nodeTable := by
  have h := (shows_ofRoot root).foldl steps
  obtain ⟨hclose, hid⟩ := openTable_close h.numbered
  let j := Builder.close (steps.foldl Builder.step (Builder.ofRoot root)).current
    (steps.foldl Builder.step (Builder.ofRoot root)).outer
  have hrows : (steps.foldl TableBuilder.step (TableBuilder.ofRoot root)).nodes =
      rows ⟨j.kind, j.message, j.children⟩ := by
    rw [h.nodes, hclose, OpenJunction.table, hid, List.append_nil]
    rfl
  unfold NodeTable.ofSteps TableBuilder.build ofSteps Builder.build
  rw [hrows, findSome?_rows, ofNodes_rows, h.error]
  cases (steps.foldl Builder.step (Builder.ofRoot root)).error with
  | some e => rfl
  | none =>
    dsimp only
    split
    next kind hkind => rw [hkind]; rfl
    next hnone => rw [hnone]; rfl

theorem cons_prefix_drop {β : Type} {x : β} {xs l : List β} {i : Nat}
    (h : x :: xs <+: l.drop i) : l[i]? = some x ∧ xs <+: l.drop (i + 1) := by
  obtain ⟨rest, hrest⟩ := h
  constructor
  · rw [← Nat.add_zero i, ← List.getElem?_drop, ← hrest]
    rfl
  · rw [← List.drop_drop, ← hrest]
    exact ⟨rest, rfl⟩

theorem append_prefix_drop {β : Type} {xs ys l : List β} {i : Nat} (h : xs ++ ys <+: l.drop i) :
    xs <+: l.drop i ∧ ys <+: l.drop (i + xs.length) := by
  obtain ⟨rest, hrest⟩ := h
  constructor
  · exact ⟨ys ++ rest, by rw [← hrest, List.append_assoc]⟩
  · rw [← List.drop_drop, ← hrest, List.append_assoc, List.drop_left]
    exact ⟨rest, rfl⟩

/-- The rows of conditions stand in a table, with the nodes that speak for them. -/
structure Placed (t : NodeTable α) (parent : Nat) (source : Option Nat) (id : Nat)
    (cs : Conditions α) : Prop where
  nodes : cs.table parent id <+: t.nodes.drop id
  sources : (cs.origins parent source id).map (·.source) <+: t.sources.drop id

theorem Placed.leaf {t : NodeTable α} {parent id : Nat} {source : Option Nat} {test : α → Bool}
    {message : Option (α → String)} {rest : Conditions α}
    (h : Placed t parent source id (.leaf test message rest)) :
    t.nodes[id]? = some ⟨.leaf test, some parent, message⟩ ∧
      t.sources[id]? = some (if message.isSome then some id else source) ∧
      Placed t parent source (id + 1) rest := by
  obtain ⟨hnode, hnodes⟩ := cons_prefix_drop h.nodes
  obtain ⟨hsource, hsources⟩ := cons_prefix_drop h.sources
  exact ⟨hnode, hsource, hnodes, hsources⟩

theorem Placed.junction {t : NodeTable α} {parent id : Nat} {source : Option Nat} {kind : Junction}
    {message : Option (α → String)} {children rest : Conditions α}
    (h : Placed t parent source id (.junction kind message children rest)) :
    t.nodes[id]? = some ⟨.junction kind (children.childIds (id + 1)), some parent, message⟩ ∧
      t.sources[id]? = some (if message.isSome then some id else source) ∧
      Placed t id (if message.isSome then some id else source) (id + 1) children ∧
      Placed t parent source (id + 1 + children.size) rest := by
  obtain ⟨hnode, hnodes⟩ := cons_prefix_drop h.nodes
  have hsources := h.sources
  rw [Conditions.origins, List.map_cons, List.map_append] at hsources
  obtain ⟨hsource, hsources⟩ := cons_prefix_drop hsources
  obtain ⟨hnodesc, hnodesr⟩ := append_prefix_drop hnodes
  obtain ⟨hsourcesc, hsourcesr⟩ := append_prefix_drop hsources
  rw [Conditions.length_table] at hnodesr
  rw [List.length_map, Conditions.length_origins] at hsourcesr
  exact ⟨hnode, hsource, ⟨hnodesc, hsourcesc⟩, ⟨hnodesr, hsourcesr⟩⟩

theorem mismatch_eq {t : NodeTable α} {id : Nat} {n : Node α} {source : Option Nat}
    {voice : Option (α → String)} (hn : t.nodes[id]? = some n)
    (hsource : t.sources[id]? = some (if n.message.isSome then some id else source))
    (hvoice : source.bind t.message? = voice) (a : α) :
    t.mismatch a id = ⟨id, (n.message.or voice).map (· a)⟩ := by
  rw [NodeTable.mismatch, NodeTable.source?, hsource, Option.join_some]
  cases hm : n.message with
  | none => rw [← hvoice]; rfl
  | some text =>
    have hown : t.message? id = some text := by rw [NodeTable.message?, hn]; exact hm
    simp [hown]

theorem goOn_eq {say : Nat → Mismatch} {failing? : Nat → Option Nat} {kind : Junction}
    {found : Option Mismatch} {rest : Mismatch → Option Mismatch} {here child : Nat}
    {children : List Nat} (hfound : found = (failing? child).map say)
    (hrest : ∀ here, rest (say here) =
      (NodeTable.junctionFailure kind failing? here children).map say) :
    Conditions.goOn kind found (say here) rest =
      (NodeTable.junctionFailure kind failing? here (child :: children)).map say := by
  subst hfound
  cases kind <;> cases hchild : failing? child <;>
    simp [Conditions.goOn, NodeTable.junctionFailure, NodeTable.lastFailure, hchild, hrest]

/-- The children of a junction fail by the table as they do in the tree. -/
theorem Placed.failure_eq {t : NodeTable α} {parent : Nat} {source : Option Nat} {id : Nat}
    {cs : Conditions α} (h : Placed t parent source id cs) {voice : Option (α → String)}
    (hvoice : source.bind t.message? = voice) {depth : Nat} (hdepth : cs.size ≤ depth)
    (kind : Junction) (here : Nat) (a : α) :
    cs.failure kind voice (t.mismatch a here) id a =
      (NodeTable.junctionFailure kind (NodeTable.failing? t.nodes a depth) here
        (cs.childIds id)).map (t.mismatch a) := by
  induction cs generalizing parent source id voice depth kind here with
  | nil => cases kind <;> rfl
  | leaf test message rest ih =>
    obtain ⟨hnode, hsource, hrest⟩ := h.leaf
    have hmismatch := mismatch_eq hnode hsource hvoice a
    obtain ⟨depth, rfl⟩ := Nat.exists_eq_add_one.mpr (Nat.lt_of_lt_of_le (Nat.succ_pos _) hdepth)
    have hfails : NodeTable.failing? t.nodes a (depth + 1) id =
        if test a then none else some id := by
      simp only [NodeTable.failing?, hnode]
    rw [Conditions.failure_leaf, Conditions.childIds]
    refine goOn_eq ?_ fun here => ih hrest hvoice ?_ kind here
    · rw [hfails]
      cases test a
      · exact congrArg some hmismatch.symm
      · rfl
    · exact Nat.le_of_succ_le hdepth
  | junction inner message children rest ihc ihr =>
    obtain ⟨hnode, hsource, hchildren, hrest⟩ := h.junction
    rw [Conditions.size] at hdepth
    have hmismatch := mismatch_eq hnode hsource hvoice a
    obtain ⟨depth, rfl⟩ := Nat.exists_eq_add_one.mpr (Nat.lt_of_lt_of_le (Nat.succ_pos _) hdepth)
    have hfails : NodeTable.failing? t.nodes a (depth + 1) id =
        NodeTable.junctionFailure inner (NodeTable.failing? t.nodes a depth) id
          (children.childIds (id + 1)) := by
      simp only [NodeTable.failing?, hnode]
    have hown : (if message.isSome then some id else source).bind t.message? =
        message.or voice := by
      cases message with
      | none => exact hvoice
      | some text => simp [NodeTable.message?, hnode]
    rw [Conditions.failure_junction, Conditions.childIds]
    refine goOn_eq ?_ fun here => ihr hrest hvoice (by omega) kind here
    rw [hfails, ← ihc hchildren hown (by omega) inner id, hmismatch]

theorem check_nodeTable (m : Matcher α) (a : α) : m.nodeTable.check a = m.mismatch? a := by
  have hplaced : Placed m.nodeTable 0 (if m.message.isSome then some 0 else none) 1
      m.conditions := ⟨List.prefix_refl _, List.prefix_refl _⟩
  have hvoice : (if m.message.isSome then some 0 else none).bind m.nodeTable.message? =
      m.message := by
    cases hm : m.message <;> simp [NodeTable.message?, nodeTable, rows, hm]
  have hroot : m.nodeTable.mismatch a 0 = ⟨0, m.message.map (· a)⟩ := by
    rw [← hvoice]
    rfl
  have hsize : m.nodeTable.size = m.conditions.size + 1 := by
    simp [NodeTable.size, nodeTable, rows]
  rw [mismatch?, ← hroot, hplaced.failure_eq hvoice (Nat.le_refl _), NodeTable.check, hsize]
  rfl

theorem source?_nodeTable (m : Matcher α) (id : Nat) : m.nodeTable.source? id = m.source? id := by
  rw [NodeTable.source?, nodeTable, List.getElem?_map, source?]
  cases m.origins[id]? <;> rfl

theorem parent?_nodeTable (m : Matcher α) (id : Nat) : m.nodeTable.parent? id = m.parent? id := by
  have hparents : m.rows.map (·.parent) = m.origins.map (·.parent) := by
    rw [rows, origins, List.map_cons, List.map_cons, Conditions.map_parent_table]
  have hid : m.rows[id]?.map (·.parent) = m.origins[id]?.map (·.parent) := by
    rw [← List.getElem?_map, hparents, List.getElem?_map]
  have hjoin := congrArg (Option.bind · fun parent => parent) hid
  simp only [Option.bind_map] at hjoin
  exact hjoin

/-- Steps describe one expression, and what is built from them is that expression; the table of
nodes that the steps fill in turn is the table of what is built, and checks a subject alike. A step
for a text condition is refused where its pattern is none, and a step for a script where its
language does not compile it; a script that cannot be evaluated counts as false. -/
theorem ofSteps_builds [PatternEngine] (root : Junction) (steps : List (Step α)) :
    (∃ e, ReadsAs root steps e ∧ (∀ e', ReadsAs root steps e' → e' = e) ∧
      Builds steps e (ofSteps root steps)) ∧
    NodeTable.ofSteps root steps = (ofSteps root steps).map nodeTable ∧
    (∀ m, ofSteps root steps = .ok m → ∀ a, m.nodeTable.check a = m.mismatch? a) ∧
    (∀ op expected (draw : α → Option String), (Step.text op expected draw).refusal? =
      if (op.condition? expected).isSome then none else some (.invalidPattern expected)) ∧
    (∀ (language : ScriptLanguage) source (binding : α → Value),
      match language.compile source with
      | .ok script => ∃ test : α → Bool, Step.script language source binding = .leaf test none ∧
          ∀ a, test a = true ↔ script (bindingsOf (binding a)) = .ok true
      | .error reason => (Step.script language source binding).refusal? =
          some (.scriptRefused source reason)) := by
  refine ⟨?_, ofSteps_table root steps, fun m _ => m.check_nodeTable, ?_, ?_⟩
  · obtain ⟨e, he, hunique⟩ := exists_readsAs root steps
    exact ⟨e, he, hunique, he.builds⟩
  · intro op expected draw
    unfold Step.text
    cases op.condition? expected <;> rfl
  · intro language source binding
    unfold Step.script
    cases language.compile source with
    | error reason => rfl
    | ok script =>
      refine ⟨_, rfl, fun a => ?_⟩
      cases script (bindingsOf (binding a)) with
      | ok holds => simp
      | error reason => simp

end Matcher
end SheetTables
