import SheetTables.Proofs.Layout.Lineages

/-! # Two ways of checking values

The values of a leaf are checked by its matcher or by its validators, and what the matcher checks
may as well be left to a validator. Fields that differ in this alone are settled alike.
-/

namespace SheetTables

/-- The same data, with what the matcher checks among the validators, wherever it stands there. -/
structure DataSpec.ChecksAlike (data data' : DataSpec) : Prop where
  layout : data'.layout = data.layout
  boundary : data'.boundary = data.boundary
  matcher : data'.matcher = none
  validators : data'.validators.Perm
    (data.matcher.toList.map .ofValueMatcher ++ data.validators)

def FieldSpec.ChecksAlike (f f' : FieldSpec) : Prop :=
  f' = f ∨ ∃ data data', f.data = some data ∧ data.ChecksAlike data' ∧
    f' = { f with data := some data' }

structure TableSpec.ChecksAlike (t t' : TableSpec) : Prop where
  name : t'.name = t.name
  necessity : t'.necessity = t.necessity
  fields : t.fields.Forall₂ FieldSpec.ChecksAlike t'.fields
  validators : t'.validators = t.validators

namespace Forest

variable {α β : Type} {R : α → β → Prop} {F : Forest α} {G : Forest β}

theorem Forall₂.size (h : F.Forall₂ R G) : G.size = F.size := by
  rw [← length_toList, ← length_toList, h.toList.length_eq]

theorem Forall₂.isNil (h : F.Forall₂ R G) : G.isNil = F.isNil := by
  cases h <;> rfl

theorem Forall₂.map {γ δ : Type} {S : γ → δ → Prop} {f : α → γ} {g : β → δ}
    (hS : ∀ a b, R a b → S (f a) (g b)) (h : F.Forall₂ R G) : (F.map f).Forall₂ S (G.map g) := by
  induction h with
  | nil => exact .nil
  | node label _ _ ihc ihs => exact .node (hS _ _ label) ihc ihs

end Forest

structure Field.ChecksAlike (f f' : Field) : Prop where
  body : f'.body = f.body ∨
    ∃ data data', f.body = .leaf data ∧ data.ChecksAlike data' ∧ f'.body = .leaf data'
  rest : f' = { f with body := f'.body }

namespace Field.ChecksAlike

variable {f f' : Field} (h : f.ChecksAlike f')
include h

theorem id : f'.id = f.id := by rw [h.rest]

theorem path : f'.path = f.path := by rw [h.rest]

theorem matcher : f'.matcher = f.matcher := by rw [h.rest]

theorem necessity : f'.necessity = f.necessity := by rw [h.rest]

theorem direction : f'.direction = f.direction := by rw [h.rest]

theorem distance : f'.distance = f.distance := by rw [h.rest]

theorem group (hf : f.body = .group) : f'.body = .group := by
  rcases h.body with he | ⟨data, data', hb, _, _⟩
  · exact he.trans hf
  · rw [hf] at hb
    cases hb

theorem leaf {data : DataSpec} (hf : f.body = .leaf data) : ∃ data', f'.body = .leaf data' ∧
    data'.layout = data.layout ∧ data'.boundary = data.boundary := by
  rcases h.body with he | ⟨_, data', hb, hd, hb'⟩
  · exact ⟨data, he.trans hf, rfl, rfl⟩
  · cases hb.symm.trans hf
    exact ⟨data', hb', hd.layout, hd.boundary⟩

theorem isLeaf : f'.isLeaf = f.isLeaf := by
  unfold Field.isLeaf Field.role
  cases hf : f.body with
  | group => rw [h.group hf]
  | leaf data =>
    obtain ⟨data', hf', _⟩ := h.leaf hf
    rw [hf']

end Field.ChecksAlike

theorem FieldSpec.body_congr (f : FieldSpec) {children children' : Forest FieldSpec}
    (h : children'.isNil = children.isNil) : f.body children' = f.body children := by
  unfold body
  rw [h]

theorem FieldSpec.body_checksAlike {f : FieldSpec} {data data' : DataSpec}
    (hf : f.data = some data) (h : data.ChecksAlike data') {children : Forest FieldSpec}
    {body : FieldBody} (hb : f.body children = .ok body) :
    body = .leaf data ∧ ({ f with data := some data' } : FieldSpec).body children =
      .ok (.leaf data') := by
  unfold FieldSpec.body at hb ⊢
  cases hr : f.role with
  | group =>
    rw [hr] at hb
    by_cases hn : children.isNil <;> simp [hn, hf] at hb
  | leaf =>
    rw [hr] at hb
    simp only [hf] at hb
    simp only [h.layout, h.boundary]
    by_cases hn : children.isNil
    · by_cases hl : data.layout = .fixed 0
      · simp [hn, hl] at hb
      · by_cases hm : data.boundary.isSome ∧ data.layout ≠ .mixed
        · simp [hn, hl, hm] at hb
        · simp only [hn, hl, hm] at hb ⊢
          simpa using hb.symm
    · simp [hn] at hb

namespace FieldSpec.ChecksAlike

variable {f f' : FieldSpec} (h : f.ChecksAlike f')
include h

theorem name : f'.name = f.name := by
  rcases h with rfl | ⟨_, _, _, _, rfl⟩ <;> rfl

theorem settle {around : Option Surroundings} {id : Nat} {children children' : Forest FieldSpec}
    (hnil : children'.isNil = children.isNil) {g : Field}
    (hg : f.settle around id children = .ok g) :
    ∃ g', f'.settle around id children' = .ok g' ∧ g.ChecksAlike g' := by
  obtain ⟨direction, body, hd, hz, hb, rfl⟩ := settle_eq_ok_iff.mp hg
  rw [← f.body_congr hnil] at hb
  rcases h with rfl | ⟨data, data', hf, hdata, rfl⟩
  · exact ⟨_, settle_eq_ok_iff.mpr ⟨direction, body, hd, hz, hb, rfl⟩, Or.inl rfl, rfl⟩
  · obtain ⟨rfl, hb'⟩ := body_checksAlike hf hdata hb
    exact ⟨_, settle_eq_ok_iff.mpr ⟨direction, _, hd, hz, hb', rfl⟩,
      Or.inr ⟨data, data', rfl, hdata, rfl⟩, rfl⟩

end FieldSpec.ChecksAlike

theorem settleFields_checksAlike {F F' : Forest FieldSpec} (hF : F.Forall₂ FieldSpec.ChecksAlike F')
    {around : Option Surroundings} {id : Nat} {seen : List String} {G : Forest Field}
    (h : settleFields around id seen F = .ok G) :
    ∃ G', settleFields around id seen F' = .ok G' ∧ G.Forall₂ Field.ChecksAlike G' := by
  induction hF generalizing around id seen G with
  | nil =>
    cases h
    exact ⟨.nil, rfl, .nil⟩
  | node hf hchildren _ ihc ihs =>
    obtain ⟨field, inner, rest, hseen, hfield, hi, hr, rfl⟩ := settleFields_node_eq_ok_iff.mp h
    obtain ⟨field', hfield', hlike⟩ := hf.settle hchildren.isNil hfield
    obtain ⟨inner', hi', hinner⟩ := ihc hi
    obtain ⟨rest', hr', hrest⟩ := ihs hr
    refine ⟨.node field' inner' rest', settleFields_node_eq_ok_iff.mpr
      ⟨field', inner', rest', ?_, hfield', ?_, ?_, rfl⟩, .node hlike hinner hrest⟩
    · rwa [hf.name]
    · rwa [hlike.path, hlike.direction]
    · rwa [hf.name, hchildren.size]

structure TableLayout.ChecksAlike (t t' : TableLayout) : Prop where
  name : t'.name = t.name
  necessity : t'.necessity = t.necessity
  forest : t.forest.Forall₂ Field.ChecksAlike t'.forest
  validators : t'.validators = t.validators

theorem TableLayout.ChecksAlike.anchor {t t' : TableLayout} (h : t.ChecksAlike t') :
    t.anchor.ChecksAlike t'.anchor := by
  have hforest := h.forest
  unfold TableLayout.forest at hforest
  cases hforest with
  | node ha => exact ha

theorem TableSpec.ChecksAlike.build {t t' : TableSpec} (h : t.ChecksAlike t') {layout : TableLayout}
    (hb : t.build = .ok layout) :
    ∃ layout', t'.build = .ok layout' ∧ layout.ChecksAlike layout' := by
  obtain ⟨hname, hnecessity, hvalidators⟩ := TableLayout.header_of_build hb
  obtain ⟨G', hG', hlike⟩ :=
    settleFields_checksAlike h.fields (TableLayout.settleFields_of_build hb)
  cases hlike with
  | @node _ anchor' _ _ children' others' ha hc ho =>
    refine ⟨⟨t'.name, t'.necessity, anchor', children', others', t'.validators⟩, ?_, ?_⟩
    · simp only [TableSpec.build, hG']
    · exact
        { name := h.name.trans hname.symm
          necessity := h.necessity.trans hnecessity.symm
          forest := .node ha hc ho
          validators := h.validators.trans hvalidators.symm }

end SheetTables
