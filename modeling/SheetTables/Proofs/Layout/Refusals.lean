import SheetTables.Proofs.Layout.Lineages

/-! # Refusals

Which descriptions of tables are refused, and what is said of them. A description is refused if
some field, at its place in the forest, breaks a rule. Fields are examined in the order in which
they are written, each before its children; the first that breaks a rule is blamed, for the first
rule that it breaks.
-/

namespace SheetTables

/-- A field at its place: those above it from the root down, those before it beside it, and its
children. -/
structure Place where
  above : List FieldSpec
  before : List FieldSpec
  field : FieldSpec
  children : List FieldSpec

namespace Forest

def places (above before : List FieldSpec) : Forest FieldSpec → List Place
  | nil => []
  | node f children siblings => ⟨above, before, f, children.roots⟩ ::
      (children.places (above ++ [f]) [] ++ siblings.places above (before ++ [f]))

theorem isNil_iff {α : Type} {F : Forest α} : F.isNil ↔ F.roots = [] := by
  cases F <;> simp [isNil, roots]

end Forest

/-- What hangs off a field of its role. -/
def FieldSpec.Fits (f : FieldSpec) (kids : List FieldSpec) : Prop :=
  match f.role with
  | .group => kids ≠ [] ∧ f.data = none
  | .leaf => kids = [] ∧ ∃ data, f.data = some data ∧ data.layout ≠ .fixed 0 ∧
      (data.boundary.isSome → data.layout = .mixed)

/-- What a description must be to be accepted. -/
structure TableSpec.Valid (spec : TableSpec) : Prop where
  rooted : spec.fields.roots ≠ []
  named : (spec.fields.roots.map (·.name)).Nodup ∧
    ∀ f kids, (f, kids) ∈ spec.fields.families → (kids.map (·.name)).Nodup
  directed : ∀ lineage ∈ spec.fields.lineages [], ∃ f ∈ lineage, f.direction ≠ none
  distant : ∀ f ∈ spec.fields.toList, 1 ≤ f.distance
  fitting : ∀ f kids, (f, kids) ∈ spec.fields.families → f.Fits kids

/-- The place of a cause among those that a field is examined for. -/
def ConfigError.rank : ConfigError → Nat
  | duplicateField _ => 0
  | missingDirection => 1
  | zeroDistance => 2
  | emptyGroup => 3
  | dataOnGroup => 4
  | childrenOnLeaf => 5
  | missingData => 6
  | emptyFixedLayout => 7
  | boundaryWithoutMixed => 8
  | emptyTable => 9
  | emptySheet => 10

namespace Place

def lineage (p : Place) : List FieldSpec := p.above ++ [p.field]

def Breaks (p : Place) : ConfigError → Prop
  | .duplicateField name => p.field.name = name ∧ ∃ f ∈ p.before, f.name = name
  | .missingDirection => ∀ f ∈ p.lineage, f.direction = none
  | .zeroDistance => p.field.distance = 0
  | .emptyGroup => p.field.role = .group ∧ p.children = []
  | .dataOnGroup => p.field.role = .group ∧ p.field.data ≠ none
  | .childrenOnLeaf => p.field.role = .leaf ∧ p.children ≠ []
  | .missingData => p.field.role = .leaf ∧ p.field.data = none
  | .emptyFixedLayout => p.field.role = .leaf ∧
      ∃ data, p.field.data = some data ∧ data.layout = .fixed 0
  | .boundaryWithoutMixed => p.field.role = .leaf ∧
      ∃ data, p.field.data = some data ∧ data.boundary.isSome ∧ data.layout ≠ .mixed
  | .emptyTable | .emptySheet => False

def Sound (p : Place) : Prop := ∀ cause, ¬ p.Breaks cause

/-- The field to blame with those above it: that around a duplicate, else the field itself. -/
def blamed (p : Place) : ConfigError → List FieldSpec
  | .duplicateField _ => p.above
  | _ => p.lineage

theorem fits_iff {p : Place} : p.field.Fits p.children ↔ ¬ p.Breaks .emptyGroup ∧
    ¬ p.Breaks .dataOnGroup ∧ ¬ p.Breaks .childrenOnLeaf ∧ ¬ p.Breaks .missingData ∧
    ¬ p.Breaks .emptyFixedLayout ∧ ¬ p.Breaks .boundaryWithoutMixed := by
  unfold FieldSpec.Fits
  cases hrole : p.field.role with
  | group => simp [Breaks, hrole]
  | leaf =>
    cases hdata : p.field.data with
    | none => simp [Breaks, hrole, hdata]
    | some data => simp [Breaks, hrole, hdata]

theorem sound_iff {p : Place} : p.Sound ↔ (∀ f ∈ p.before, f.name ≠ p.field.name) ∧
    (∃ f ∈ p.lineage, f.direction ≠ none) ∧ 1 ≤ p.field.distance ∧ p.field.Fits p.children := by
  rw [fits_iff]
  constructor
  · intro h
    refine ⟨fun f hf hname => h (.duplicateField p.field.name) ⟨rfl, f, hf, hname⟩, ?_, ?_,
      h _, h _, h _, h _, h _, h _⟩
    · have hdirection := h .missingDirection
      simpa only [Breaks, not_forall, exists_prop] using hdirection
    · exact Nat.one_le_iff_ne_zero.mpr (h .zeroDistance)
  · rintro ⟨hname, ⟨f, hf, hdirection⟩, hdistance, hgroup, hdata, hleaf, hmissing, hfixed, hmixed⟩
      cause hbreak
    cases cause with
    | duplicateField name =>
      obtain ⟨rfl, g, hg, hsame⟩ := hbreak
      exact hname g hg hsame
    | missingDirection => exact hdirection (hbreak f hf)
    | zeroDistance => exact Nat.one_le_iff_ne_zero.mp hdistance hbreak
    | emptyGroup => exact hgroup hbreak
    | dataOnGroup => exact hdata hbreak
    | childrenOnLeaf => exact hleaf hbreak
    | missingData => exact hmissing hbreak
    | emptyFixedLayout => exact hfixed hbreak
    | boundaryWithoutMixed => exact hmixed hbreak
    | emptyTable => exact hbreak
    | emptySheet => exact hbreak

end Place

/-- A cause for the first refusal among places: those before are sound, and the field breaks no
rule that it is examined for earlier. -/
structure FirstFault (places : List Place) (p : Place) (cause : ConfigError) : Prop where
  first : ∃ earlier later, places = earlier ++ p :: later ∧ ∀ q ∈ earlier, q.Sound
  broken : p.Breaks cause
  least : ∀ other, p.Breaks other → cause.rank ≤ other.rank

def TableSpec.refusal (spec : TableSpec) (blamed : List FieldSpec) (cause : ConfigError) : String :=
  if blamed.isEmpty then spec.name ++ ": " ++ cause.message
  else spec.name ++ ": " ++ ".".intercalate (blamed.map (·.name)) ++ ": " ++ cause.message

namespace Forest

variable (F : Forest FieldSpec) (above before : List FieldSpec)

theorem places_lineages : (F.places above before).map (·.lineage) = F.lineages above := by
  induction F generalizing above before with
  | nil => rfl
  | node f children siblings ihc ihs =>
    rw [places, List.map_cons, List.map_append, ihc, ihs]
    rfl

theorem places_families :
    (F.places above before).map (fun p => (p.field, p.children)) = F.families := by
  induction F generalizing above before with
  | nil => rfl
  | node f children siblings ihc ihs =>
    rw [places, List.map_cons, List.map_append, ihc, ihs]
    rfl

theorem places_named :
    (∀ p ∈ F.places above before, ∀ b ∈ p.before, b.name ≠ p.field.name) ↔
      (F.roots.map (·.name)).Nodup ∧ (∀ b ∈ before, ∀ f ∈ F.roots, b.name ≠ f.name) ∧
      ∀ f kids, (f, kids) ∈ F.families → (kids.map (·.name)).Nodup := by
  induction F generalizing above before with
  | nil => simp [places, roots, families]
  | node f children siblings ihc ihs =>
    simp only [places, roots, families, List.mem_cons, List.mem_append, or_imp, forall_and,
      forall_eq, ihc, ihs, List.map_cons, List.nodup_cons, List.mem_map, Prod.mk.injEq, and_imp]
    constructor
    · rintro ⟨hf, ⟨hc, _, hcf⟩, hs, ⟨hbs, hfs, _⟩, hsf⟩
      refine ⟨⟨?_, hs⟩, ⟨hf, hbs⟩, ?_, hcf, hsf⟩
      · rintro ⟨g, hg, he⟩
        exact hfs g hg he.symm
      · rintro _ _ rfl rfl
        exact hc
    · rintro ⟨⟨hfs, hs⟩, ⟨hf, hbs⟩, hc, hcf, hsf⟩
      have hnone : ∀ b ∈ ([] : List FieldSpec), ∀ g ∈ children.roots, b.name ≠ g.name :=
        fun _ h => absurd h List.not_mem_nil
      have hlast : ∀ g ∈ siblings.roots, f.name ≠ g.name := fun g hg he => hfs ⟨g, hg, he.symm⟩
      exact ⟨hf, ⟨hc f _ rfl rfl, hnone, hcf⟩, hs,
        ⟨hbs, hlast, fun _ h => absurd h List.not_mem_nil⟩, hsf⟩

end Forest

theorem TableSpec.valid_iff {spec : TableSpec} : spec.Valid ↔
    spec.fields.roots ≠ [] ∧ ∀ p ∈ spec.fields.places [] [], p.Sound := by
  have hnames := spec.fields.places_named [] []
  have hlineages := spec.fields.places_lineages [] []
  have hfamilies := spec.fields.places_families [] []
  constructor
  · rintro ⟨hroots, ⟨hroot, hkids⟩, hdirected, hdistant, hfitting⟩
    refine ⟨hroots, fun p hp => Place.sound_iff.mpr ?_⟩
    have hlineage : p.lineage ∈ spec.fields.lineages [] := hlineages ▸ List.mem_map_of_mem hp
    have hfamily : (p.field, p.children) ∈ spec.fields.families :=
      hfamilies ▸ List.mem_map_of_mem (f := fun p : Place => (p.field, p.children)) hp
    have hapart := hnames.mpr ⟨hroot, fun _ h => absurd h List.not_mem_nil, hkids⟩
    have hfield := Forest.mem_toList_of_mem_families hfamily
    exact ⟨hapart p hp, hdirected _ hlineage, hdistant _ hfield, hfitting _ _ hfamily⟩
  · rintro ⟨hroots, hsound⟩
    have hparts := fun p hp => Place.sound_iff.mp (hsound p hp)
    have hfamily : ∀ f kids, (f, kids) ∈ spec.fields.families → 1 ≤ f.distance ∧ f.Fits kids := by
      intro f kids hf
      rw [← hfamilies] at hf
      obtain ⟨p, hp, heq⟩ := List.mem_map.mp hf
      obtain ⟨rfl, rfl⟩ := Prod.mk.inj heq
      exact (hparts p hp).2.2
    obtain ⟨hroot, _, hkids⟩ := hnames.mp fun p hp => (hparts p hp).1
    refine ⟨hroots, ⟨hroot, hkids⟩, ?_, ?_, fun f kids hf => (hfamily f kids hf).2⟩
    · intro lineage hl
      rw [← hlineages] at hl
      obtain ⟨p, hp, rfl⟩ := List.mem_map.mp hl
      exact (hparts p hp).2.1
    · intro f hf
      rw [← Forest.families_fst] at hf
      obtain ⟨⟨g, kids⟩, hg, rfl⟩ := List.mem_map.mp hf
      exact (hfamily g kids hg).1

namespace FirstFault

variable {ps qs : List Place} {p q : Place} {cause : ConfigError}

theorem head (hb : p.Breaks cause) (hl : ∀ other, p.Breaks other → cause.rank ≤ other.rank) :
    FirstFault (p :: ps) p cause :=
  ⟨⟨[], ps, rfl, fun _ h => absurd h List.not_mem_nil⟩, hb, hl⟩

theorem append_right (h : FirstFault ps p cause) (qs : List Place) :
    FirstFault (ps ++ qs) p cause := by
  obtain ⟨earlier, later, rfl, hearlier⟩ := h.first
  exact ⟨⟨earlier, later ++ qs, by simp, hearlier⟩, h.broken, h.least⟩

theorem append_left (hq : ∀ q ∈ qs, q.Sound) (h : FirstFault ps p cause) :
    FirstFault (qs ++ ps) p cause := by
  obtain ⟨earlier, later, rfl, hearlier⟩ := h.first
  refine ⟨⟨qs ++ earlier, later, by simp, fun q hmem => ?_⟩, h.broken, h.least⟩
  exact (List.mem_append.mp hmem).elim (hq q) (hearlier q)

theorem cons (hq : q.Sound) (h : FirstFault ps p cause) : FirstFault (q :: ps) p cause :=
  append_left (List.forall_mem_singleton.mpr hq) h

theorem not_all_sound (h : FirstFault ps p cause) : ∃ q ∈ ps, ¬ q.Sound := by
  obtain ⟨earlier, later, rfl, _⟩ := h.first
  exact ⟨p, List.mem_append_right _ List.mem_cons_self, fun hs => hs cause h.broken⟩

end FirstFault

/-- What is taken over by the fields below a lineage of settled fields. -/
inductive Encloses : List FieldSpec → Option Surroundings → Prop
  | outside : Encloses [] none
  | inside {above : List FieldSpec} {around : Option Surroundings} {f : FieldSpec} {id : Nat}
    {children : Forest FieldSpec} {g : Field} (outer : Encloses above around)
    (settled : f.settle around id children = .ok g) :
    Encloses (above ++ [f]) (some ⟨id, g.path, g.direction⟩)

def blame (lineage : List FieldSpec) (cause : ConfigError) : DescriptionError :=
  if lineage.isEmpty then .config cause
  else .within (".".intercalate (lineage.map (·.name))) (.config cause)

namespace Encloses

variable {above : List FieldSpec} {around : Option Surroundings}

theorem surrounds (h : Encloses above around) : Surrounds above around := by
  induction h with
  | outside => exact surrounds_nil
  | inside _ settled ih => exact ih.below settled

theorem blame_eq (h : Encloses above around) (cause : ConfigError) :
    Surroundings.blame around cause = blame above cause := by
  cases h with
  | outside => rfl
  | inside outer settled =>
    have hpath := (outer.surrounds.settle settled).path
    simp [Surroundings.blame, blame, hpath]

end Encloses

section Settle

variable {above before : List FieldSpec} {around : Option Surroundings} {f : FieldSpec} {id : Nat}
  {children : Forest FieldSpec}

theorem Place.Breaks.of_group {p : Place} {cause : ConfigError} (h : p.Breaks cause)
    (hrole : p.field.role = .group) (hr : 3 ≤ cause.rank) :
    cause = .emptyGroup ∨ cause = .dataOnGroup := by
  cases cause <;> simp [Breaks, ConfigError.rank, hrole] at h hr ⊢

theorem Place.Breaks.of_leaf {p : Place} {cause : ConfigError} (h : p.Breaks cause)
    (hrole : p.field.role = .leaf) (hr : 3 ≤ cause.rank) :
    cause = .childrenOnLeaf ∨ cause = .missingData ∨ cause = .emptyFixedLayout ∨
      cause = .boundaryWithoutMixed := by
  cases cause <;> simp [Breaks, ConfigError.rank, hrole] at h hr ⊢

/-- A field that does not fit its role breaks the first rule of the role that it can. -/
theorem FieldSpec.body_eq_error {cause : ConfigError} (h : f.body children = .error cause)
    (above before : List FieldSpec) :
    let p : Place := ⟨above, before, f, children.roots⟩
    p.Breaks cause ∧ 3 ≤ cause.rank ∧
      ∀ other, p.Breaks other → 3 ≤ other.rank → cause.rank ≤ other.rank := by
  unfold FieldSpec.body at h
  simp only [Forest.isNil_iff, Bool.not_eq_true', Bool.eq_false_iff, ne_eq] at h
  cases hrole : f.role with
  | group =>
    simp only [hrole] at h
    split_ifs at h with hnil hdata <;> cases h
    · exact ⟨⟨hrole, hnil⟩, Nat.le_refl 3, fun _ _ hr => hr⟩
    · refine ⟨⟨hrole, Option.ne_none_iff_isSome.mpr hdata⟩, by decide, fun other ho hr => ?_⟩
      rcases ho.of_group hrole hr with rfl | rfl
      · exact absurd ho.2 hnil
      · exact Nat.le_refl 4
  | leaf =>
    simp only [hrole] at h
    by_cases hkids : children.roots = []
    · rw [if_neg (not_not.mpr hkids)] at h
      cases hdata : f.data with
      | none =>
        rw [hdata] at h
        cases h
        refine ⟨⟨hrole, hdata⟩, by decide, fun other ho hr => ?_⟩
        rcases ho.of_leaf hrole hr with rfl | rfl | rfl | rfl
        · exact absurd hkids ho.2
        all_goals decide
      | some data =>
        have hpresent : f.data ≠ none := by simp [hdata]
        simp only [hdata] at h
        split_ifs at h with hfixed hmixed <;> cases h
        · refine ⟨⟨hrole, data, hdata, hfixed⟩, by decide, fun other ho hr => ?_⟩
          rcases ho.of_leaf hrole hr with rfl | rfl | rfl | rfl
          · exact absurd hkids ho.2
          · exact absurd ho.2 hpresent
          all_goals decide
        · refine ⟨⟨hrole, data, hdata, hmixed⟩, by decide, fun other ho hr => ?_⟩
          rcases ho.of_leaf hrole hr with rfl | rfl | rfl | rfl
          · exact absurd hkids ho.2
          · exact absurd ho.2 hpresent
          · obtain ⟨_, data', hdata', hzero⟩ := ho
            obtain rfl := Option.some.inj (hdata.symm.trans hdata')
            exact absurd hzero hfixed
          · exact Nat.le_refl 8
    · rw [if_pos hkids] at h
      cases h
      refine ⟨⟨hrole, hkids⟩, by decide, fun other ho hr => ?_⟩
      rcases ho.of_leaf hrole hr with rfl | rfl | rfl | rfl <;> decide

theorem FieldSpec.fits_of_body {body : FieldBody} (h : f.body children = .ok body) :
    f.Fits children.roots := by
  unfold FieldSpec.body at h
  simp only [Forest.isNil_iff, Bool.not_eq_true', Bool.eq_false_iff, ne_eq] at h
  unfold FieldSpec.Fits
  cases hrole : f.role with
  | group =>
    simp only [hrole] at h
    split_ifs at h with hnil hdata
    exact ⟨hnil, Option.not_isSome_iff_eq_none.mp hdata⟩
  | leaf =>
    simp only [hrole] at h
    split_ifs at h with hkids
    cases hdata : f.data with
    | none =>
      rw [hdata] at h
      cases h
    | some data =>
      simp only [hdata] at h
      split_ifs at h with hfixed hmixed
      refine ⟨hkids, data, rfl, hfixed, fun hb => ?_⟩
      exact not_not.mp fun hne => hmixed ⟨hb, hne⟩

theorem Surrounds.undirected_iff (ha : Surrounds above around) :
    f.direction.or (around.map (·.direction)) = none ↔
      ∀ g ∈ above ++ [f], g.direction = none := by
  rw [ha.direction, Option.or_eq_none_iff, List.findSome?_eq_none_iff]
  simp only [List.mem_reverse, List.forall_mem_append, List.forall_mem_singleton]
  exact and_comm

theorem Place.blamed_of_rank {p : Place} {cause : ConfigError} (h : 1 ≤ cause.rank) :
    p.blamed cause = p.lineage := by
  cases cause with
  | duplicateField name => cases h
  | _ => rfl

/-- A field that is not settled by itself is blamed for the first rule that it breaks. -/
theorem Encloses.settle_error {cause : ConfigError} (ha : Encloses above around)
    (hname : ∀ b ∈ before, b.name ≠ f.name) (h : f.settle around id children = .error cause) :
    let p : Place := ⟨above, before, f, children.roots⟩
    p.Breaks cause ∧ (∀ other, p.Breaks other → cause.rank ≤ other.rank) ∧ 1 ≤ cause.rank := by
  intro p
  have hdup : ∀ name, ¬ p.Breaks (.duplicateField name) := by
    rintro name ⟨rfl, b, hb, hsame⟩
    exact hname b hb hsame
  unfold FieldSpec.settle at h
  cases hdirection : f.direction.or (around.map (·.direction)) with
  | none =>
    rw [hdirection] at h
    cases h
    refine ⟨ha.surrounds.undirected_iff.mp hdirection, fun other ho => ?_, Nat.le_refl 1⟩
    cases other with
    | duplicateField name => exact absurd ho (hdup name)
    | _ => simp [ConfigError.rank]
  | some direction =>
    have hdirected : ¬ p.Breaks .missingDirection := by
      intro hb
      rw [ha.surrounds.undirected_iff.mpr hb] at hdirection
      cases hdirection
    simp only [hdirection] at h
    split_ifs at h with hzero
    · cases h
      refine ⟨hzero, fun other ho => ?_, by decide⟩
      cases other with
      | duplicateField name => exact absurd ho (hdup name)
      | missingDirection => exact absurd ho hdirected
      | _ => simp [ConfigError.rank]
    · cases hbody : f.body children with
      | ok body =>
        rw [hbody] at h
        cases h
      | error e =>
        rw [hbody] at h
        cases h
        obtain ⟨hbroken, hrank, hleast⟩ := FieldSpec.body_eq_error hbody above before
        refine ⟨hbroken, fun other ho => ?_, Nat.le_trans (by decide) hrank⟩
        cases other with
        | duplicateField name => exact absurd ho (hdup name)
        | missingDirection => exact absurd ho hdirected
        | zeroDistance => exact absurd ho hzero
        | _ => exact hleast _ ho (by simp [ConfigError.rank])

theorem Encloses.settle_sound {g : Field} (ha : Encloses above around)
    (hname : ∀ b ∈ before, b.name ≠ f.name) (h : f.settle around id children = .ok g) :
    (⟨above, before, f, children.roots⟩ : Place).Sound := by
  obtain ⟨direction, body, hdirection, hdistance, hbody, _⟩ := FieldSpec.settle_eq_ok_iff.mp h
  refine Place.sound_iff.mpr ⟨hname, ?_, Nat.one_le_iff_ne_zero.mpr hdistance,
    FieldSpec.fits_of_body hbody⟩
  by_contra hnone
  push Not at hnone
  rw [ha.surrounds.undirected_iff.mpr hnone] at hdirection
  cases hdirection

end Settle

def Seen (before : List FieldSpec) (seen : List String) : Prop :=
  ∀ name, name ∈ seen ↔ ∃ b ∈ before, b.name = name

theorem seen_nil : Seen [] [] := by simp [Seen]

theorem Seen.concat {before : List FieldSpec} {seen : List String} (h : Seen before seen)
    (f : FieldSpec) : Seen (before ++ [f]) (f.name :: seen) := by
  intro name
  rw [List.mem_cons, h name]
  simp only [List.mem_append, List.mem_singleton, or_and_right, exists_or, exists_eq_left]
  rw [or_comm, eq_comm]

section SettleFields

variable {above before : List FieldSpec} {around : Option Surroundings} {id : Nat}
  {seen : List String} {F : Forest FieldSpec}

theorem settleFields_sound {G : Forest Field} (ha : Encloses above around)
    (hseen : Seen before seen) (h : settleFields around id seen F = .ok G) :
    ∀ p ∈ F.places above before, p.Sound := by
  induction F generalizing above before around id seen G with
  | nil => exact fun _ hp => absurd hp List.not_mem_nil
  | node f children siblings ihc ihs =>
    obtain ⟨field, inner, rest, hnew, hf, hi, hr, rfl⟩ := settleFields_node_eq_ok_iff.mp h
    have hname : ∀ b ∈ before, b.name ≠ f.name :=
      fun b hb he => hnew ((hseen f.name).mpr ⟨b, hb, he⟩)
    intro p hp
    simp only [Forest.places, List.mem_cons, List.mem_append] at hp
    rcases hp with rfl | hp | hp
    · exact ha.settle_sound hname hf
    · exact ihc (ha.inside hf) seen_nil hi p hp
    · exact ihs ha (hseen.concat f) hr p hp

theorem settleFields_fault {e : DescriptionError} (ha : Encloses above around)
    (hseen : Seen before seen) (h : settleFields around id seen F = .error e) :
    ∃ p cause, FirstFault (F.places above before) p cause ∧ e = blame (p.blamed cause) cause := by
  -- A field is followed by its children, and these by its later siblings.
  induction F generalizing above before around id seen with
  | nil => cases h
  | node f children siblings ihc ihs =>
    rw [settleFields] at h
    by_cases hs : f.name ∈ seen
    · rw [if_pos hs] at h
      cases h
      have hbroken : (⟨above, before, f, children.roots⟩ : Place).Breaks (.duplicateField f.name) :=
        ⟨rfl, (hseen f.name).mp hs⟩
      exact ⟨_, _, .head hbroken fun _ _ => Nat.zero_le _, ha.blame_eq _⟩
    · have hname : ∀ b ∈ before, b.name ≠ f.name :=
        fun b hb he => hs ((hseen f.name).mpr ⟨b, hb, he⟩)
      rw [if_neg hs] at h
      cases hf : f.settle around id children with
      | error cause =>
        rw [hf] at h
        cases h
        obtain ⟨hbroken, hleast, hrank⟩ := ha.settle_error hname hf
        refine ⟨_, cause, .head hbroken hleast, ?_⟩
        rw [Place.blamed_of_rank hrank, ha.surrounds.path f]
        simp [blame, Place.lineage]
      | ok field =>
        have hsound := ha.settle_sound hname hf
        rw [hf] at h
        dsimp only at h
        cases hi : settleFields (some ⟨id, field.path, field.direction⟩) (id + 1) [] children with
        | error e' =>
          rw [hi] at h
          cases h
          obtain ⟨p, cause, hfirst, he⟩ := ihc (ha.inside hf) seen_nil hi
          exact ⟨p, cause, (hfirst.append_right _).cons hsound, he⟩
        | ok inner =>
          have hinner := settleFields_sound (ha.inside hf) seen_nil hi
          rw [hi] at h
          dsimp only at h
          cases hr : settleFields around (id + 1 + children.size) (f.name :: seen) siblings with
          | ok rest =>
            rw [hr] at h
            cases h
          | error e' =>
            rw [hr] at h
            cases h
            obtain ⟨p, cause, hfirst, he⟩ := ihs ha (hseen.concat f) hr
            exact ⟨p, cause, (hfirst.append_left hinner).cons hsound, he⟩

end SettleFields

theorem DescriptionError.message_config (cause : ConfigError) :
    (DescriptionError.config cause).message = cause.message := rfl

theorem DescriptionError.message_within (context : String) (e : DescriptionError) :
    (DescriptionError.within context e).message = context ++ ": " ++ e.message := rfl

theorem TableSpec.message_blame (spec : TableSpec) (lineage : List FieldSpec)
    (cause : ConfigError) : (DescriptionError.within spec.name (blame lineage cause)).message =
      spec.refusal lineage cause := by
  unfold blame TableSpec.refusal
  cases lineage.isEmpty with
  | true => rfl
  | false =>
    simp only [Bool.false_eq_true, if_false, DescriptionError.message_within,
      DescriptionError.message_config, String.append_assoc]

theorem TableSpec.build_eq_error {spec : TableSpec} {e : DescriptionError}
    (h : spec.build = .error e) :
    spec.fields.roots = [] ∧ e = .within spec.name (blame [] .emptyTable) ∨
      ∃ e', settleFields none 0 [] spec.fields = .error e' ∧ e = .within spec.name e' := by
  unfold build at h
  split at h
  · next e' hs =>
    cases h
    exact Or.inr ⟨e', hs, rfl⟩
  · next hs =>
    cases h
    have hroots := (settleFields_shape hs).roots
    exact Or.inl ⟨List.forall₂_nil_right_iff.mp hroots, rfl⟩
  · cases h

/-- The valid descriptions are accepted, and the first fault of any other is told by the path of
the field that is to blame. -/
theorem build_refusals (spec : TableSpec) :
    ((∃ layout, spec.build = .ok layout) ↔ spec.Valid) ∧
      ∀ e, spec.build = .error e →
        spec.fields.roots = [] ∧ e.message = spec.refusal [] .emptyTable ∨
        ∃ p cause, FirstFault (spec.fields.places [] []) p cause ∧
          e.message = spec.refusal (p.blamed cause) cause := by
  have hrefused : ∀ e, spec.build = .error e →
      spec.fields.roots = [] ∧ e.message = spec.refusal [] .emptyTable ∨
      ∃ p cause, FirstFault (spec.fields.places [] []) p cause ∧
        e.message = spec.refusal (p.blamed cause) cause := by
    intro e he
    rcases spec.build_eq_error he with ⟨hroots, rfl⟩ | ⟨e', hs, rfl⟩
    · exact Or.inl ⟨hroots, spec.message_blame [] .emptyTable⟩
    · obtain ⟨p, cause, hfirst, rfl⟩ := settleFields_fault .outside seen_nil hs
      exact Or.inr ⟨p, cause, hfirst, spec.message_blame _ cause⟩
  refine ⟨?_, hrefused⟩
  rw [TableSpec.valid_iff]
  constructor
  · rintro ⟨layout, h⟩
    have hs := TableLayout.settleFields_of_build h
    refine ⟨fun hnone => ?_, settleFields_sound .outside seen_nil hs⟩
    have hroots := (settleFields_shape hs).roots
    rw [hnone] at hroots
    cases hroots
  · rintro ⟨hroots, hsound⟩
    cases hb : spec.build with
    | ok layout => exact ⟨layout, rfl⟩
    | error e =>
      rcases hrefused e hb with ⟨hnone, _⟩ | ⟨p, cause, hfirst, _⟩
      · exact absurd hnone hroots
      · obtain ⟨q, hq, hbad⟩ := hfirst.not_all_sound
        exact absurd (hsound q hq) hbad

/-- An item with two codes is to blame for them, under the order that it belongs to. -/
example :
    let code : FieldSpec :=
      { name := "Code", matcher := labelled "Code", role := .leaf, data := some { layout := .mixed } }
    let group := fun name : String =>
      { name, matcher := labelled name, role := .group, direction := some .down : FieldSpec }
    let spec : TableSpec :=
      { name := "Orders",
        fields := .node (group "Order")
          (.node (group "Item") (.node code .nil (.node code .nil .nil)) .nil) .nil }
    spec.build.mapError (·.message) = .error "Orders: Order.Item: Duplicate field 'Code'" := rfl

end SheetTables
