import Mathlib.Data.List.Forall2
import SheetTables.Layout.Forest

/-! # Forests side by side

Labels replaced one by one, and two forests of one shape whose labels are related pair by pair.
Both carry over to the lists of labels.
-/

namespace SheetTables
namespace Forest

variable {α β γ : Type}

@[simp] theorem toList_map (f : α → β) (F : Forest α) : (F.map f).toList = F.toList.map f := by
  induction F with
  | nil => rfl
  | node a children siblings ihc ihs => simp [map, toList, ihc, ihs]

@[simp] theorem map_map (g : β → γ) (f : α → β) (F : Forest α) :
    (F.map f).map g = F.map fun a => g (f a) := by
  induction F with
  | nil => rfl
  | node a children siblings ihc ihs => simp [map, ihc, ihs]

@[simp] theorem map_id' (F : Forest α) : F.map (fun a => a) = F := by
  induction F with
  | nil => rfl
  | node a children siblings ihc ihs => simp [map, ihc, ihs]

inductive Forall₂ (R : α → β → Prop) : Forest α → Forest β → Prop
  | nil : Forall₂ R nil nil
  | node {a : α} {b : β} {as as' : Forest α} {bs bs' : Forest β} (label : R a b)
    (children : Forall₂ R as bs) (siblings : Forall₂ R as' bs') :
    Forall₂ R (.node a as as') (.node b bs bs')

theorem Forall₂.toList {R : α → β → Prop} {F : Forest α} {G : Forest β} (h : Forall₂ R F G) :
    List.Forall₂ R F.toList G.toList := by
  induction h with
  | nil => exact .nil
  | node label _ _ ihc ihs => exact .cons label (List.rel_append ihc ihs)

theorem Forall₂.imp {R S : α → β → Prop} (hS : ∀ a b, R a b → S a b) {F : Forest α}
    {G : Forest β} (h : Forall₂ R F G) : Forall₂ S F G := by
  induction h with
  | nil => exact .nil
  | node label _ _ ihc ihs => exact .node (hS _ _ label) ihc ihs

theorem forall₂_map_map {R : β → γ → Prop} {f : α → β} {g : α → γ} {F : Forest α}
    (h : ∀ a ∈ F.toList, R (f a) (g a)) : Forall₂ R (F.map f) (F.map g) := by
  induction F with
  | nil => exact .nil
  | node a children siblings ihc ihs =>
    simp only [Forest.toList, List.mem_cons, List.mem_append] at h
    exact .node (h a (Or.inl rfl)) (ihc fun b hb => h b (Or.inr (Or.inl hb)))
      (ihs fun b hb => h b (Or.inr (Or.inr hb)))

end Forest
end SheetTables
