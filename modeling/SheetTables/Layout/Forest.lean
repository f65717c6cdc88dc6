/-! # Forests

Ordered forests of labelled trees. A forest is empty, or it is a tree, with a label and a forest
of children, followed by its siblings.
-/

namespace SheetTables

inductive Forest (α : Type) where
  | nil
  | node (label : α) (children siblings : Forest α)

namespace Forest

variable {α β : Type}

def size : Forest α → Nat
  | nil => 0
  | node _ children siblings => children.size + siblings.size + 1

/-- The labels, each before those of its children. -/
def toList : Forest α → List α
  | nil => []
  | node a children siblings => a :: (children.toList ++ siblings.toList)

def roots : Forest α → List α
  | nil => []
  | node a _ siblings => a :: siblings.roots

def map (f : α → β) : Forest α → Forest β
  | nil => nil
  | node a children siblings => node (f a) (children.map f) (siblings.map f)

def isNil : Forest α → Bool
  | nil => true
  | _ => false

/-- Every label together with those of its children, in the order of `toList`. -/
def families : Forest α → List (α × List α)
  | nil => []
  | node a children siblings =>
    (a, children.roots) :: (children.families ++ siblings.families)

/-- A forest of trees given by a label and a forest of children each. -/
def ofTrees : List (α × Forest α) → Forest α
  | [] => nil
  | (a, children) :: trees => node a children (ofTrees trees)

/-- The forest whose trees are those of two forests. -/
def append : Forest α → Forest α → Forest α
  | nil, f => f
  | node a children siblings, f => node a children (siblings.append f)

@[simp] theorem length_toList (f : Forest α) : f.toList.length = f.size := by
  induction f with
  | nil => rfl
  | node a children siblings ihc ihs => simp [toList, size, ihc, ihs]

@[simp] theorem families_fst (f : Forest α) : f.families.map Prod.fst = f.toList := by
  induction f with
  | nil => rfl
  | node a children siblings ihc ihs => simp [families, toList, ihc, ihs]

end Forest
end SheetTables
