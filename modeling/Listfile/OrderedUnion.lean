set_option autoImplicit false

/-! Union of lists that keeps the order of first occurrence. -/

namespace Listfile

variable {α : Type} [DecidableEq α]

def insertNew (items : List α) (item : α) : List α := if item ∈ items then items else items ++ [item]

def orderedUnion (items additions : List α) : List α := additions.foldl insertNew items

@[simp] theorem orderedUnion_nil (items : List α) : orderedUnion items [] = items := rfl

@[simp] theorem orderedUnion_cons (items additions : List α) (addition : α) :
    orderedUnion items (addition :: additions) = orderedUnion (insertNew items addition) additions := rfl

theorem orderedUnion_append (items first second : List α) :
    orderedUnion items (first ++ second) = orderedUnion (orderedUnion items first) second :=
  List.foldl_append

end Listfile
