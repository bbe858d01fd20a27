import Listfile.OrderedUnion
import Mathlib.Data.List.Nodup

set_option autoImplicit false

/-! What the ordered union of two lists holds and in which order: the first list as it is, then the items of
the second that are new, each where it occurs first. Unions can be formed in any grouping. -/

namespace Listfile

variable {α β : Type} [DecidableEq α]

theorem mem_insertNew (items : List α) (item other : α) :
    other ∈ insertNew items item ↔ other ∈ items ∨ other = item := by
  unfold insertNew
  split
  · rename_i present
    constructor
    · exact Or.inl
    · intro premise
      rcases premise with old | same
      · exact old
      · rw [same]
        exact present
  · rw [List.mem_append, List.mem_singleton]

theorem mem_orderedUnion (items additions : List α) (item : α) :
    item ∈ orderedUnion items additions ↔ item ∈ items ∨ item ∈ additions := by
  induction additions generalizing items with
  | nil => simp
  | cons addition additions ih =>
      rw [orderedUnion_cons, ih, mem_insertNew, List.mem_cons, or_assoc]

theorem orderedUnion_eq_nil_iff (items additions : List α) :
    orderedUnion items additions = [] ↔ items = [] ∧ additions = [] := by
  simp only [List.eq_nil_iff_forall_not_mem, mem_orderedUnion, not_or, forall_and]

theorem insertNew_nodup {items : List α} (distinct : items.Nodup) (item : α) : (insertNew items item).Nodup := by
  unfold insertNew
  split
  · exact distinct
  · rename_i absent
    exact List.nodup_append'.2 ⟨distinct, List.nodup_singleton item, by simpa using absent⟩

theorem orderedUnion_nodup {items : List α} (distinct : items.Nodup) (additions : List α) :
    (orderedUnion items additions).Nodup := by
  induction additions generalizing items with
  | nil => exact distinct
  | cons addition additions ih => exact ih (insertNew_nodup distinct addition)

theorem orderedUnion_eq_append (items additions : List α) :
    orderedUnion items additions = items ++ (additions.filter fun addition => addition ∉ items).eraseDups := by
  induction additions generalizing items with
  | nil => simp
  | cons addition additions ih =>
      rw [orderedUnion_cons, ih]
      by_cases present : addition ∈ items
      · rw [insertNew, if_pos present, List.filter_cons_of_neg (by simpa using present)]
      · rw [insertNew, if_neg present, List.filter_cons_of_pos (by simpa using present), List.eraseDups_cons,
          List.filter_filter, List.append_assoc, List.singleton_append]
        congr 3
        apply List.filter_congr
        intro other _member
        by_cases same : other = addition <;> simp [same]

theorem orderedUnion_nil_left (additions : List α) : orderedUnion [] additions = additions.eraseDups := by
  rw [orderedUnion_eq_append]
  simp

theorem orderedUnion_of_subset {items additions : List α} (known : ∀ addition ∈ additions, addition ∈ items) :
    orderedUnion items additions = items := by
  induction additions with
  | nil => rfl
  | cons addition additions ih =>
      rw [List.forall_mem_cons] at known
      rw [orderedUnion_cons, insertNew, if_pos known.1, ih known.2]

theorem orderedUnion_insertNew (items additions : List α) (addition : α) :
    orderedUnion items (insertNew additions addition) = insertNew (orderedUnion items additions) addition := by
  rw [insertNew]
  split
  · rename_i present
    rw [insertNew, if_pos ((mem_orderedUnion _ _ _).2 (Or.inr present))]
  · rw [orderedUnion_append, orderedUnion_cons, orderedUnion_nil]

theorem orderedUnion_assoc (items first second : List α) :
    orderedUnion items (orderedUnion first second) = orderedUnion (orderedUnion items first) second := by
  induction second generalizing first with
  | nil => rfl
  | cons addition second ih => rw [orderedUnion_cons, ih, orderedUnion_insertNew, orderedUnion_cons]

/-- It makes no difference if repetitions are left out beforehand. -/
theorem orderedUnion_flatMap_orderedUnion (items : List α) (parts : List β) (additions : β → List α) :
    orderedUnion items (parts.flatMap fun part => orderedUnion [] (additions part)) =
      orderedUnion items (parts.flatMap additions) := by
  induction parts generalizing items with
  | nil => rfl
  | cons part parts ih =>
      rw [List.flatMap_cons, orderedUnion_append, ih, orderedUnion_assoc, orderedUnion_nil, List.flatMap_cons,
        orderedUnion_append]

/-- Whether items can be told apart by what a view shows of them. -/
def Faithful (view : α → β) (items : List α) : Prop :=
  ∀ left ∈ items, ∀ right ∈ items, view left = view right → left = right

variable [DecidableEq β]

theorem map_insertNew (view : α → β) (items : List α) (item : α) (faithful : Faithful view (item :: items)) :
    (insertNew items item).map view = insertNew (items.map view) (view item) := by
  by_cases present : item ∈ items
  · rw [insertNew, if_pos present, insertNew, if_pos (List.mem_map_of_mem present)]
  · have absent : view item ∉ items.map view := by
      intro seen
      obtain ⟨other, member, same⟩ := List.mem_map.1 seen
      have equal := faithful other (List.mem_cons_of_mem item member) item List.mem_cons_self same
      rw [equal] at member
      exact present member
    rw [insertNew, if_neg present, insertNew, if_neg absent, List.map_append, List.map_singleton]

theorem map_orderedUnion (view : α → β) (items additions : List α)
    (faithful : Faithful view (items ++ additions)) :
    (orderedUnion items additions).map view = orderedUnion (items.map view) (additions.map view) := by
  induction additions generalizing items with
  | nil => rfl
  | cons addition additions ih =>
      have known : ∀ item, item ∈ insertNew items addition ++ additions → item ∈ items ++ addition :: additions := by
        intro item
        rw [List.mem_append, mem_insertNew, List.mem_append, List.mem_cons, or_assoc]
        exact id
      have first : ∀ item, item ∈ addition :: items → item ∈ items ++ addition :: additions := by
        intro item
        rw [List.mem_append, List.mem_cons, List.mem_cons]
        intro premise
        rcases premise with same | member
        · exact Or.inr (Or.inl same)
        · exact Or.inl member
      rw [orderedUnion_cons, List.map_cons, orderedUnion_cons,
        ih _ fun left inLeft right inRight => faithful left (known left inLeft) right (known right inRight),
        map_insertNew view items addition fun left inLeft right inRight =>
          faithful left (first left inLeft) right (first right inRight)]

end Listfile
