import Mathlib.Data.List.Forall2
import Mathlib.Data.List.Nodup

set_option autoImplicit false

/-! General facts about lists: searches by a key, items that are left out, pieces of concatenations, sorting, and lists
that are related item by item. -/

namespace Listfile

variable {α β γ : Type}

section

variable [DecidableEq β] {view : α → β} {items others : List α}

/-- Where a view tells all items apart, what an item shows selects that item alone. -/
theorem filter_eq_singleton_of_nodup (distinct : (items.map view).Nodup) {item : α} (member : item ∈ items) :
    items.filter (fun other => view other = view item) = [item] := by
  induction items with
  | nil => cases member
  | cons first items ih =>
      rw [List.map_cons, List.nodup_cons] at distinct
      rcases List.mem_cons.1 member with same | later
      · have others : items.filter (fun other => view other = view item) = [] := by
          rw [List.filter_eq_nil_iff]
          intro other inItems
          rw [decide_eq_true_eq]
          intro sameView
          rw [← same, ← sameView] at distinct
          exact distinct.1 (List.mem_map_of_mem inItems)
        rw [List.filter_cons_of_pos (by simp [same]), others, same]
      · have apart : view first ≠ view item := by
          intro sameView
          rw [sameView] at distinct
          exact distinct.1 (List.mem_map_of_mem later)
        rw [List.filter_cons_of_neg (by simpa using apart)]
        exact ih distinct.2 later

theorem find?_eq_some_of_nodup (distinct : (items.map view).Nodup) {item : α} (member : item ∈ items) :
    items.find? (fun other => view other = view item) = some item := by
  rw [← List.head?_filter, filter_eq_singleton_of_nodup distinct member]
  rfl

theorem find?_eq_of_perm (distinct : (items.map view).Nodup) (order : items.Perm others) (shown : β) :
    items.find? (fun item => view item = shown) = others.find? (fun item => view item = shown) := by
  cases found : items.find? (fun item => view item = shown) with
  | none =>
      rw [List.find?_eq_none] at found
      exact (List.find?_eq_none.2 fun item member => found item (order.mem_iff.2 member)).symm
  | some item =>
      have named : view item = shown := by simpa using List.find?_some found
      rw [← named]
      exact (find?_eq_some_of_nodup ((order.map view).nodup_iff.1 distinct)
        (order.mem_iff.1 (List.mem_of_find?_eq_some found))).symm

end

theorem lookup_eq_none_iff_not_key (entries : List (String × β)) (key : String) :
    entries.lookup key = none ↔ key ∉ entries.map Prod.fst := by
  rw [List.lookup_eq_none_iff]
  simp only [bne_iff_ne, List.mem_map, not_exists, not_and]
  exact forall_congr' fun entry => forall_congr' fun _member => ne_comm

theorem mem_of_lookup_eq_some {entries : List (String × β)} {key : String} {value : β}
    (found : entries.lookup key = some value) : (key, value) ∈ entries := by
  obtain ⟨before, after, whole, _apart⟩ := List.lookup_eq_some_iff.1 found
  rw [whole]
  exact List.mem_append_right before List.mem_cons_self

theorem flatMap_eq_map_filter {results : α → List β} {wanted : α → Bool} {result : α → β}
    (each : ∀ item, results item = if wanted item then [result item] else []) (items : List α) :
    items.flatMap results = (items.filter wanted).map result := by
  induction items with
  | nil => rfl
  | cons item items ih =>
      rw [List.flatMap_cons, ih, each]
      cases isWanted : wanted item with
      | true => rw [List.filter_cons_of_pos isWanted, List.map_cons, if_pos rfl, List.singleton_append]
      | false => rw [List.filter_cons_of_neg (by simp [isWanted]), if_neg Bool.false_ne_true, List.nil_append]

theorem flatMap_eq_flatMap_filter {results : α → List β} (wanted : α → Bool) {items : List α}
    (silent : ∀ item ∈ items, wanted item = false → results item = []) :
    items.flatMap results = (items.filter wanted).flatMap results := by
  induction items with
  | nil => rfl
  | cons item items ih =>
      rw [List.forall_mem_cons] at silent
      cases isWanted : wanted item with
      | false =>
          rw [List.flatMap_cons, silent.1 isWanted, List.filter_cons_of_neg (by simp [isWanted]), ih silent.2]
          rfl
      | true => rw [List.filter_cons_of_pos isWanted, List.flatMap_cons, List.flatMap_cons, ih silent.2]

theorem filterMap_eq_filterMap_filter {view : α → Option β} (wanted : α → Bool)
    (blind : ∀ item, wanted item = false → view item = none) (items : List α) :
    items.filterMap view = (items.filter wanted).filterMap view := by
  rw [List.filterMap_filter]
  refine List.filterMap_congr fun item _member => ?_
  split
  · rfl
  · rename_i unwanted
    exact blind item (Bool.eq_false_iff.2 unwanted)

theorem infix_flatMap_of_mem {item : α} {items : List α} (member : item ∈ items) (results : α → List β) :
    results item <:+: items.flatMap results := by
  obtain ⟨earlier, later, parted⟩ := List.append_of_mem member
  refine ⟨earlier.flatMap results, later.flatMap results, ?_⟩
  rw [parted, List.flatMap_append, List.flatMap_cons, List.append_assoc]

theorem intercalate_cons_eq (between first : List α) (others : List (List α)) :
    between.intercalate (first :: others) = first ++ others.flatMap (between ++ ·) := by
  induction others generalizing first with
  | nil => rw [List.intercalate_singleton, List.flatMap_nil, List.append_nil]
  | cons second others ih => rw [List.intercalate_cons_cons, ih, List.flatMap_cons, List.append_assoc, List.append_assoc]

theorem mergeSort_cons_eq {before : α → α → Bool}
    (trans : ∀ first second third, before first second → before second third → before first third)
    (total : ∀ first second, before first second || before second first) (item : α) (items : List α) :
    (item :: items).mergeSort before = ((items.mergeSort before).filter fun other => !before item other) ++
      item :: (items.mergeSort before).filter fun other => before item other := by
  obtain ⟨smaller, larger, whole, others, first⟩ := List.mergeSort_cons trans total item items
  have sorted := List.pairwise_mergeSort trans total (item :: items)
  rw [whole, List.pairwise_append, List.pairwise_cons] at sorted
  have behind : ∀ other ∈ larger, before item other = true := sorted.2.1.1
  have none_smaller : smaller.filter (fun other => before item other) = [] :=
    List.filter_eq_nil_iff.2 fun other member => by simpa using first other member
  have none_larger : larger.filter (fun other => !before item other) = [] :=
    List.filter_eq_nil_iff.2 fun other member => by simpa using behind other member
  rw [whole, others, List.filter_append, List.filter_append, none_smaller, none_larger, List.filter_eq_self.2 first,
    List.filter_eq_self.2 behind, List.append_nil, List.nil_append]

theorem filter_mergeSort {before : α → α → Bool}
    (trans : ∀ first second third, before first second → before second third → before first third)
    (total : ∀ first second, before first second || before second first) (wanted : α → Bool) (items : List α) :
    (items.mergeSort before).filter wanted = (items.filter wanted).mergeSort before := by
  induction items with
  | nil => rw [List.mergeSort_nil, List.filter_nil, List.mergeSort_nil]
  | cons item items ih =>
      cases isWanted : wanted item with
      | false =>
          obtain ⟨smaller, larger, whole, others, _first⟩ := List.mergeSort_cons trans total item items
          rw [whole, List.filter_append, List.filter_cons_of_neg (by simp [isWanted]), ← List.filter_append, ← others,
            ih, List.filter_cons_of_neg (by simp [isWanted])]
      | true =>
          have around : ∀ side : α → Bool, ((items.mergeSort before).filter side).filter wanted =
              ((items.filter wanted).mergeSort before).filter side := by
            intro side
            rw [← ih, List.filter_filter, List.filter_filter]
            exact List.filter_congr fun _other _member => Bool.and_comm _ _
          rw [mergeSort_cons_eq trans total, List.filter_append, around, List.filter_cons_of_pos isWanted, around,
            List.filter_cons_of_pos isWanted, mergeSort_cons_eq trans total]

theorem forall₂_exists_left {relation : α → β → Prop} {items : List α} {results : List β}
    (related : List.Forall₂ relation items results) {result : β} (member : result ∈ results) :
    ∃ item ∈ items, relation item result := by
  induction related with
  | nil => cases member
  | cons head rest ih =>
      rcases List.mem_cons.1 member with same | later
      · rw [same]
        exact ⟨_, List.mem_cons_self, head⟩
      · obtain ⟨item, inItems, holds⟩ := ih later
        exact ⟨item, List.mem_cons_of_mem _ inItems, holds⟩

theorem forall₂_exists_right {relation : α → β → Prop} {items : List α} {results : List β}
    (related : List.Forall₂ relation items results) {item : α} (member : item ∈ items) :
    ∃ result ∈ results, relation item result :=
  forall₂_exists_left related.flip member

theorem forall₂_imp_of_mem {relation stronger : α → β → Prop} {items : List α} {results : List β}
    (related : List.Forall₂ relation items results)
    (step : ∀ item ∈ items, ∀ result ∈ results, relation item result → stronger item result) :
    List.Forall₂ stronger items results := by
  induction related with
  | nil => exact .nil
  | cons head rest ih =>
      refine .cons (step _ List.mem_cons_self _ List.mem_cons_self head) (ih ?_)
      exact fun item inItems result inResults =>
        step item (List.mem_cons_of_mem _ inItems) result (List.mem_cons_of_mem _ inResults)

theorem forall₂_map_eq {relation : α → β → Prop} (before : α → γ) (after : β → γ) {items : List α}
    {results : List β} (related : List.Forall₂ relation items results)
    (kept : ∀ item result, relation item result → after result = before item) :
    results.map after = items.map before := by
  induction related with
  | nil => rfl
  | cons head rest ih => rw [List.map_cons, List.map_cons, ih, kept _ _ head]

end Listfile
