import Listfile.Proofs.OrderedUnion

set_option autoImplicit false

/-! The ordered union of two lists by what it is, not by how it is formed: the first list with the new items of the
second behind it, in the order in which they occur there first. A loop that keeps the items it has seen in a set forms
the same list, because the set holds what the list holds after every step. -/

namespace Listfile

variable {α : Type} [DecidableEq α]

/-- What a list of additions brings to some items: every addition that is not among them, once, ordered by where it
occurs first. -/
structure BringsNew (items additions new : List α) : Prop where
  member : ∀ item, item ∈ new ↔ item ∈ additions ∧ item ∉ items
  once : new.Nodup
  order : new.Pairwise fun left right => additions.idxOf left < additions.idxOf right

namespace BringsNew

variable {items additions new : List α} {addition : α}

theorem nil (items : List α) : BringsNew items [] [] where
  member := by simp
  once := List.nodup_nil
  order := List.Pairwise.nil

theorem order_cons (brings : BringsNew items additions new) (apart : ∀ item ∈ new, addition ≠ item) :
    new.Pairwise fun left right => (addition :: additions).idxOf left < (addition :: additions).idxOf right := by
  apply brings.order.imp_of_mem
  intro left right inLeft inRight before
  rw [List.idxOf_cons_ne _ (apart left inLeft), List.idxOf_cons_ne _ (apart right inRight)]
  exact Nat.succ_lt_succ before

theorem cons_known (brings : BringsNew items additions new) (known : addition ∈ items) :
    BringsNew items (addition :: additions) new where
  member := by
    intro item
    rw [brings.member, List.mem_cons]
    constructor
    · intro premise
      exact ⟨Or.inr premise.1, premise.2⟩
    · intro premise
      obtain ⟨same | later, absent⟩ := premise
      · rw [same] at absent
        exact absurd known absent
      · exact ⟨later, absent⟩
  once := brings.once
  order := by
    apply brings.order_cons
    intro item inNew same
    rw [same] at known
    exact ((brings.member item).1 inNew).2 known

theorem cons_fresh (brings : BringsNew (items ++ [addition]) additions new) (fresh : addition ∉ items) :
    BringsNew items (addition :: additions) (addition :: new) := by
  have later : ∀ item, item ∈ new ↔ item ∈ additions ∧ item ∉ items ∧ item ≠ addition := by
    intro item
    rw [brings.member, List.mem_append, List.mem_singleton, not_or]
  have apart : ∀ item ∈ new, addition ≠ item := fun item inNew same => ((later item).1 inNew).2.2 same.symm
  refine ⟨fun item => ?_, ?_, ?_⟩
  · rw [List.mem_cons, later, List.mem_cons]
    by_cases same : item = addition
    · simp [same, fresh]
    · simp [same]
  · exact List.nodup_cons.2 ⟨fun inNew => apart addition inNew rfl, brings.once⟩
  · apply List.pairwise_cons.2
    refine ⟨fun item inNew => ?_, brings.order_cons apart⟩
    rw [List.idxOf_cons_self, List.idxOf_cons_ne _ (apart item inNew)]
    exact Nat.succ_pos _

theorem unique {other : List α} (brings : BringsNew items additions new) (alsoBrings : BringsNew items additions other) :
    new = other := by
  have sameItems : new.Perm other := by
    apply (List.perm_ext_iff_of_nodup brings.once alsoBrings.once).2
    intro item
    rw [brings.member, alsoBrings.member]
  apply List.Perm.eq_of_pairwise _ brings.order alsoBrings.order sameItems
  intro left right _inNew _inOther before behind
  exact absurd before (Nat.lt_asymm behind)

end BringsNew

theorem exists_bringsNew (items additions : List α) :
    ∃ new, orderedUnion items additions = items ++ new ∧ BringsNew items additions new := by
  induction additions generalizing items with
  | nil => exact ⟨[], (List.append_nil items).symm, .nil items⟩
  | cons addition additions ih =>
      by_cases known : addition ∈ items
      · obtain ⟨new, whole, brings⟩ := ih items
        refine ⟨new, ?_, brings.cons_known known⟩
        rw [orderedUnion_cons, insertNew, if_pos known, whole]
      · obtain ⟨new, whole, brings⟩ := ih (items ++ [addition])
        refine ⟨addition :: new, ?_, brings.cons_fresh known⟩
        rw [orderedUnion_cons, insertNew, if_neg known, whole, List.append_assoc, List.singleton_append]

theorem eq_orderedUnion_iff (items additions whole : List α) :
    whole = orderedUnion items additions ↔ ∃ new, whole = items ++ new ∧ BringsNew items additions new := by
  obtain ⟨new, isUnion, brings⟩ := exists_bringsNew items additions
  constructor
  · intro same
    exact ⟨new, same.trans isUnion, brings⟩
  · intro premise
    obtain ⟨other, same, alsoBrings⟩ := premise
    rw [same, isUnion, brings.unique alsoBrings]

theorem orderedUnion_nodup_iff (items additions : List α) :
    (orderedUnion items additions).Nodup ↔ items.Nodup := by
  constructor
  · intro distinct
    rw [orderedUnion_eq_append] at distinct
    exact (List.nodup_append'.1 distinct).1
  · exact fun distinct => orderedUnion_nodup distinct additions

theorem orderedUnion_eq_self_iff (items additions : List α) :
    orderedUnion items additions = items ↔ ∀ addition ∈ additions, addition ∈ items := by
  constructor
  · intro same addition member
    rw [← same]
    exact (mem_orderedUnion items additions addition).2 (Or.inr member)
  · exact orderedUnion_of_subset

variable [Hashable α]

/-- One step of a loop that keeps a set beside its list: the item goes into the set, and to the end of the list if the
set did not hold it before. -/
def addUnseen (state : List α × Std.HashSet α) (item : α) : List α × Std.HashSet α :=
  (if item ∈ state.2 then state.1 else state.1 ++ [item], state.2.insert item)

def SeenAll (state : List α × Std.HashSet α) : Prop := ∀ item, item ∈ state.2 ↔ item ∈ state.1

variable {state : List α × Std.HashSet α}

theorem addUnseen_list (seen : SeenAll state) (item : α) : (addUnseen state item).1 = insertNew state.1 item := by
  unfold addUnseen insertNew
  by_cases known : item ∈ state.1
  · rw [if_pos known]
    exact if_pos ((seen item).2 known)
  · rw [if_neg known]
    exact if_neg fun inSet => known ((seen item).1 inSet)

theorem addUnseen_seen (seen : SeenAll state) (item : α) : SeenAll (addUnseen state item) := by
  intro other
  rw [addUnseen_list seen, mem_insertNew, ← seen other]
  show other ∈ state.2.insert item ↔ _
  rw [Std.HashSet.mem_insert, beq_iff_eq, or_comm, eq_comm]

theorem foldl_addUnseen (seen : SeenAll state) (additions : List α) :
    (additions.foldl addUnseen state).1 = orderedUnion state.1 additions ∧
      SeenAll (additions.foldl addUnseen state) := by
  induction additions generalizing state with
  | nil => exact ⟨rfl, seen⟩
  | cons addition additions ih =>
      obtain ⟨sameList, stillSeen⟩ := ih (addUnseen_seen seen addition)
      rw [List.foldl_cons, orderedUnion_cons, ← addUnseen_list seen]
      exact ⟨sameList, stillSeen⟩

theorem seenAll_ofList (items : List α) : SeenAll (items, Std.HashSet.ofList items) := by
  intro item
  rw [Std.HashSet.mem_ofList, List.contains_iff_mem]

/-- The ordered union is the first list with what is new in the second behind it. It repeats an item only if the first
list does, two unions in a row are one union with both lists of additions, and a list adds nothing exactly if all its
items are known. A loop that remembers in a set what it has seen forms the same list. -/
theorem orderedUnion_laws (items additions others : List α) :
    (∀ whole, whole = orderedUnion items additions ↔ ∃ new, whole = items ++ new ∧ BringsNew items additions new) ∧
    ((orderedUnion items additions).Nodup ↔ items.Nodup) ∧
    orderedUnion (orderedUnion items additions) others = orderedUnion items (additions ++ others) ∧
    (orderedUnion (orderedUnion items additions) others = orderedUnion items additions ↔
      ∀ other ∈ others, other ∈ orderedUnion items additions) ∧
    (additions.foldl addUnseen (items, Std.HashSet.ofList items)).1 = orderedUnion items additions ∧
    SeenAll (additions.foldl addUnseen (items, Std.HashSet.ofList items)) := by
  refine ⟨eq_orderedUnion_iff items additions, orderedUnion_nodup_iff items additions, ?_,
    orderedUnion_eq_self_iff _ others, ?_⟩
  · exact (orderedUnion_append items additions others).symm
  · exact foldl_addUnseen (seenAll_ofList items) additions

end Listfile
