import Listfile.Json.Parser
import Mathlib.Data.List.Nodup

set_option autoImplicit false

/-! No object of a JSON text that has been read repeats a key: a key that occurs again in the text replaces the
value of its first occurrence. -/

namespace Listfile.Json

mutual

/-- Whether no object in the value repeats a key. -/
def distinctKeys : Json → Bool
  | .array items => distinctKeysInItems items
  | .object members => decide (members.map Prod.fst).Nodup && distinctKeysInMembers members
  | _ => true

def distinctKeysInItems : List Json → Bool
  | [] => true
  | item :: items => distinctKeys item && distinctKeysInItems items

def distinctKeysInMembers : List (String × Json) → Bool
  | [] => true
  | (_, value) :: members => distinctKeys value && distinctKeysInMembers members

end

theorem distinctKeysInItems_iff (items : List Json) :
    distinctKeysInItems items = true ↔ ∀ item ∈ items, item.distinctKeys = true := by
  induction items with
  | nil => simp [distinctKeysInItems]
  | cons item items ih => rw [distinctKeysInItems, Bool.and_eq_true, ih, List.forall_mem_cons]

theorem distinctKeysInMembers_iff (members : List (String × Json)) :
    distinctKeysInMembers members = true ↔ ∀ member ∈ members, member.2.distinctKeys = true := by
  induction members with
  | nil => simp [distinctKeysInMembers]
  | cons member members ih =>
      obtain ⟨key, value⟩ := member
      rw [distinctKeysInMembers, Bool.and_eq_true, ih, List.forall_mem_cons]

theorem distinctKeys_array_iff (items : List Json) :
    (array items).distinctKeys = true ↔ ∀ item ∈ items, item.distinctKeys = true := by
  rw [distinctKeys, distinctKeysInItems_iff]

theorem distinctKeys_object_iff (members : List (String × Json)) :
    (object members).distinctKeys = true ↔
      (members.map Prod.fst).Nodup ∧ ∀ member ∈ members, member.2.distinctKeys = true := by
  rw [distinctKeys, Bool.and_eq_true, decide_eq_true_iff, distinctKeysInMembers_iff]

theorem mem_keys_insertMember (key other : String) (value : Json) (members : List (String × Json)) :
    other ∈ (insertMember key value members).map Prod.fst ↔ other = key ∨ other ∈ members.map Prod.fst := by
  induction members with
  | nil => simp [insertMember]
  | cons member members ih =>
      obtain ⟨found, previous⟩ := member
      rw [insertMember]
      split
      · rename_i same
        simp only [List.map_cons, List.mem_cons, same, or_self_left]
      · simp only [List.map_cons, List.mem_cons, ih]
        tauto

theorem insertMember_nodup (key : String) (value : Json) {members : List (String × Json)}
    (distinct : (members.map Prod.fst).Nodup) : ((insertMember key value members).map Prod.fst).Nodup := by
  induction members with
  | nil => exact List.nodup_singleton key
  | cons member members ih =>
      obtain ⟨found, previous⟩ := member
      rw [List.map_cons, List.nodup_cons] at distinct
      rw [insertMember]
      split
      · rename_i same
        rw [List.map_cons, List.nodup_cons, ← same]
        exact distinct
      · rename_i apart
        rw [List.map_cons, List.nodup_cons, mem_keys_insertMember, not_or]
        exact ⟨⟨apart, distinct.1⟩, ih distinct.2⟩

theorem mem_insertMember {key : String} {value : Json} {members : List (String × Json)} {member : String × Json}
    (inserted : member ∈ insertMember key value members) : member = (key, value) ∨ member ∈ members := by
  induction members with
  | nil => exact Or.inl (List.mem_singleton.1 inserted)
  | cons first members ih =>
      obtain ⟨found, previous⟩ := first
      rw [insertMember] at inserted
      split at inserted
      · rcases List.mem_cons.1 inserted with same | later
        · exact Or.inl same
        · exact Or.inr (List.mem_cons_of_mem _ later)
      · rcases List.mem_cons.1 inserted with same | later
        · exact Or.inr (same ▸ List.mem_cons_self)
        · rcases ih later with same | old
          · exact Or.inl same
          · exact Or.inr (List.mem_cons_of_mem _ old)

/-- Whether whatever is read has a property. -/
def Outcome.Yields {α : Type} {input : List Char} (property : α → Prop) (outcome : Outcome α input) : Prop :=
  ∀ reading, outcome = .ok reading → property reading.value

namespace Outcome

variable {α β : Type} {input longer : List Char}

theorem yields_error (property : α → Prop) (failure : Failure) :
    Yields property (.error failure : Outcome α input) := by
  intro reading impossible
  cases impossible

theorem yields_ok {property : α → Prop} {reading : Reading α input} (holds : property reading.value) :
    Yields property (.ok reading : Outcome α input) := by
  intro other same
  cases same
  exact holds

theorem yields_widen {property : α → Prop} {outcome : Outcome α input} (holds : outcome.Yields property)
    (within : input.length ≤ longer.length) : (outcome.widen within).Yields property := by
  cases outcome with
  | error failure => exact yields_error property failure
  | ok reading => exact yields_ok (holds reading rfl)

theorem yields_change {property : β → Prop} {outcome : Outcome α input} {change : α → β}
    (holds : outcome.Yields fun value => property (change value)) : (outcome.change change).Yields property := by
  cases outcome with
  | error failure => exact yields_error property failure
  | ok reading => exact yields_ok (holds reading rfl)

theorem yields_after {property : α → Prop} {outcome : Outcome α input} (holds : outcome.Yields property)
    (first : Char) : (outcome.after first).Yields property := by
  cases outcome with
  | error failure => exact yields_error property failure
  | ok reading => exact yields_ok (holds reading rfl)

theorem yields_andThen {property : β → Prop} {outcome : Outcome α input}
    {next : (reading : Reading α input) → Outcome β reading.rest}
    (holds : ∀ reading, (next reading).Yields property) : (outcome.andThen next).Yields property := by
  cases outcome with
  | error failure => exact yields_error property failure
  | ok reading => exact yields_widen (holds reading) reading.within

end Outcome

open Outcome

variable {readItem : Reader Json} {property : Json → Prop}

theorem readItems_yields (each : ∀ input, (readItem input).Yields property) (input : List Char) :
    (readItems readItem input).Yields fun items => ∀ item ∈ items, property item := by
  fun_induction readItems readItem input with
  | case1 | case2 | case4 | case5 | case7 => exact yields_error _ _
  | case3 input item read rest _closed shorter =>
      refine yields_widen (yields_ok ?_) _
      exact List.forall_mem_singleton.2 (each input item read)
  | case6 input item read rest following others _more _open _comma shorter _separator ih =>
      refine yields_widen (yields_change ?_) _
      intro reading readRest
      exact List.forall_mem_cons.2 ⟨each input item read, ih reading readRest⟩

theorem readMemberValue_yields (each : ∀ input, (readItem input).Yields property) (key : String)
    (input : List Char) : (readMemberValue readItem key input).Yields fun member => property member.2 := by
  unfold readMemberValue
  split
  · exact yields_error _ _
  · split
    · refine yields_widen (yields_change ?_) _
      exact each _
    · exact yields_error _ _

theorem readMember_yields (each : ∀ input, (readItem input).Yields property) (input : List Char) :
    (readMember readItem input).Yields fun member => property member.2 := by
  unfold readMember
  split
  · exact yields_error _ _
  · split
    · exact yields_widen (yields_andThen fun key => readMemberValue_yields each key.value key.rest) _
    · exact yields_error _ _

/-- The members read so far have distinct keys, and one more member keeps them distinct. -/
theorem readMembers_yields (each : ∀ input, (readItem input).Yields property) (before : List (String × Json))
    (input : List Char) (distinct : (before.map Prod.fst).Nodup) (values : ∀ member ∈ before, property member.2) :
    (readMembers readItem before input).Yields fun members =>
      (members.map Prod.fst).Nodup ∧ ∀ member ∈ members, property member.2 := by
  have grown : ∀ (before : List (String × Json)) {input : List Char} (member : Reading (String × Json) input),
      readMember readItem input = .ok member → (∀ other ∈ before, property other.2) →
      ∀ other ∈ insertMember member.value.1 member.value.2 before, property other.2 := by
    intro before input member read values other inserted
    rcases mem_insertMember inserted with same | old
    · rw [same]
      exact readMember_yields each input member read
    · exact values other old
  fun_induction readMembers readItem before input with
  | case1 | case2 | case4 | case5 | case7 => exact yields_error _ _
  | case3 before input member read =>
      refine yields_widen (yields_ok ?_) _
      exact ⟨insertMember_nodup _ _ distinct, grown before member read values⟩
  | case6 before input member read members rest following others _more _open _comma shorter _separator ih =>
      exact yields_widen (ih (insertMember_nodup _ _ distinct) (grown before member read values)) _

theorem readArray_yields (each : ∀ input, (readItem input).Yields fun value => value.distinctKeys = true)
    (input : List Char) : (readArray readItem input).Yields fun value => value.distinctKeys = true := by
  unfold readArray
  split
  · exact yields_error _ _
  · split
    · refine yields_widen (yields_ok ?_) _
      rfl
    · refine yields_change ?_
      simp only [distinctKeys_array_iff]
      exact readItems_yields each input

theorem readObject_yields (each : ∀ input, (readItem input).Yields fun value => value.distinctKeys = true)
    (input : List Char) : (readObject readItem input).Yields fun value => value.distinctKeys = true := by
  unfold readObject
  split
  · exact yields_error _ _
  · split
    · refine yields_widen (yields_ok ?_) _
      rfl
    · refine yields_change ?_
      simp only [distinctKeys_object_iff]
      exact readMembers_yields each [] input List.nodup_nil fun member impossible => by cases impossible

theorem readScalar_yields (first : Char) (rest : List Char) :
    (readScalar first rest).Yields fun value => value.distinctKeys = true := by
  have named : ∀ (word : List Char) (value : Json), value.distinctKeys = true →
      (((readWord word rest).change fun _ => value).after first).Yields fun value => value.distinctKeys = true := by
    intro word value holds
    refine yields_after (yields_change ?_) first
    exact fun _reading _read => holds
  unfold readScalar
  split
  · exact named _ _ rfl
  split
  · exact named _ _ rfl
  split
  · exact named _ _ rfl
  split
  · exact yields_after (yields_change fun _reading _read => rfl) first
  split
  · exact yields_after (yields_change fun _reading _read => rfl) first
  split
  · exact yields_change fun _reading _read => rfl
  · exact yields_error _ _

theorem readValue_yields (depth : Nat) (input : List Char) :
    (readValue depth input).Yields fun value => value.distinctKeys = true := by
  induction depth generalizing input with
  | zero =>
      unfold readValue
      split
      · exact yields_error _ _
      · split
        · exact yields_error _ _
        · exact yields_widen (readScalar_yields _ _) _
  | succ inner ih =>
      unfold readValue
      split
      · exact yields_error _ _
      · split
        · refine yields_widen ?_ _
          split
          · exact readArray_yields ih _
          · exact readObject_yields ih _
        · exact yields_widen (readScalar_yields _ _) _

/-- Every value that is read from a text has distinct keys, however the text repeats them. -/
theorem parse_distinctKeys {text : String} {value : Json} (read : parse text = .ok value) :
    value.distinctKeys = true := by
  unfold parse readDocument at read
  cases found : readValue greatestDepth text.toList with
  | error failure =>
      rw [found] at read
      cases read
  | ok reading =>
      have holds := readValue_yields greatestDepth text.toList reading found
      rw [found] at read
      dsimp only at read
      cases after : skipBlanks reading.rest with
      | nil =>
          rw [after] at read
          cases read
          exact holds
      | cons next rest =>
          rw [after] at read
          cases read

end Listfile.Json
