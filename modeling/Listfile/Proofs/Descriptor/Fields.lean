import Listfile.Proofs.Descriptor.Schema
import Listfile.Proofs.Outcomes

set_option autoImplicit false

/-! What the readers of fields read, and when they succeed. Each takes exactly one shape of the value under its
tag; an optional field may also be absent or null. -/

namespace Listfile

theorem Json.text?_eq_some_iff (value : Json) (text : String) : value.text? = some text ↔ value = .string text := by
  cases value <;> simp [Json.text?]

theorem mapM_text?_eq_some_iff (items : List Json) (texts : List String) :
    items.mapM Json.text? = some texts ↔ items = texts.map .string := by
  induction items generalizing texts with
  | nil => simp [eq_comm]
  | cons item items ih =>
      rw [List.mapM_cons]
      constructor
      · intro read
        obtain ⟨text, isText, rest⟩ := Option.bind_eq_some_iff.1 read
        obtain ⟨others, areTexts, same⟩ := Option.bind_eq_some_iff.1 rest
        cases same
        rw [List.map_cons, (Json.text?_eq_some_iff item text).1 isText, (ih others).1 areTexts]
      · intro same
        cases texts with
        | nil => cases same
        | cons text others =>
            rw [List.map_cons, List.cons.injEq] at same
            rw [(Json.text?_eq_some_iff item text).2 same.1, (ih others).2 same.2]
            rfl

theorem mapM_isSome_iff {α β : Type} (read : α → Option β) (items : List α) :
    (∃ results, items.mapM read = some results) ↔ ∀ item ∈ items, ∃ result, read item = some result := by
  induction items with
  | nil => simp
  | cons item items ih =>
      rw [List.forall_mem_cons, ← ih, List.mapM_cons]
      constructor
      · intro premise
        obtain ⟨results, succeeded⟩ := premise
        obtain ⟨result, first, rest⟩ := Option.bind_eq_some_iff.1 succeeded
        obtain ⟨others, second, _same⟩ := Option.bind_eq_some_iff.1 rest
        exact ⟨⟨result, first⟩, others, second⟩
      · intro premise
        obtain ⟨⟨result, first⟩, others, second⟩ := premise
        exact ⟨result :: others, by rw [first, second]; rfl⟩

theorem Json.scalar?_isSome_iff (value : Json) : (∃ text, value.scalar? = some text) ↔ Schema.IsScalar value := by
  cases value <;> simp [Json.scalar?, Schema.IsScalar]

theorem Schema.isListOf_texts_iff (property : String → Prop) (value : Json) :
    IsListOf (fun item => ∃ text, item = .string text ∧ property text) value ↔
      ∃ texts : List String, value = .array (texts.map .string) ∧ ∀ text ∈ texts, property text := by
  constructor
  · intro premise
    obtain ⟨items, same, each⟩ := premise
    obtain ⟨texts, read⟩ := (mapM_isSome_iff Json.text? items).2 fun item member =>
      (each item member).imp fun text isText => (Json.text?_eq_some_iff item text).2 isText.1
    have written := (mapM_text?_eq_some_iff items texts).1 read
    refine ⟨texts, by rw [same, written], ?_⟩
    intro text member
    obtain ⟨other, isText, holds⟩ := each (.string text) (by rw [written]; exact List.mem_map_of_mem member)
    cases isText
    exact holds
  · intro premise
    obtain ⟨texts, same, each⟩ := premise
    refine ⟨texts.map .string, same, ?_⟩
    intro item member
    obtain ⟨text, inTexts, written⟩ := List.mem_map.1 member
    exact ⟨text, written.symm, each text inTexts⟩

theorem Schema.isListOf_isText_iff (value : Json) :
    IsListOf IsText value ↔ ∃ texts : List String, value = .array (texts.map .string) := by
  have plain := isListOf_texts_iff (fun _text => True) value
  simp only [and_true, implies_true] at plain
  exact plain

namespace Fields

theorem require_eq_ok_iff (fields : Fields) (tag : String) (reason : Option String) (value : Json) :
    fields.require tag reason = .ok value ↔ fields.get? tag = some value := by
  unfold require
  cases fields.get? tag <;> simp

theorem asText_eq_ok_iff (fields : Fields) (tag : String) (value : Json) (text : String) :
    fields.asText tag value = .ok text ↔ value = .string text := by
  rw [← Json.text?_eq_some_iff]
  unfold asText
  cases value.text? <;> simp

theorem asScalar_eq_ok_iff (fields : Fields) (tag : String) (value : Json) (text : String) :
    fields.asScalar tag value = .ok text ↔ value.scalar? = some text := by
  unfold asScalar
  cases value.scalar? <;> simp

theorem asList_eq_ok_iff (fields : Fields) (tag expected : String) (read : Json → Option String) (value : Json)
    (texts : List String) :
    fields.asList tag expected read value = .ok texts ↔
      ∃ items, value = .array items ∧ items.mapM read = some texts := by
  cases value with
  | array items =>
      simp only [asList, Json.array.injEq, exists_eq_left']
      cases items.mapM read <;> simp
  | null => simp [asList]
  | bool value => simp [asList]
  | number value => simp [asList]
  | string text => simp [asList]
  | object members => simp [asList]

theorem asTexts_eq_ok_iff (fields : Fields) (tag : String) (value : Json) (texts : List String) :
    fields.asTexts tag value = .ok texts ↔ value = .array (texts.map .string) := by
  unfold asTexts
  rw [asList_eq_ok_iff]
  simp only [mapM_text?_eq_some_iff, exists_eq_right]

theorem asObject_eq_ok_iff (fields : Fields) (tag : String) (value : Json) (members : List (String × Json)) :
    fields.asObject tag value = .ok members ↔ value = .object members := by
  cases value <;> simp [asObject]

theorem requireText_eq_ok_iff (fields : Fields) (tag : String) (reason : Option String) (text : String) :
    fields.requireText tag reason = .ok text ↔ fields.get? tag = some (.string text) := by
  simp only [requireText, bind_eq_ok_iff, require_eq_ok_iff, asText_eq_ok_iff, exists_eq_right]

theorem requireTexts_eq_ok_iff (fields : Fields) (tag : String) (reason : Option String) (texts : List String) :
    fields.requireTexts tag reason = .ok texts ↔ fields.get? tag = some (.array (texts.map .string)) := by
  simp only [requireTexts, bind_eq_ok_iff, require_eq_ok_iff, asTexts_eq_ok_iff, exists_eq_right]

theorem requireScalars_eq_ok_iff (fields : Fields) (tag : String) (reason : Option String) (texts : List String) :
    fields.requireScalars tag reason = .ok texts ↔
      ∃ items, fields.get? tag = some (.array items) ∧ items.mapM Json.scalar? = some texts := by
  simp only [requireScalars, asScalars, bind_eq_ok_iff, require_eq_ok_iff, asList_eq_ok_iff]
  constructor
  · intro premise
    obtain ⟨value, present, items, same, read⟩ := premise
    rw [same] at present
    exact ⟨items, present, read⟩
  · intro premise
    obtain ⟨items, present, read⟩ := premise
    exact ⟨.array items, present, items, rfl, read⟩

theorem requireObject_eq_ok_iff (fields : Fields) (tag : String) (reason : Option String)
    (members : List (String × Json)) :
    fields.requireObject tag reason = .ok members ↔ fields.get? tag = some (.object members) := by
  simp only [requireObject, bind_eq_ok_iff, require_eq_ok_iff, asObject_eq_ok_iff, exists_eq_right]

theorem ofEntry_eq_ok_iff (tag name : String) (value : Json) (fields : Fields) :
    ofEntry tag name value = .ok fields ↔ value = .object fields.members ∧ fields.parent = some name := by
  obtain ⟨members, parent⟩ := fields
  cases value <;> simp [ofEntry, eq_comm]

theorem ofEntry_bind_eq_ok_iff {β : Type} (tag name : String) (value : Json) (next : Fields → Except Problem β)
    (result : β) :
    ofEntry tag name value >>= next = .ok result ↔
      ∃ members, value = .object members ∧ next ⟨members, some name⟩ = .ok result := by
  rw [bind_eq_ok_iff]
  constructor
  · intro premise
    obtain ⟨⟨members, parent⟩, read, rest⟩ := premise
    obtain ⟨isObject, sameParent⟩ := (ofEntry_eq_ok_iff tag name value _).1 read
    cases sameParent
    exact ⟨members, isObject, rest⟩
  · intro premise
    obtain ⟨members, isObject, rest⟩ := premise
    exact ⟨⟨members, some name⟩, (ofEntry_eq_ok_iff tag name value _).2 ⟨isObject, rfl⟩, rest⟩

theorem optional_eq_none_iff (fields : Fields) (tag : String) :
    fields.optional tag = none ↔ ∀ value, fields.get? tag = some value → value = .null := by
  unfold optional
  cases fields.get? tag with
  | none => simp
  | some value => cases value <;> simp

theorem optional_eq_some_iff (fields : Fields) (tag : String) (value : Json) :
    fields.optional tag = some value ↔ fields.get? tag = some value ∧ value ≠ .null := by
  unfold optional
  cases fields.get? tag with
  | none => simp
  | some found => cases found <;> simp +contextual [eq_comm]

theorem optionalText_eq_ok_iff (fields : Fields) (tag : String) (text : Option String) :
    fields.optionalText tag = .ok text ↔ fields.optional tag = text.map .string := by
  unfold optionalText
  cases fields.optional tag with
  | none => cases text <;> simp
  | some value =>
      simp only [map_eq_ok_iff, asText_eq_ok_iff]
      cases text <;> simp

theorem optionalScalar_eq_ok_iff (fields : Fields) (tag : String) (text : Option String) :
    fields.optionalScalar tag = .ok text ↔
      (fields.optional tag = none ∧ text = none) ∨
        ∃ value written, fields.optional tag = some value ∧ value.scalar? = some written ∧ text = some written := by
  unfold optionalScalar
  cases fields.optional tag with
  | none => simp [eq_comm]
  | some value =>
      simp only [map_eq_ok_iff, asScalar_eq_ok_iff]
      simp [eq_comm]

theorem optionalTexts_eq_ok_iff (fields : Fields) (tag : String) (texts : List String) :
    fields.optionalTexts tag = .ok texts ↔
      (fields.optional tag = none ∧ texts = []) ∨ fields.optional tag = some (.array (texts.map .string)) := by
  unfold optionalTexts
  cases fields.optional tag with
  | none => simp [eq_comm]
  | some value => simp [asTexts_eq_ok_iff]

theorem optionalObject_eq_ok_iff (fields : Fields) (tag : String) (members : List (String × Json)) :
    fields.optionalObject tag = .ok members ↔
      (fields.optional tag = none ∧ members = []) ∨ fields.optional tag = some (.object members) := by
  unfold optionalObject
  cases fields.optional tag with
  | none => simp [eq_comm]
  | some value => simp [asObject_eq_ok_iff]

/-! ### Success -/

open Schema

/-- A required field is there in one written form exactly if it has the shape of that form. -/
theorem required_form_iff {α : Type} {form : α → Json} {shape : Json → Prop}
    (known : ∀ value, shape value ↔ ∃ content, value = form content) (fields : Fields) (tag : String) :
    (∃ content, fields.get? tag = some (form content)) ↔ Required fields.members tag shape := by
  constructor
  · intro premise
    obtain ⟨content, present⟩ := premise
    exact ⟨_, present, (known _).2 ⟨content, rfl⟩⟩
  · intro premise
    obtain ⟨value, present, shaped⟩ := premise
    obtain ⟨content, same⟩ := (known value).1 shaped
    rw [same] at present
    exact ⟨content, present⟩

theorem requireText_succeeds_iff (fields : Fields) (tag : String) (reason : Option String) :
    (∃ text, fields.requireText tag reason = .ok text) ↔ Required fields.members tag IsText := by
  simp only [requireText_eq_ok_iff]
  exact required_form_iff (fun _value => Iff.rfl) fields tag

theorem requireTexts_succeeds_iff (fields : Fields) (tag : String) (reason : Option String) :
    (∃ texts, fields.requireTexts tag reason = .ok texts) ↔ Required fields.members tag (IsListOf IsText) := by
  simp only [requireTexts_eq_ok_iff]
  exact required_form_iff isListOf_isText_iff fields tag

theorem requireTexts_filled_iff (fields : Fields) (tag : String) (reason : Option String) :
    (∃ texts, fields.requireTexts tag reason = .ok texts ∧ texts ≠ []) ↔
      Required fields.members tag (IsFilledListOf IsText) := by
  simp only [requireTexts_eq_ok_iff, get?]
  constructor
  · intro premise
    obtain ⟨texts, present, filled⟩ := premise
    have areTexts : IsListOf IsText (.array (texts.map .string)) := (isListOf_isText_iff _).2 ⟨texts, rfl⟩
    obtain ⟨items, same, each⟩ := areTexts
    cases same
    exact ⟨_, present, _, rfl, by simpa using filled, each⟩
  · intro premise
    obtain ⟨value, present, items, same, filled, each⟩ := premise
    have areTexts : IsListOf IsText value := ⟨items, same, each⟩
    obtain ⟨texts, written⟩ := (isListOf_isText_iff value).1 areTexts
    rw [written] at present same
    cases same
    exact ⟨texts, present, by simpa using filled⟩

theorem requireScalars_filled_iff (fields : Fields) (tag : String) (reason : Option String) :
    (∃ texts, fields.requireScalars tag reason = .ok texts ∧ texts ≠ []) ↔
      Required fields.members tag (IsFilledListOf IsScalar) := by
  simp only [requireScalars_eq_ok_iff, get?]
  constructor
  · intro premise
    obtain ⟨texts, ⟨items, present, read⟩, filled⟩ := premise
    have each : ∀ item ∈ items, ∃ text, item.scalar? = some text := (mapM_isSome_iff _ _).1 ⟨texts, read⟩
    refine ⟨_, present, items, rfl, ?_, fun item member => (Json.scalar?_isSome_iff item).1 (each item member)⟩
    intro empty
    rw [empty, List.mapM_nil] at read
    exact filled (Option.some.inj read).symm
  · intro premise
    obtain ⟨value, present, items, same, filled, each⟩ := premise
    obtain ⟨texts, read⟩ := (mapM_isSome_iff Json.scalar? items).2
      fun item member => (Json.scalar?_isSome_iff item).2 (each item member)
    rw [same] at present
    refine ⟨texts, ⟨items, present, read⟩, ?_⟩
    intro empty
    cases items with
    | nil => exact filled rfl
    | cons item items =>
        rw [empty, List.mapM_cons] at read
        obtain ⟨first, _isFirst, rest⟩ := Option.bind_eq_some_iff.1 read
        obtain ⟨others, _areOthers, impossible⟩ := Option.bind_eq_some_iff.1 rest
        cases impossible

/-- An optional field is absent or null, or its value has been seen to be of the shape. -/
theorem optional_iff (fields : Fields) (tag : String) (shape : Json → Prop) :
    Optional fields.members tag shape ↔
      fields.optional tag = none ∨ ∃ value, fields.optional tag = some value ∧ shape value := by
  simp only [optional_eq_none_iff, optional_eq_some_iff, Optional, get?]
  cases Json.member? fields.members tag with
  | none => simp
  | some value => by_cases null : value = .null <;> simp [null]

theorem optional_form_iff {α : Type} {form : α → Json} {shape : Json → Prop}
    (known : ∀ value, shape value ↔ ∃ content, value = form content) (fields : Fields) (tag : String) :
    (fields.optional tag = none ∨ ∃ content, fields.optional tag = some (form content)) ↔
      Optional fields.members tag shape := by
  rw [optional_iff]
  refine or_congr_right ?_
  simp only [known]
  constructor
  · intro premise
    obtain ⟨content, present⟩ := premise
    exact ⟨_, present, content, rfl⟩
  · intro premise
    obtain ⟨value, present, content, same⟩ := premise
    rw [same] at present
    exact ⟨content, present⟩

theorem optionalText_succeeds_iff (fields : Fields) (tag : String) :
    (∃ text, fields.optionalText tag = .ok text) ↔ Optional fields.members tag IsText := by
  have known : ∀ value, IsText value ↔ ∃ text, value = .string text := fun _value => Iff.rfl
  rw [← optional_form_iff known fields tag]
  simp only [optionalText_eq_ok_iff, Option.exists, Option.map_none, Option.map_some]

theorem optionalText_present_iff {fields : Fields} {tag : String} {text : Option String}
    (read : fields.optionalText tag = .ok text) : text ≠ none ↔ Required fields.members tag IsText := by
  have same := (fields.optionalText_eq_ok_iff tag text).1 read
  constructor
  · intro present
    obtain ⟨written, isSome⟩ := Option.ne_none_iff_exists'.1 present
    rw [isSome] at same
    exact ⟨_, ((fields.optional_eq_some_iff tag _).1 same).1, written, rfl⟩
  · intro premise absent
    obtain ⟨value, present, written, isText⟩ := premise
    rw [absent] at same
    have isNull := (fields.optional_eq_none_iff tag).1 same value present
    rw [isText] at isNull
    cases isNull

theorem optionalScalar_succeeds_iff (fields : Fields) (tag : String) :
    (∃ text, fields.optionalScalar tag = .ok text) ↔ Optional fields.members tag IsScalar := by
  simp only [optionalScalar_eq_ok_iff, optional_iff, ← Json.scalar?_isSome_iff]
  constructor
  · intro premise
    rcases premise with ⟨text, ⟨absent, _none⟩ | ⟨value, written, present, read, _some⟩⟩
    · exact Or.inl absent
    · exact Or.inr ⟨value, present, written, read⟩
  · intro premise
    rcases premise with absent | ⟨value, present, written, read⟩
    · exact ⟨none, Or.inl ⟨absent, rfl⟩⟩
    · exact ⟨some written, Or.inr ⟨value, written, present, read, rfl⟩⟩

theorem optionalTexts_succeeds_iff (fields : Fields) (tag : String) :
    (∃ texts, fields.optionalTexts tag = .ok texts) ↔ Optional fields.members tag (IsListOf IsText) := by
  rw [← optional_form_iff isListOf_isText_iff fields tag]
  simp only [optionalTexts_eq_ok_iff, exists_or, exists_and_left, exists_eq, and_true]

theorem kind_succeeds_iff {κ : Type} {fields : Fields} {read : Except Problem κ} {word : κ → String}
    (reads : ∀ kind, read = .ok kind ↔
      ∃ written, fields.get? Tag.kind = some (.string written) ∧ Text.lowercase written = word kind)
    {kinds : List κ} (all : ∀ kind, kind ∈ kinds) :
    (∃ kind, read = .ok kind) ↔ Required fields.members Tag.kind (IsWordOf (kinds.map word)) := by
  simp only [reads]
  constructor
  · intro premise
    obtain ⟨kind, written, present, same⟩ := premise
    refine ⟨_, present, written, rfl, ?_⟩
    rw [same]
    exact List.mem_map_of_mem (all kind)
  · intro premise
    obtain ⟨value, present, written, isText, known⟩ := premise
    obtain ⟨kind, _member, same⟩ := List.mem_map.1 known
    rw [isText] at present
    exact ⟨kind, written, present, same.symm⟩

variable {β : Type}

theorem requireEntries_succeeds_iff (fields : Fields) (tag : String) (shape : Json → Prop)
    (readEntry : String × Json → Except Problem β)
    (each : ∀ member, (∃ result, readEntry member = .ok result) ↔ shape member.2) :
    (∃ results members, fields.get? tag = some (.object members) ∧ members ≠ [] ∧
        List.Forall₂ (fun member result => readEntry member = .ok result) members results) ↔
      Required fields.members tag (IsFilledMapOf shape) := by
  constructor
  · intro premise
    obtain ⟨results, members, present, filled, related⟩ := premise
    have all := (mapM_succeeds_iff readEntry members).1 ⟨results, (mapM_eq_ok_iff _ _ _).2 related⟩
    exact ⟨_, present, members, rfl, filled, fun member inMembers => (each member).1 (all member inMembers)⟩
  · intro premise
    obtain ⟨value, present, members, same, filled, all⟩ := premise
    rw [same] at present
    obtain ⟨results, read⟩ := (mapM_succeeds_iff readEntry members).2
      fun member inMembers => (each member).2 (all member inMembers)
    exact ⟨results, members, present, filled, (mapM_eq_ok_iff _ _ _).1 read⟩

theorem optionalEntries_succeeds_iff (fields : Fields) (tag : String) (shape : String × Json → Prop)
    (readEntry : List (String × Json) → String × Json → Except Problem β)
    (each : ∀ members member, (∃ result, readEntry members member = .ok result) ↔ shape member) :
    (∃ results members, fields.optionalObject tag = .ok members ∧
        List.Forall₂ (fun member result => readEntry members member = .ok result) members results) ↔
      Optional fields.members tag (IsObjectOf fun members => ∀ member ∈ members, shape member) := by
  simp only [optionalObject_eq_ok_iff, optional_iff]
  constructor
  · intro premise
    rcases premise with ⟨results, members, ⟨absent, _none⟩ | present, related⟩
    · exact Or.inl absent
    · have all := (mapM_succeeds_iff (readEntry members) members).1 ⟨results, (mapM_eq_ok_iff _ _ _).2 related⟩
      exact Or.inr ⟨_, present, members, rfl, fun member inMembers => (each members member).1 (all member inMembers)⟩
  · intro premise
    rcases premise with absent | ⟨value, present, members, same, all⟩
    · exact ⟨[], [], Or.inl ⟨absent, rfl⟩, .nil⟩
    · rw [same] at present
      obtain ⟨results, read⟩ := (mapM_succeeds_iff (readEntry members) members).2
        fun member inMembers => (each members member).2 (all member inMembers)
      exact ⟨results, members, Or.inr present, (mapM_eq_ok_iff _ _ _).1 read⟩

end Fields

theorem membersUnder_of_present {fields : Fields} {tag : String} {members : List (String × Json)}
    (present : fields.get? tag = some (.object members)) : (Json.object fields.members).membersUnder tag = members := by
  rw [Json.membersUnder, show Json.member? fields.members tag = _ from present]

theorem membersUnder_of_optional {fields : Fields} {tag : String} {members : List (String × Json)}
    (read : fields.optionalObject tag = .ok members) : (Json.object fields.members).membersUnder tag = members := by
  rcases (fields.optionalObject_eq_ok_iff tag members).1 read with ⟨absent, empty⟩ | present
  · rw [Json.membersUnder, empty]
    have noObject := (fields.optional_eq_none_iff tag).1 absent
    split
    · rename_i inner found
      cases noObject _ found
    · rfl
  · exact membersUnder_of_present ((fields.optional_eq_some_iff tag _).1 present).1

end Listfile
