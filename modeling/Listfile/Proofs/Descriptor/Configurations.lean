import Listfile.Descriptor.Configurations
import Listfile.Proofs.Descriptor.Fields

set_option autoImplicit false

/-! What the readers of standards and build configurations read, and when they succeed. Targets keep the names
and the order of their entries. -/

namespace Listfile

open Schema

theorem readStandards_eq_ok_iff (top : Fields) (tag declared : String) (standards : LanguageStandards) :
    (readStandards top tag declared).outcome = .ok standards ↔
      top.requireScalars tag none = .ok standards.allowed ∧ standards.allowed ≠ [] ∧
        standards.declared = declared := by
  obtain ⟨written, allowed⟩ := standards
  simp only [readStandards, Attempt.outcome_bind, Attempt.outcome_lift, bind_eq_ok_iff]
  constructor
  · intro premise
    obtain ⟨found, read, rest⟩ := premise
    cases found with
    | nil => cases rest
    | cons first others =>
        cases rest
        exact ⟨read, List.cons_ne_nil first others, rfl⟩
  · intro premise
    obtain ⟨read, filled, same⟩ := premise
    refine ⟨allowed, read, ?_⟩
    cases allowed with
    | nil => exact absurd rfl filled
    | cons first others =>
        rw [← same]
        rfl

theorem readStandards_succeeds_iff (top : Fields) (tag declared : String) :
    (∃ standards, (readStandards top tag declared).outcome = .ok standards) ↔
      Required top.members tag (IsFilledListOf IsScalar) := by
  rw [← top.requireScalars_filled_iff tag none]
  simp only [readStandards_eq_ok_iff]
  constructor
  · intro premise
    obtain ⟨standards, read, filled, _same⟩ := premise
    exact ⟨standards.allowed, read, filled⟩
  · intro premise
    obtain ⟨allowed, read, filled⟩ := premise
    exact ⟨⟨declared, allowed⟩, read, filled, rfl⟩

theorem readTarget_eq_ok_iff (name : String) (value : Json) (target : BuildTarget) :
    readTarget name value = .ok target ↔
      target.name = name ∧ ∃ members, value = .object members ∧
        Json.member? members Tag.cppFlags = some (.array (target.cppFlags.map .string)) ∧
        Json.member? members Tag.cFlags = some (.array (target.cFlags.map .string)) := by
  obtain ⟨written, cFlags, cppFlags⟩ := target
  simp only [readTarget, bind_eq_ok_iff, Fields.ofEntry_eq_ok_iff, Fields.requireTexts_eq_ok_iff, Fields.get?]
  constructor
  · intro premise
    obtain ⟨fields, ⟨isObject, _parent⟩, _, cppRead, _, cRead, same⟩ := premise
    cases same
    exact ⟨rfl, fields.members, isObject, cppRead, cRead⟩
  · intro premise
    obtain ⟨same, members, isObject, cppRead, cRead⟩ := premise
    rw [same]
    exact ⟨⟨members, some name⟩, ⟨isObject, rfl⟩, cppFlags, cppRead, cFlags, cRead, rfl⟩

theorem readTarget_succeeds_iff (name : String) (value : Json) :
    (∃ target, readTarget name value = .ok target) ↔ IsObjectOf IsTarget value := by
  simp only [readTarget_eq_ok_iff]
  constructor
  · intro premise
    obtain ⟨target, _same, members, isObject, cppRead, cRead⟩ := premise
    exact ⟨members, isObject, ⟨_, cRead, (isListOf_isText_iff _).2 ⟨_, rfl⟩⟩,
      ⟨_, cppRead, (isListOf_isText_iff _).2 ⟨_, rfl⟩⟩⟩
  · intro premise
    obtain ⟨members, isObject, ⟨cValue, cRead, cTexts⟩, cppValue, cppRead, cppTexts⟩ := premise
    obtain ⟨cFlags, cSame⟩ := (isListOf_isText_iff cValue).1 cTexts
    obtain ⟨cppFlags, cppSame⟩ := (isListOf_isText_iff cppValue).1 cppTexts
    exact ⟨⟨name, cFlags, cppFlags⟩, rfl, members, isObject, by rw [cppRead, cppSame], by rw [cRead, cSame]⟩

theorem readTargets_eq_ok_iff (top : Fields) (targets : List BuildTarget) :
    readTargets top = .ok targets ↔
      ∃ members, top.get? Tag.targets = some (.object members) ∧ members ≠ [] ∧
        List.Forall₂ (fun member target => readTarget member.1 member.2 = .ok target) members targets := by
  simp only [readTargets, bind_eq_ok_iff, Fields.requireObject_eq_ok_iff, mapM_filled_eq_ok_iff]

theorem readTargets_names {top : Fields} {targets : List BuildTarget} (read : readTargets top = .ok targets) :
    targets.map BuildTarget.name = names top.members Tag.targets := by
  obtain ⟨members, present, _filled, related⟩ := (readTargets_eq_ok_iff top targets).1 read
  have kept := forall₂_map_eq Prod.fst BuildTarget.name related
    fun member target each => ((readTarget_eq_ok_iff _ _ _).1 each).1
  rw [kept, names, membersUnder_of_present present]

theorem readTargets_ne_nil {top : Fields} {targets : List BuildTarget} (read : readTargets top = .ok targets) :
    targets ≠ [] := by
  obtain ⟨members, _present, filled, related⟩ := (readTargets_eq_ok_iff top targets).1 read
  intro empty
  rw [empty, List.forall₂_nil_right_iff] at related
  exact filled related

theorem readTargets_succeeds_iff (top : Fields) :
    (∃ targets, readTargets top = .ok targets) ↔
      Required top.members Tag.targets (IsFilledMapOf (IsObjectOf IsTarget)) := by
  simp only [readTargets_eq_ok_iff]
  exact top.requireEntries_succeeds_iff Tag.targets _ (fun member => readTarget member.1 member.2)
    fun member => readTarget_succeeds_iff member.1 member.2

theorem readDefaultTarget_eq_ok_iff (top : Fields) (targets : List BuildTarget) (result : Option String) :
    readDefaultTarget top targets = .ok result ↔
      (result = none ∧ (top.optional Tag.defaultTarget = none ∨ top.optional Tag.defaultTarget = some (.string ""))) ∨
        ∃ name, result = some name ∧ top.optional Tag.defaultTarget = some (.string name) ∧ name ≠ "" ∧
          name ∈ targets.map BuildTarget.name := by
  simp only [readDefaultTarget, bind_eq_ok_iff, Fields.optionalText_eq_ok_iff]
  constructor
  · intro premise
    obtain ⟨declared, found, rest⟩ := premise
    cases declared with
    | none =>
        cases rest
        exact Or.inl ⟨rfl, Or.inl found⟩
    | some name =>
        dsimp only at rest
        split at rest
        · rename_i empty
          cases rest
          rw [empty] at found
          exact Or.inl ⟨rfl, Or.inr found⟩
        · rename_i filled
          split at rest
          · rename_i declaredTarget
            cases rest
            exact Or.inr ⟨name, rfl, found, filled, by simpa using declaredTarget⟩
          · cases rest
  · intro premise
    rcases premise with ⟨same, absent | empty⟩ | ⟨name, same, found, filled, member⟩
    · exact ⟨none, absent, by rw [same]; rfl⟩
    · exact ⟨some "", empty, by rw [same]; rfl⟩
    · refine ⟨some name, found, ?_⟩
      have declaredTarget : (targets.any fun target => decide (target.name = name)) = true := by simpa using member
      simp only [if_neg filled, declaredTarget, if_true, same]
      rfl

theorem readDefaultTarget_succeeds_iff (top : Fields) (targets : List BuildTarget) :
    (∃ result, readDefaultTarget top targets = .ok result) ↔
      Optional top.members Tag.defaultTarget fun value =>
        ∃ name, value = .string name ∧ (name = "" ∨ name ∈ targets.map BuildTarget.name) := by
  simp only [readDefaultTarget_eq_ok_iff, Fields.optional_iff]
  constructor
  · intro premise
    rcases premise with ⟨result, ⟨_same, absent | empty⟩ | ⟨name, _same, found, _filled, member⟩⟩
    · exact Or.inl absent
    · exact Or.inr ⟨_, empty, "", rfl, Or.inl rfl⟩
    · exact Or.inr ⟨_, found, name, rfl, Or.inr member⟩
  · intro premise
    rcases premise with absent | ⟨value, found, name, same, empty | member⟩
    · exact ⟨none, Or.inl ⟨rfl, Or.inl absent⟩⟩
    · rw [same, empty] at found
      exact ⟨none, Or.inl ⟨rfl, Or.inr found⟩⟩
    · rw [same] at found
      by_cases empty : name = ""
      · rw [empty] at found
        exact ⟨none, Or.inl ⟨rfl, Or.inr found⟩⟩
      · exact ⟨some name, Or.inr ⟨name, rfl, found, empty, member⟩⟩

end Listfile
