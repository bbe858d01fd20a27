import Listfile.Proofs.Descriptor.Agreement
import Listfile.Proofs.Descriptor.Links
import Mathlib.Data.List.Nodup
import Mathlib.Logic.Relation

set_option autoImplicit false

/-! Ways to write the same descriptor. The order of the members of an object does not count, keys that the schema does
not know do not count, and an optional field that is null is as good as absent. The order of the entries in the maps
of a descriptor does count, and is left alone here. -/

namespace Listfile

namespace Schema

inductive Respelled (rules : List Rule) : List (String × Json) → List (String × Json) → Prop where
  | reordered {members others : List (String × Json)} :
      (members.map Prod.fst).Nodup → members.Perm others → Respelled rules members others
  | foreign (before after : List (String × Json)) {key : String} (value : Json) :
      key ∉ rules.map Rule.tag → Respelled rules (before ++ after) (before ++ (key, value) :: after)
  | null (before after : List (String × Json)) {rule : Rule} :
      rule ∈ rules → rule.presence = .optional → rule.tag ∉ (before ++ after).map Prod.fst →
        Respelled rules (before ++ after) (before ++ (rule.tag, .null) :: after)

/-- Descriptors of which one object is written in another way: the descriptor itself, or the value of an entry. -/
inductive RespelledDescriptor : Json → Json → Prop where
  | top {members others : List (String × Json)} :
      Respelled topRules members others → RespelledDescriptor (.object members) (.object others)
  | entry (before after earlier later : List (String × Json)) {tag : String} {rules : List Rule} (name : String)
      {members others : List (String × Json)} :
      (tag, rules) ∈ entryRules → Respelled rules members others →
        RespelledDescriptor
          (.object (before ++ (tag, .object (earlier ++ (name, .object members) :: later)) :: after))
          (.object (before ++ (tag, .object (earlier ++ (name, .object others) :: later)) :: after))

end Schema

open Schema

theorem member?_insert_of_ne {key tag : String} (apart : tag ≠ key) (before after : List (String × Json))
    (value : Json) :
    Json.member? (before ++ (key, value) :: after) tag = Json.member? (before ++ after) tag := by
  have different : (tag == key) = false := beq_eq_false_iff_ne.2 apart
  simp only [Json.member?, List.lookup_append, List.lookup_cons, different]

theorem member?_eq_of_perm {members others : List (String × Json)} (order : members.Perm others)
    (distinct : (members.map Prod.fst).Nodup) (tag : String) :
    Json.member? members tag = Json.member? others tag := by
  unfold Json.member?
  induction order with
  | nil => rfl
  | cons member _order ih =>
      rw [List.map_cons, List.nodup_cons] at distinct
      rw [List.lookup_cons, List.lookup_cons, ih distinct.2]
  | swap first second members =>
      obtain ⟨firstKey, firstValue⟩ := first
      obtain ⟨secondKey, secondValue⟩ := second
      rw [List.map_cons, List.map_cons, List.nodup_cons, List.mem_cons, not_or] at distinct
      simp only [List.lookup_cons]
      by_cases isFirst : tag = firstKey
      · have notSecond : (firstKey == secondKey) = false := beq_eq_false_iff_ne.2 (Ne.symm distinct.1.1)
        simp only [isFirst, notSecond, beq_self_eq_true]
      · have notFirst : (tag == firstKey) = false := beq_eq_false_iff_ne.2 isFirst
        simp only [notFirst]
  | trans orderLeft _orderRight ihLeft ihRight =>
      have distinctBetween := (orderLeft.map Prod.fst).nodup_iff.1 distinct
      exact (ihLeft distinct).trans (ihRight distinctBetween)

namespace Schema

theorem Rule.view_insert_null {rule : Rule} (isOptional : rule.presence = .optional)
    {before after : List (String × Json)} (absent : rule.tag ∉ (before ++ after).map Prod.fst) :
    rule.view (before ++ after) = rule.view (before ++ (rule.tag, .null) :: after) := by
  rw [List.map_append, List.mem_append, not_or] at absent
  obtain ⟨notBefore, notAfter⟩ := absent
  rw [← lookup_eq_none_iff_not_key] at notBefore notAfter
  simp [view, isOptional, Fields.optional, Fields.get?, Json.member?, List.lookup_append, notBefore, notAfter]

theorem Respelled.agree {rules : List Rule} (distinct : (rules.map Rule.tag).Nodup)
    {members others : List (String × Json)} (respelled : Respelled rules members others) :
    Agree rules members others := by
  intro rule known
  cases respelled with
  | reordered distinctKeys order => exact Rule.view_eq_of_member? (member?_eq_of_perm order distinctKeys rule.tag)
  | foreign before after value unknown =>
      have apart := ne_of_mem_of_not_mem (List.mem_map_of_mem known) unknown
      exact Rule.view_eq_of_member? (member?_insert_of_ne apart before after value).symm
  | null before after knownNull isOptional absent =>
      rename_i nullRule
      by_cases same : rule.tag = nullRule.tag
      · cases List.inj_on_of_nodup_map distinct known knownNull same
        exact Rule.view_insert_null isOptional absent
      · exact Rule.view_eq_of_member? (member?_insert_of_ne same before after .null).symm

theorem respelled_entries {rules : List Rule} {members others : List (String × Json)}
    (agree : Agree rules members others) (name : String) (earlier later : List (String × Json)) :
    List.Forall₂ (AlikeEntry rules) (earlier ++ (name, .object members) :: later)
      (earlier ++ (name, .object others) :: later) := by
  have unchanged : ∀ entries : List (String × Json), List.Forall₂ (AlikeEntry rules) entries entries :=
    fun entries => List.forall₂_same.2 fun entry _member => .same entry
  exact List.rel_append (unchanged earlier) (.cons (.objects name agree) (unchanged later))

theorem entryRules_lookup : ∀ entry ∈ entryRules, entryRules.lookup entry.1 = some entry.2 := by decide

theorem entryRules_distinct : ∀ entry ∈ entryRules, (entry.2.map Rule.tag).Nodup := by decide

/-- The same member with another value: what another field shows stays, and this field shows the new value, unless an
earlier member has its key. -/
theorem member?_replace (before after : List (String × Json)) (key tag : String) (value other : Json) :
    Json.member? (before ++ (key, value) :: after) tag = Json.member? (before ++ (key, other) :: after) tag ∨
      tag = key ∧ Json.member? (before ++ (key, value) :: after) tag = some value ∧
        Json.member? (before ++ (key, other) :: after) tag = some other := by
  by_cases same : tag = key
  · simp only [Json.member?, List.lookup_append, List.lookup_cons, same, beq_self_eq_true]
    cases before.lookup key with
    | none => exact Or.inr ⟨trivial, rfl, rfl⟩
    | some found => exact Or.inl rfl
  · rw [member?_insert_of_ne same, member?_insert_of_ne same]
    exact Or.inl rfl

theorem Rule.view_of_object {rule : Rule} {members entries : List (String × Json)}
    (found : Json.member? members rule.tag = some (.object entries)) : rule.view members = some (.object entries) := by
  unfold view
  cases rule.presence with
  | optional => simp only [Fields.optional, Fields.get?, found]
  | required => exact found
  | filled => exact found

theorem RespelledDescriptor.agree {descriptor other : Json} (respelled : RespelledDescriptor descriptor other) :
    ∃ left right, descriptor = .object left ∧ other = .object right ∧ TopAgree left right := by
  cases respelled with
  | @top left right respelledTop =>
      refine ⟨left, right, rfl, rfl, ?_⟩
      intro rule known
      rw [respelledTop.agree (by decide) rule known]
      exact .same _
  | @entry before after earlier later tag rules name members others known respelledEntry =>
      refine ⟨_, _, rfl, rfl, ?_⟩
      have related := respelled_entries (respelledEntry.agree (entryRules_distinct _ known)) name earlier later
      intro rule _known
      rcases member?_replace before after tag rule.tag (.object (earlier ++ (name, .object members) :: later))
        (.object (earlier ++ (name, .object others) :: later)) with same | ⟨sameTag, found, foundOther⟩
      · rw [Rule.view_eq_of_member? same]
        exact .same _
      · have rulesFound : entryRules.lookup rule.tag = some rules := by
          rw [sameTag]
          exact entryRules_lookup _ known
        rw [rulesFound, Rule.view_of_object found, Rule.view_of_object foundOther]
        exact .maps related

end Schema

/-- Only the fields of the schema matter: however the same descriptor is written, the resolution gives the same project
or the same problem, and logs the same on the way. -/
theorem resolveDescriptor_eq_of_respelled (tree : FileTree) (root : Path) (descriptor other : Json)
    (respelled : Relation.EqvGen RespelledDescriptor descriptor other) :
    resolveDescriptor tree root descriptor = resolveDescriptor tree root other := by
  induction respelled with
  | rel descriptor other step =>
      obtain ⟨left, right, isLeft, isRight, agree⟩ := step.agree
      rw [isLeft, isRight]
      exact resolveDescriptor_congr tree root agree
  | refl descriptor => rfl
  | symm descriptor other _respelled ih => exact ih.symm
  | trans descriptor between other _first _second ihFirst ihSecond => exact ihFirst.trans ihSecond

namespace Schema

def smallHead : List (String × Json) :=
  [(Tag.minimumVersion, .string "3.20"), (Tag.projectName, .string "demo"), (Tag.allowedCStandards, .texts ["11"]),
    (Tag.allowedCppStandards, .texts ["17"])]

def smallTail : List (String × Json) := [(Tag.importedLibraries, .object []), (Tag.linkLibraries, .object [])]

/-- A descriptor with a comment, a target whose flags come in the other order, and a null in its output. -/
def commentedDescriptor : Json :=
  .object (("comment", .string "nobody reads this") :: smallHead ++
    [(Tag.targets, .object [("debug", .object [(Tag.cppFlags, .texts []), (Tag.cFlags, .texts ["-g"])])]),
      (Tag.output, .object [("app", .object [(Tag.includeDirectories, .null), (Tag.kind, .string "executable"),
        (Tag.baseFile, .string "main.c"), (Tag.sourceDirectories, .texts []), (Tag.headerDirectories, .texts []),
        (Tag.searchedIncludeDirectories, .texts []), (Tag.executableDirectory, .string "bin")])])] ++ smallTail)

end Schema

/-- The plain descriptor becomes the commented one in three steps, one of each kind. -/
theorem respelled_commentedDescriptor :
    Relation.EqvGen RespelledDescriptor
      (descriptorOf [("debug", targetEntry ["-g"] [])] [("app", executableEntry "main.c")] [] [])
      commentedDescriptor := by
  have targetsKnown : (Tag.targets, targetRules) ∈ entryRules := by decide
  have outputKnown : (Tag.output, outputRules ++ executableRules ++ builtLibraryRules) ∈ entryRules := by decide
  have optionalKnown : ⟨Tag.includeDirectories, .texts, .optional⟩ ∈
    outputRules ++ executableRules ++ builtLibraryRules := by decide
  refine .trans _ _ _ (.rel _ _ (.entry smallHead _ [] [] "debug" targetsKnown (.reordered ?_ (.swap _ _ _))))
    (.trans _ _ _ (.rel _ _ (.entry (smallHead ++ [_]) smallTail [] [] "app" outputKnown
      (.null [] _ optionalKnown rfl ?_))) (.rel _ _ (.top (.foreign [] _ _ ?_))))
  · decide
  · decide
  · decide

theorem resolveDescriptor_commentedDescriptor :
    Relation.EqvGen RespelledDescriptor
        (descriptorOf [("debug", targetEntry ["-g"] [])] [("app", executableEntry "main.c")] [] [])
        commentedDescriptor ∧
      (∃ project, (resolveDescriptor ⟨[], []⟩ (Path.ofString ".") commentedDescriptor).outcome = .ok project ∧
        project.outputs.map OutputUnit.name = ["app"]) ∧
      resolveDescriptor ⟨[], []⟩ (Path.ofString ".")
          (descriptorOf [("debug", targetEntry ["-g"] [])] [("app", executableEntry "main.c")] [] []) =
        resolveDescriptor ⟨[], []⟩ (Path.ofString ".") commentedDescriptor := by
  have accepted := (map_eq_ok_iff (fun project : Project => project.outputs.map OutputUnit.name) _ _).1
    (show (resolveDescriptor ⟨[], []⟩ (Path.ofString ".") commentedDescriptor).outcome.map
      (fun project => project.outputs.map OutputUnit.name) = .ok ["app"] from rfl)
  exact ⟨respelled_commentedDescriptor, accepted,
    resolveDescriptor_eq_of_respelled _ _ _ _ respelled_commentedDescriptor⟩

end Listfile
