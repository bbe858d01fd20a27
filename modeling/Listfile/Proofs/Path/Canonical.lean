import Listfile.Proofs.Path.Faithful

set_option autoImplicit false

/-! When the text of a path is in canonical form. Names are taken apart at slashes only, and their backslashes become
slashes afterwards. So the text is canonical if no piece between the backslashes of a name is empty or a `.`, apart
from one backslash at the end of a name that others follow. -/

namespace Listfile

open Component (appendPiece appendTo)

/-- The canonical form of a relative path. -/
structure IsCanonical (text : String) : Prop where
  relative : isAbsoluteEntry text = false
  noBackslash : '\\' ∉ text.toList
  noFront : ¬['.', '/'] <+: text.toList
  noCurrent : text ≠ "." → Name.current ∉ (Path.ofString text).segments
  noEmpty : [] ∉ (Path.ofString text).segments
  stays : IsNormal text

instance (text : String) : Decidable (IsCanonical text) :=
  decidable_of_iff
    (isAbsoluteEntry text = false ∧ '\\' ∉ text.toList ∧ ¬['.', '/'] <+: text.toList ∧
      (text ≠ "." → Name.current ∉ (Path.ofString text).segments) ∧ [] ∉ (Path.ofString text).segments ∧ IsNormal text)
    ⟨fun premise => ⟨premise.1, premise.2.1, premise.2.2.1, premise.2.2.2.1, premise.2.2.2.2.1, premise.2.2.2.2.2⟩,
      fun canonical => ⟨canonical.relative, canonical.noBackslash, canonical.noFront, canonical.noCurrent,
        canonical.noEmpty, canonical.stays⟩⟩

theorem IsTidy.isCanonical {text : String} (tidy : IsTidy text) (noBackslash : '\\' ∉ text.toList) :
    IsCanonical text := by
  have slashed := normalizeSeparators_eq_self noBackslash
  have solid : ∀ piece ∈ (Path.ofString text).segments, piece ≠ [] ∧ piece ≠ Name.current := slashed ▸ tidy
  exact {
    relative := isAbsoluteEntry_of_isTidy tidy
    noBackslash
    noFront := by
      intro front
      obtain ⟨rest, written⟩ := front
      refine (solid Name.current ?_).2 rfl
      rw [Path.segments, Path.ofString, ← written]
      exact List.mem_cons_self
    noCurrent := fun _moves member => (solid _ member).2 rfl
    noEmpty := fun member => (solid _ member).1 rfl
    stays := tidy.isNormal slashed }

theorem isCanonical_current : IsCanonical "." := by decide

theorem IsCanonical.isTidy {text : String} (canonical : IsCanonical text) (moves : text ≠ ".") : IsTidy text := by
  rw [IsTidy, normalizeSeparators_eq_self canonical.noBackslash]
  intro piece member
  exact ⟨fun empty => canonical.noEmpty (empty ▸ member),
    fun isCurrent => canonical.noCurrent moves (isCurrent ▸ member)⟩

/-- The name without a backslash at its end, which is the slash behind the name when it is written. -/
def Name.unended (name : Name) : Name := if name.getLast? = some (.char '\\') then name.dropLast else name

def opened (written : List Char) : List Char :=
  if written = [] ∨ written.getLast? = some '/' then written else written ++ ['/']

theorem opened_append_written (before : List Char) {name : Name} (filled : name ≠ []) (inside : .separator ∉ name) :
    opened (before ++ name.written) = before ++ name.unended.written ++ ['/'] := by
  obtain ⟨inner, last, ends⟩ := (List.eq_nil_or_concat' name).resolve_left filled
  have noSeparator : last ≠ .separator := fun same => inside (ends ▸ same ▸ List.mem_concat_self)
  have written : before ++ name.written = before ++ Name.written inner ++ [normalizeSeparator last.shown] := by
    rw [ends, Name.written, List.map_append, ← Name.written, List.append_assoc]
    rfl
  have endsInSlash := normalizeSeparator_shown_eq_slash_iff noSeparator
  by_cases isBackslash : last = .char '\\'
  · have slash := endsInSlash.2 isBackslash
    rw [written, slash, opened, if_pos (Or.inr List.getLast?_concat), Name.unended, ends, List.getLast?_concat,
      if_pos (congrArg some isBackslash), List.dropLast_concat]
  · have noSlash := mt endsInSlash.1 isBackslash
    have notReady : ¬(before ++ name.written = [] ∨ (before ++ name.written).getLast? = some '/') := by
      rw [written, List.getLast?_concat, not_or]
      exact ⟨List.concat_ne_nil _ _, fun same => noSlash (Option.some.inj same)⟩
    have unended : name.unended = name := by
      rw [Name.unended, ends, List.getLast?_concat, if_neg fun same => isBackslash (Option.some.inj same)]
    rw [opened, if_neg notReady, unended]

namespace Component

theorem IsMove.appendTo_eq {component : Component} (isMove : component.IsMove) (before : List Char) :
    appendTo before component = opened before ++ component.name.written := by
  cases component with
  | root => exact absurd rfl isMove.filled
  | current => exact absurd rfl isMove.notCurrent
  | parent => rfl
  | normal name => rfl

/-- The slash behind a name is written with the name that follows, or is there already. -/
theorem foldl_appendTo_parts {upper : List Component} {last : Component}
    (moving : ∀ component ∈ upper ++ [last], component.IsMove) {before : List Char} :
    (upper ++ [last]).foldl appendTo before = opened before ++
      List.intercalate ['/'] (upper.map (fun component => component.name.unended.written) ++ [last.name.written]) := by
  induction upper generalizing before with
  | nil =>
      rw [List.map_nil, List.nil_append, List.nil_append, List.intercalate_singleton]
      exact (List.forall_mem_singleton.1 moving).appendTo_eq before
  | cons first upper ih =>
      rw [List.cons_append, List.forall_mem_cons] at moving
      obtain ⟨second, others, rest⟩ := List.exists_cons_of_ne_nil
        (List.concat_ne_nil last.name.written (upper.map fun component => component.name.unended.written))
      rw [List.cons_append, List.foldl_cons, ih moving.2, moving.1.appendTo_eq,
        opened_append_written _ moving.1.filled moving.1.inside, List.map_cons, List.cons_append, rest,
        List.intercalate_cons_cons]
      simp only [List.append_assoc]

end Component

namespace Path

variable {path : Path}

def parts (path : Path) : List Name :=
  path.moves.dropLast.map (fun component => component.name.unended) ++
    path.moves.getLast?.toList.map Component.name

/-- A path without an empty piece and without a `.` between the backslashes of its parts. -/
def IsOrderly (path : Path) : Prop := ∀ name ∈ path.parts, name.IsSolid

instance (path : Path) : Decidable path.IsOrderly := inferInstanceAs (Decidable (∀ name ∈ path.parts, name.IsSolid))

theorem parts_ne_nil (moving : path.moves ≠ []) : path.parts ≠ [] := by
  obtain ⟨upper, last, moves⟩ := (List.eq_nil_or_concat' path.moves).resolve_left moving
  rw [parts, moves, List.getLast?_concat]
  exact List.concat_ne_nil _ _

theorem text_eq_parts (moving : path.moves ≠ []) :
    path.text = List.intercalate ['/'] (path.parts.map Name.written) := by
  obtain ⟨upper, last, moves⟩ := (List.eq_nil_or_concat' path.moves).resolve_left moving
  have areMoves : ∀ component ∈ upper ++ [last], component.IsMove :=
    fun component member => isMove_of_mem_moves (moves ▸ member)
  rw [text, if_neg moving, parts, moves, Component.foldl_appendTo_parts areMoves, List.dropLast_concat,
    List.getLast?_concat, List.map_append, List.map_map]
  rfl

theorem backslash_not_mem_text (path : Path) : '\\' ∉ path.text := by
  by_cases stays : path.moves = []
  · rw [text, if_pos stays]
    decide
  · rw [text_eq_parts stays]
    refine not_mem_intercalate (by decide) fun piece member => ?_
    obtain ⟨name, _inParts, written⟩ := List.mem_map.1 member
    exact written ▸ backslash_not_mem_written name

theorem text_ne_current (moving : path.moves ≠ []) : path.text ≠ ['.'] := by
  intro isCurrent
  obtain ⟨first, others, moves⟩ := List.exists_cons_of_ne_nil moving
  obtain ⟨more, written, _alone, _parted⟩ := text_cons moves
  have member : first ∈ path.moves := moves ▸ List.mem_cons_self
  have whole : first.piece = ['.'] := by
    rw [isCurrent, eq_comm, List.append_eq_singleton_iff] at written
    exact (written.resolve_left fun empty => piece_ne_nil first member empty.1).1
  rcases mem_moves_cases member with isParent | ⟨name, isName, _filled, _inside⟩
  · rw [isParent] at whole
    cases whole
  · rw [isName] at whole
    refine (isMove_of_mem_moves member).notCurrent ?_
    rw [isName]
    exact (Name.written_eq_iff (by decide) name).1 whole

theorem isOrderly_iff_isTidy (moving : path.moves ≠ []) : path.IsOrderly ↔ IsTidy (String.ofList path.text) := by
  have filled : path.parts.map Name.written ≠ [] := fun empty => parts_ne_nil moving (List.map_eq_nil_iff.1 empty)
  have slashed : normalizeSeparators (String.ofList path.text) = String.ofList path.text :=
    normalizeSeparators_eq_self (by rw [String.toList_ofList]; exact path.backslash_not_mem_text)
  rw [IsTidy, slashed, segments, ofString, String.toList_ofList, text_eq_parts moving, splitSegments_intercalate filled,
    List.flatMap_map, List.forall_mem_flatMap]
  exact forall₂_congr fun name _inParts => name.isSolid_iff_written

theorem isOrderly_of_no_backslash (noBackslash : .char '\\' ∉ path.units) : path.IsOrderly := by
  have clean : ∀ component ∈ path.moves, .char '\\' ∉ component.name := by
    intro component member inName
    obtain ⟨segment, inSegments, counts⟩ := List.mem_filterMap.1 member
    rw [Component.name_of_ofSegment? counts] at inName
    exact noBackslash (mem_of_mem_splitSegments inSegments _ inName).1
  intro name member
  rcases List.mem_append.1 member with inFront | atEnd
  · obtain ⟨component, inFront, same⟩ := List.mem_map.1 inFront
    have inMoves := List.dropLast_subset _ inFront
    have stays : component.name.unended = component.name :=
      if_neg fun ended => clean component inMoves (List.mem_of_getLast? ended)
    rw [← same, stays]
    exact isSolid_name inMoves (clean component inMoves)
  · obtain ⟨component, isLast, same⟩ := List.mem_map.1 atEnd
    have inMoves := List.mem_of_getLast? (Option.mem_toList.1 isLast)
    exact same ▸ isSolid_name inMoves (clean component inMoves)

/-- No backslash is left in the text of a relative path, but the slashes that stand for them count. The text is in
canonical form exactly for paths in which they part nothing that a path would leave out. -/
theorem scriptPath_canonical (root : Path) {path : Path} (relative : path.isAbsolute = false) :
    '\\' ∉ (scriptPath (root.join path) root).toList ∧
      (IsCanonical (scriptPath (root.join path) root) ↔ path.IsOrderly) ∧
      (.char '\\' ∉ path.units → IsCanonical (scriptPath (root.join path) root)) := by
  have written : scriptPath (root.join path) root = String.ofList path.text :=
    String.toList_inj.1 ((toList_scriptPath_join root relative).trans String.toList_ofList.symm)
  have noBackslash : '\\' ∉ (String.ofList path.text).toList := by
    rw [String.toList_ofList]
    exact path.backslash_not_mem_text
  have canonicalIff : IsCanonical (String.ofList path.text) ↔ path.IsOrderly := by
    by_cases stays : path.moves = []
    · have orderly : path.IsOrderly := by simp [IsOrderly, parts, stays]
      rw [text, if_pos stays]
      exact iff_of_true isCanonical_current orderly
    · have moves : String.ofList path.text ≠ "." := by
        intro isCurrent
        refine text_ne_current stays ?_
        rw [← String.toList_ofList (l := path.text), isCurrent]
        rfl
      rw [isOrderly_iff_isTidy stays]
      exact ⟨fun canonical => canonical.isTidy moves, fun tidy => tidy.isCanonical noBackslash⟩
  rw [written]
  exact ⟨noBackslash, canonicalIff, fun clean => canonicalIff.2 (isOrderly_of_no_backslash clean)⟩

theorem scriptPath_canonical_backslashes :
    (ofString "./lib\\/a\\..\\z.c").isAbsolute = false ∧
      (ofString "./lib\\/a\\..\\z.c").IsOrderly ∧
      IsCanonical (scriptPath ((ofString "proj").join (ofString "./lib\\/a\\..\\z.c")) (ofString "proj")) :=
  ⟨by decide, by decide, (scriptPath_canonical (ofString "proj") (by decide)).2.1.2 (by decide)⟩

/-- A `.` between the beginning of a name and a backslash is left in front. -/
theorem not_isCanonical_scriptPath_backslash :
    (ofString "./.\\z").isAbsolute = false ∧
      scriptPath ((ofString "proj").join (ofString "./.\\z")) (ofString "proj") = "./z" ∧
      ¬IsCanonical (scriptPath ((ofString "proj").join (ofString "./.\\z")) (ofString "proj")) := by
  decide

end Path

end Listfile
