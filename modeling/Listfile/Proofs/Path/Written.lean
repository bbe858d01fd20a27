import Listfile.Proofs.Path.Spelling

set_option autoImplicit false

/-! Texts that are written as they are spelled: no `.`, no doubled slash and no slash at the end is left in them.
Whatever is written for a path is such a text, if nothing odd stands between the backslashes of its names, and
two such texts that spell the same path are equal. -/

namespace Listfile

open Component (appendPiece appendTo)

theorem scriptPath_eq (path root : Path) : scriptPath path root =
    if path.writtenUnder root = [] then "." else String.ofList (path.writtenUnder root) := rfl

theorem scriptPath_join_of_relative (root : Path) {path : Path} (relative : path.isAbsolute = false) :
    scriptPath (root.join path) root = scriptPath path ⟨[]⟩ := by
  have alone : ((⟨[]⟩ : Path).join path).writtenUnder ⟨[]⟩ = path.writtenAfter [] := Path.writtenUnder_join relative
  rw [Path.join_of_units_eq_nil rfl] at alone
  rw [scriptPath_eq, scriptPath_eq, Path.writtenUnder_join relative, alone]

/-- A text that is what is written for the path that it spells. -/
def IsNormal (text : String) : Prop := scriptPath (Path.ofString text) ⟨[]⟩ = text

instance (text : String) : Decidable (IsNormal text) := inferInstanceAs (Decidable (_ = _))

theorem IsNormal.eq_of_respells {left right : String} (leftNormal : IsNormal left) (rightNormal : IsNormal right)
    (respells : (Path.ofString left).Respells (Path.ofString right)) : left = right :=
  leftNormal.symm.trans ((respells.scriptPath_eq (Or.inr rfl)).trans rightNormal)

theorem IsTidy.ne_empty {text : String} (tidy : IsTidy text) : text ≠ "" := by
  intro empty
  rw [empty] at tidy
  exact absurd tidy (by decide)

theorem IsTidy.writtenAfter {text : String} (tidy : IsTidy text) (slashed : normalizeSeparators text = text)
    (before : List Char) : (Path.ofString text).writtenAfter before = appendPiece before text.toList := by
  rw [writtenAfter_of_isTidy tidy, slashed]

theorem IsTidy.isNormal {text : String} (tidy : IsTidy text) (slashed : normalizeSeparators text = text) :
    IsNormal text := by
  have relative := (Path.isAbsolute_ofString text).trans (isAbsoluteEntry_of_isTidy tidy)
  have written : ((⟨[]⟩ : Path).join (Path.ofString text)).writtenUnder ⟨[]⟩ = text.toList :=
    (Path.writtenUnder_join relative).trans (tidy.writtenAfter slashed [])
  have filled : text.toList ≠ [] := fun empty => tidy.ne_empty (String.toList_eq_nil_iff.1 empty)
  rw [IsNormal, ← scriptPath_join_of_relative ⟨[]⟩ relative, scriptPath_eq, written, if_neg filled,
    String.ofList_toList]

theorem IsTidy.isNormal_slash {text : String} (tidy : IsTidy text) (slashed : normalizeSeparators text = text) :
    IsNormal ("/" ++ text) := by
  have units : (Path.ofString ("/" ++ text)).units = .separator :: (Path.ofString text).units := by
    rw [Path.ofString, String.toList_append]
    rfl
  have absolute : (Path.ofString ("/" ++ text)).isAbsolute = true := by
    rw [Path.isAbsolute, units]
    rfl
  have segments : (Path.ofString ("/" ++ text)).segments = [] :: (Path.ofString text).segments := by
    rw [Path.segments, units, splitSegments, if_pos rfl]
    rfl
  have after : (Path.ofString text).writtenAfter ['/'] = '/' :: text.toList :=
    (tidy.writtenAfter slashed ['/']).trans rfl
  have written : (Path.ofString ("/" ++ text)).writtenUnder ⟨[]⟩ = '/' :: text.toList := by
    rw [Path.writtenUnder_of_isAbsolute absolute rfl, Path.components_of_isAbsolute absolute, Path.moves, segments,
      ← after]
    rfl
  rw [IsNormal, scriptPath_eq, written, if_neg (List.cons_ne_nil _ _), String.ofList_cons, String.ofList_toList]
  rfl

instance (name : Name) : Decidable name.IsSolid :=
  inferInstanceAs (Decidable (∀ piece ∈ splitSegments (name.map .normalized), piece ≠ [] ∧ piece ≠ Name.current))

def PathUnit.reread (unit : PathUnit) : PathUnit := .char unit.shown

theorem PathUnit.reread_eq_iff {letter : Char} (known : letter ≠ '\uFFFD') (unit : PathUnit) :
    unit.reread = .char letter ↔ unit = .char letter := by
  cases unit with
  | char other => exact Iff.rfl
  | invalid bytes => simpa [reread, shown] using Ne.symm known

theorem splitSegments_map {change : PathUnit → PathUnit}
    (keeps : ∀ unit, change unit = .separator ↔ unit = .separator) (units : List PathUnit) :
    splitSegments (units.map change) = (splitSegments units).map (List.map change) := by
  induction units with
  | nil => rfl
  | cons unit units ih =>
      by_cases separates : unit = .separator
      · rw [List.map_cons, splitSegments, if_pos ((keeps unit).2 separates), splitSegments, if_pos separates, ih]
        rfl
      · obtain ⟨first, others, split⟩ := List.exists_cons_of_ne_nil (splitSegments_ne_nil units)
        rw [split, List.map_cons] at ih
        rw [List.map_cons, splitSegments_cons (fun same => separates ((keeps unit).1 same)) ih,
          splitSegments_cons separates split]
        rfl

theorem splitSegments_intercalate {pieces : List (List Char)} (filled : pieces ≠ []) :
    splitSegments ((List.intercalate ['/'] pieces).map .char) =
      pieces.flatMap fun piece => splitSegments (piece.map .char) := by
  induction pieces with
  | nil => exact absurd rfl filled
  | cons piece pieces ih =>
      cases pieces with
      | nil => simp
      | cons second others =>
          rw [List.intercalate_cons_cons, List.append_assoc, List.singleton_append, List.map_append, List.map_cons,
            List.flatMap_cons, ← ih (List.cons_ne_nil _ _)]
          exact splitSegments_append_separator _ _

theorem Name.isSolid_of_no_backslash {name : Name} (moves : ¬(name = [] ∨ name = Name.current))
    (slashed : ∀ unit ∈ name, unit ≠ .char '\\' ∧ unit ≠ .separator) : name.IsSolid := by
  have kept : name.map PathUnit.normalized = name := by
    refine (List.map_congr_left fun unit member => ?_).trans (List.map_id name)
    cases unit with
    | char character =>
        refine congrArg PathUnit.char (if_neg fun isBackslash => ?_)
        exact (slashed _ member).1 (congrArg PathUnit.char isBackslash)
    | invalid bytes => rfl
  rw [not_or] at moves
  rw [IsSolid, kept, splitSegments_of_no_separator fun member => (slashed _ member).2 rfl]
  exact List.forall_mem_singleton.2 moves

theorem Name.isSolid_iff_written (name : Name) :
    name.IsSolid ↔ ∀ piece ∈ splitSegments (name.written.map .char), piece ≠ [] ∧ piece ≠ Name.current := by
  have reread : name.written.map PathUnit.char = (name.map PathUnit.normalized).map PathUnit.reread := by
    rw [written, List.map_map, List.map_map]
    refine List.map_congr_left fun unit _member => ?_
    cases unit with
    | char character => rfl
    | invalid bytes => rfl
  have keeps := PathUnit.reread_eq_iff (show '/' ≠ '\uFFFD' by decide)
  have staysDot : ∀ piece : Name, piece.map PathUnit.reread = Name.current ↔ piece = Name.current := by
    intro piece
    constructor
    · intro isCurrent
      obtain ⟨unit, single, isDot⟩ := List.map_eq_singleton_iff.1 isCurrent
      rw [single, (PathUnit.reread_eq_iff (show '.' ≠ '\uFFFD' by decide) unit).1 isDot]
      rfl
    · intro isCurrent
      rw [isCurrent]
      rfl
  rw [IsSolid, reread, splitSegments_map keeps, List.forall_mem_map]
  simp only [Ne, List.map_eq_nil_iff, staysDot]

theorem normalizeSeparator_ne_backslash (character : Char) : normalizeSeparator character ≠ '\\' := by
  intro same
  rw [normalizeSeparator] at same
  split at same
  · exact absurd same (by decide)
  · rename_i other
    exact other same

theorem backslash_not_mem_written (name : Name) : '\\' ∉ name.written := by
  intro member
  obtain ⟨unit, _inName, same⟩ := List.mem_map.1 member
  exact normalizeSeparator_ne_backslash _ same

theorem not_mem_intercalate {letter : Char} (apart : letter ≠ '/') {pieces : List (List Char)}
    (absent : ∀ piece ∈ pieces, letter ∉ piece) : letter ∉ List.intercalate ['/'] pieces := by
  induction pieces with
  | nil => exact List.not_mem_nil
  | cons piece pieces ih =>
      rw [List.forall_mem_cons] at absent
      cases pieces with
      | nil => simpa using absent.1
      | cons second others =>
          rw [List.intercalate_cons_cons, List.mem_append, List.mem_append, List.mem_singleton, not_or, not_or]
          exact ⟨⟨absent.1, apart⟩, ih absent.2⟩

theorem normalizeSeparators_eq_self {text : String} (slashed : '\\' ∉ text.toList) :
    normalizeSeparators text = text := by
  have kept : text.toList.map normalizeSeparator = text.toList := by
    refine (List.map_congr_left fun character member => ?_).trans (List.map_id text.toList)
    exact if_neg fun (isBackslash : character = '\\') => slashed (isBackslash ▸ member)
  rw [normalizeSeparators, kept, String.ofList_toList]

namespace Component

def IsSolid (component : Component) : Prop := ∃ name : Name, name.IsSolid ∧ ofSegment? name = some component

theorem exists_names {components : List Component} (solid : ∀ component ∈ components, component.IsSolid) :
    ∃ names : List Name, (∀ name ∈ names, name.IsSolid) ∧ names.filterMap ofSegment? = components := by
  induction components with
  | nil => exact ⟨[], List.forall_mem_nil _, rfl⟩
  | cons component components ih =>
      rw [List.forall_mem_cons] at solid
      obtain ⟨name, solidName, counts⟩ := solid.1
      obtain ⟨names, solidNames, same⟩ := ih solid.2
      refine ⟨name :: names, List.forall_mem_cons.2 ⟨solidName, solidNames⟩, ?_⟩
      rw [List.filterMap_cons, counts, same]

theorem exists_tidy {components : List Component} (filled : components ≠ [])
    (solid : ∀ component ∈ components, component.IsSolid) :
    ∃ text, IsTidy text ∧ normalizeSeparators text = text ∧
      ∀ before, components.foldl appendTo before = appendPiece before text.toList := by
  obtain ⟨names, solidNames, same⟩ := exists_names solid
  have filledNames : names ≠ [] := by
    intro empty
    rw [empty] at same
    exact filled same.symm
  have slashed : normalizeSeparators (String.ofList (List.intercalate ['/'] (names.map Name.written))) =
      String.ofList (List.intercalate ['/'] (names.map Name.written)) := by
    refine normalizeSeparators_eq_self ?_
    rw [String.toList_ofList]
    refine not_mem_intercalate (by decide) fun piece member => ?_
    obtain ⟨name, _inNames, written⟩ := List.mem_map.1 member
    exact written ▸ backslash_not_mem_written name
  refine ⟨String.ofList (List.intercalate ['/'] (names.map Name.written)), ?_, slashed, fun before => ?_⟩
  · rw [IsTidy, slashed, Path.segments, Path.ofString, String.toList_ofList,
      splitSegments_intercalate (by simpa using filledNames)]
    intro piece member
    obtain ⟨written, inNames, inPieces⟩ := List.mem_flatMap.1 member
    obtain ⟨name, isName, same⟩ := List.mem_map.1 inNames
    rw [← same] at inPieces
    exact name.isSolid_iff_written.1 (solidNames name isName) piece inPieces
  · rw [← same, foldl_appendTo_of_solid filledNames solidNames, String.toList_ofList]

end Component

theorem isNormal_of_foldl {components : List Component} (solid : ∀ component ∈ components, component.IsSolid) :
    IsNormal (if components.foldl appendTo [] = [] then "." else String.ofList (components.foldl appendTo [])) := by
  by_cases empty : components = []
  · rw [empty]
    decide
  · obtain ⟨text, tidy, slashed, written⟩ := Component.exists_tidy empty solid
    have whole : components.foldl appendTo [] = text.toList := (written []).trans rfl
    rw [whole, if_neg fun noText => tidy.ne_empty (String.toList_eq_nil_iff.1 noText), String.ofList_toList]
    exact tidy.isNormal slashed

theorem isNormal_of_foldl_slash {components : List Component} (solid : ∀ component ∈ components, component.IsSolid) :
    IsNormal (String.ofList (components.foldl appendTo ['/'])) := by
  by_cases empty : components = []
  · rw [empty]
    decide
  · obtain ⟨text, tidy, slashed, written⟩ := Component.exists_tidy empty solid
    have whole : String.ofList (components.foldl appendTo ['/']) = "/" ++ text := by
      rw [written]
      change String.ofList ('/' :: text.toList) = "/" ++ text
      rw [String.ofList_cons, String.ofList_toList]
      rfl
    rw [whole]
    exact tidy.isNormal_slash slashed

/-- Only the path itself counts: what is written of the root is nothing, or the path begins with it. -/
theorem isNormal_scriptPath_join (root : Path) {path : Path} (solid : ∀ component ∈ path.moves, component.IsSolid) :
    IsNormal (scriptPath (root.join path) root) := by
  rw [scriptPath_eq]
  cases absolute : path.isAbsolute with
  | false =>
      rw [Path.writtenUnder_join absolute]
      exact isNormal_of_foldl solid
  | true =>
      have components := Path.components_of_isAbsolute absolute
      have outside : IsNormal (if Component.written (.root :: path.moves) = [] then "."
          else String.ofList (Component.written (.root :: path.moves))) := by
        have written : Component.written (.root :: path.moves) = path.moves.foldl appendTo ['/'] := rfl
        rw [written]
        split
        · decide
        · exact isNormal_of_foldl_slash solid
      rw [Path.join, if_pos absolute, Path.writtenUnder, components]
      cases under : path.componentsAfter? root with
      | none => exact outside
      | some rest =>
          rw [Path.componentsAfter?, List.isPrefixOf?_eq_some_iff_append_eq, components] at under
          rw [Option.getD_some]
          cases front : root.components with
          | nil =>
              rw [front, List.nil_append] at under
              rw [under]
              exact outside
          | cons first others =>
              rw [front, List.cons_append] at under
              obtain ⟨_sameFirst, sameRest⟩ := List.cons.inj under
              refine isNormal_of_foldl fun component member => solid component ?_
              rw [← sameRest]
              exact List.mem_append_right _ member

end Listfile
