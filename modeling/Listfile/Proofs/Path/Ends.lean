import Listfile.Proofs.Path.Written

set_option autoImplicit false

/-! How the text of a relative path begins and how it ends. The text begins with what is written for the first name and
ends with what is written for the last one. So the names alone tell whether an entry of a list stands for itself or is
relative to the source directory of the project. -/

namespace Listfile

open Component (appendPiece appendTo)

/-- What has no separator and begins a text begins the piece in front of the first separator. -/
theorem prefix_append_iff {separator : Char} {letters piece more : List Char} (absent : separator ∉ letters)
    (parted : more ≠ [] → separator ∈ piece ∨ more.head? = some separator) :
    letters <+: piece ++ more ↔ letters <+: piece := by
  refine ⟨fun begins => ?_, fun begins => begins.trans (List.prefix_append _ _)⟩
  rcases List.prefix_or_prefix_of_prefix begins (List.prefix_append piece more) with within | beyond
  · exact within
  · obtain ⟨rest, same⟩ := beyond
    rw [← same, List.prefix_append_right_inj] at begins
    rw [← same] at absent ⊢
    cases rest with
    | nil =>
        exact ⟨[], (List.append_nil _).trans (List.append_nil piece)⟩
    | cons letter rest =>
        obtain ⟨tail, continued⟩ := begins
        rw [← continued] at parted
        rcases parted (List.cons_ne_nil _ _) with inPiece | behind
        · exact absurd (List.mem_append_left _ inPiece) absent
        · exact absurd (List.mem_append_right _ (Option.some.inj behind ▸ List.mem_cons_self)) absent

namespace Component

def piece : Component → List Char
  | .parent => ['.', '.']
  | .normal name => name.written
  | _ => []

theorem appendTo_eq {component : Component} (filled : component.piece ≠ []) (before : List Char) :
    appendTo before component = appendPiece before component.piece := by
  cases component with
  | root => exact absurd rfl filled
  | current => exact absurd rfl filled
  | parent => rfl
  | normal name => rfl

theorem prefix_appendPiece (before piece : List Char) : before <+: appendPiece before piece := by
  rw [appendPiece]
  split
  · exact List.prefix_append _ _
  · exact (List.prefix_append _ _).trans (List.prefix_append _ _)

theorem getLast?_appendPiece (before : List Char) {piece : List Char} (filled : piece ≠ []) :
    (appendPiece before piece).getLast? = piece.getLast? :=
  List.getLast?_append_of_ne_nil _ filled

theorem prefix_foldl_appendTo {components : List Component} (filled : ∀ component ∈ components, component.piece ≠ [])
    (before : List Char) : before <+: components.foldl appendTo before := by
  induction components generalizing before with
  | nil => exact List.prefix_rfl
  | cons component components ih =>
      rw [List.forall_mem_cons] at filled
      rw [List.foldl_cons, appendTo_eq filled.1]
      exact (prefix_appendPiece before component.piece).trans (ih filled.2 _)

/-- Behind the first piece comes a slash, unless the piece ends in one. -/
theorem exists_foldl_appendTo {first : Component} {others : List Component}
    (filled : ∀ component ∈ first :: others, component.piece ≠ []) :
    ∃ more, (first :: others).foldl appendTo [] = first.piece ++ more ∧
      (others = [] → more = []) ∧ (others ≠ [] → '/' ∈ first.piece ∨ more.head? = some '/') := by
  rw [List.forall_mem_cons] at filled
  have alone : appendPiece [] first.piece = first.piece := rfl
  rw [List.foldl_cons, appendTo_eq filled.1, alone]
  cases others with
  | nil => exact ⟨[], (List.append_nil _).symm, fun _none => rfl, fun impossible => absurd rfl impossible⟩
  | cons second others =>
      rw [List.forall_mem_cons] at filled
      obtain ⟨rest, written⟩ := prefix_foldl_appendTo filled.2.2 (appendPiece first.piece second.piece)
      have more : second :: others ≠ [] := List.cons_ne_nil _ _
      rw [List.foldl_cons, appendTo_eq filled.2.1, ← written, appendPiece]
      by_cases ended : first.piece.getLast? = some '/'
      · refine ⟨second.piece ++ rest, ?_, (absurd · more), fun _more => Or.inl (List.mem_of_getLast? ended)⟩
        rw [if_pos (Or.inr ended), List.append_assoc]
      · refine ⟨'/' :: (second.piece ++ rest), ?_, (absurd · more), fun _more => Or.inr rfl⟩
        rw [if_neg (not_or.2 ⟨filled.1, ended⟩), List.append_assoc, List.append_assoc, List.singleton_append]

end Component

/-- The letters that stand for themselves only. -/
def IsLiteral (letter : Char) : Prop := letter ≠ '/' ∧ letter ≠ '\\' ∧ letter ≠ '\uFFFD'

instance (letter : Char) : Decidable (IsLiteral letter) :=
  inferInstanceAs (Decidable (letter ≠ '/' ∧ letter ≠ '\\' ∧ letter ≠ '\uFFFD'))

def AreLiteral (letters : List Char) : Prop := ∀ letter ∈ letters, IsLiteral letter

instance (letters : List Char) : Decidable (AreLiteral letters) := List.decidableBAll IsLiteral letters

theorem normalizeSeparator_shown_eq_iff {letter : Char} (literal : IsLiteral letter) (unit : PathUnit) :
    normalizeSeparator unit.shown = letter ↔ unit = .char letter := by
  obtain ⟨noSlash, noBackslash, known⟩ := literal
  have kept : normalizeSeparator unit.shown = letter ↔ unit.shown = letter := by
    rw [normalizeSeparator]
    split
    · rename_i isBackslash
      rw [isBackslash]
      exact iff_of_false (Ne.symm noSlash) (Ne.symm noBackslash)
    · exact Iff.rfl
  rw [kept]
  cases unit with
  | char character => simp [PathUnit.shown]
  | invalid bytes => simpa [PathUnit.shown] using Ne.symm known

theorem normalizeSeparator_shown_eq_slash_iff {unit : PathUnit} (inside : unit ≠ .separator) :
    normalizeSeparator unit.shown = '/' ↔ unit = .char '\\' := by
  cases unit with
  | char character =>
      rw [PathUnit.shown, normalizeSeparator]
      split
      · rename_i isBackslash
        rw [isBackslash]
        exact iff_of_true rfl rfl
      · rename_i noBackslash
        refine iff_of_false (fun isSlash => inside (congrArg PathUnit.char isSlash)) fun same => ?_
        cases same
        exact noBackslash rfl
  | invalid bytes =>
      refine iff_of_false (show normalizeSeparator '\uFFFD' ≠ '/' by decide) fun impossible => ?_
      cases impossible

namespace Name

theorem prefix_written_iff {letters : List Char} (literal : AreLiteral letters) (name : Name) :
    letters <+: name.written ↔ letters.map .char <+: name := by
  induction letters generalizing name with
  | nil => exact iff_of_true (List.nil_prefix) (List.nil_prefix)
  | cons letter letters ih =>
      obtain ⟨literalFirst, literalOthers⟩ := List.forall_mem_cons.1 literal
      cases name with
      | nil => simp [written]
      | cons unit name =>
          change letter :: letters <+: normalizeSeparator unit.shown :: written name ↔ _
          rw [List.map_cons, List.cons_prefix_cons, List.cons_prefix_cons, ih literalOthers, @eq_comm _ letter,
            normalizeSeparator_shown_eq_iff literalFirst, @eq_comm _ unit]

theorem written_eq_iff {letters : List Char} (literal : AreLiteral letters) (name : Name) :
    name.written = letters ↔ name = letters.map .char := by
  have sameLength : name.written.length = name.length := List.length_map _
  constructor
  · intro same
    have begins := (prefix_written_iff literal name).1 (same ▸ List.prefix_rfl)
    refine (begins.eq_of_length ?_).symm
    rw [List.length_map, ← same, sameLength]
  · intro same
    have begins := (prefix_written_iff literal name).2 (same ▸ List.prefix_rfl)
    refine (begins.eq_of_length ?_).symm
    rw [sameLength, same, List.length_map]

theorem head?_written_iff {name : Name} (noSeparator : .separator ∉ name) :
    name.written.head? = some '/' ↔ [.char '\\'] <+: name := by
  cases name with
  | nil => simp [written]
  | cons unit name =>
      have inside : unit ≠ .separator := fun same => noSeparator (same ▸ List.mem_cons_self)
      change some (normalizeSeparator unit.shown) = some '/' ↔ _
      rw [Option.some.injEq, normalizeSeparator_shown_eq_slash_iff inside, List.cons_prefix_cons, @eq_comm _ unit]
      exact (and_iff_left List.nil_prefix).symm

theorem getLast?_written_iff {letter : Char} (literal : IsLiteral letter) (name : Name) :
    name.written.getLast? = some letter ↔ name.getLast? = some (.char letter) := by
  rw [written, List.getLast?_map, Option.map_eq_some_iff]
  simp only [normalizeSeparator_shown_eq_iff literal, exists_eq_right]

end Name

/-! ### Texts -/

namespace Path

/-- Whether the first thing that a path names is something whose name begins so. -/
def BeginsWith (path : Path) (opening : String) : Prop :=
  ∃ name others, path.moves = .normal name :: others ∧ Name.ofString opening <+: name

/-- Whether the last thing that a path names is something whose name ends so. -/
def EndsWith (path : Path) (ending : String) : Prop :=
  ∃ before name, path.moves = before ++ [.normal name] ∧ Name.ofString ending <:+ name

theorem mem_moves_cases {path : Path} {component : Component} (member : component ∈ path.moves) :
    component = .parent ∨ ∃ name, component = .normal name ∧ name ≠ [] ∧ .separator ∉ name := by
  obtain ⟨segment, inSegments, counts⟩ := List.mem_filterMap.1 member
  rw [Component.ofSegment?] at counts
  split at counts
  · cases counts
  · rename_i moves
    split at counts
    · exact Or.inl (Option.some.inj counts).symm
    · refine Or.inr ⟨segment, (Option.some.inj counts).symm, fun empty => moves (Or.inl empty), fun separates => ?_⟩
      exact (mem_of_mem_splitSegments inSegments _ separates).2 rfl

theorem piece_ne_nil {path : Path} : ∀ component ∈ path.moves, component.piece ≠ [] := by
  intro component member
  rcases mem_moves_cases member with isParent | ⟨name, isName, filled, _inside⟩
  · rw [isParent]
    exact List.cons_ne_nil _ _
  · rw [isName]
    exact fun empty => filled (List.map_eq_nil_iff.1 empty)

def text (path : Path) : List Char := if path.moves = [] then ['.'] else path.moves.foldl appendTo []

theorem text_cons {path : Path} {first : Component} {others : List Component} (moves : path.moves = first :: others) :
    ∃ more, path.text = first.piece ++ more ∧
      (others = [] → more = []) ∧ (others ≠ [] → '/' ∈ first.piece ∨ more.head? = some '/') := by
  have filled := path.piece_ne_nil
  rw [moves] at filled
  rw [text, moves, if_neg (List.cons_ne_nil _ _)]
  exact Component.exists_foldl_appendTo filled

theorem toList_scriptPath_join (root : Path) {path : Path} (relative : path.isAbsolute = false) :
    (scriptPath (root.join path) root).toList = path.text := by
  rw [scriptPath_eq, writtenUnder_join relative, text]
  change (if path.moves.foldl appendTo [] = [] then "." else String.ofList (path.moves.foldl appendTo [])).toList = _
  cases moves : path.moves with
  | nil => rfl
  | cons first others =>
      obtain ⟨more, written, _alone, _parted⟩ := text_cons moves
      have filled := path.piece_ne_nil first (moves ▸ List.mem_cons_self)
      rw [text, moves, if_neg (List.cons_ne_nil _ _)] at written
      rw [written, if_neg fun empty => filled (List.append_eq_nil_iff.1 empty).1, String.toList_ofList,
        if_neg (List.cons_ne_nil _ _)]

theorem scriptPath_join_of_stays (root : Path) {path : Path} (relative : path.isAbsolute = false)
    (stays : path.moves = []) : scriptPath (root.join path) root = "." :=
  String.toList_inj.1 ((toList_scriptPath_join root relative).trans (if_pos stays))

theorem beginsWith_iff {path : Path} {first : Component} {others : List Component}
    (moves : path.moves = first :: others) (opening : String) :
    path.BeginsWith opening ↔ ∃ name, first = .normal name ∧ Name.ofString opening <+: name := by
  constructor
  · intro begins
    obtain ⟨name, rest, same, isPrefix⟩ := begins
    rw [moves] at same
    exact ⟨name, (List.cons.inj same).1, isPrefix⟩
  · intro premise
    obtain ⟨name, isName, isPrefix⟩ := premise
    exact ⟨name, others, isName ▸ moves, isPrefix⟩

theorem not_beginsWith_of_stays {path : Path} (stays : path.moves = []) (opening : String) :
    ¬path.BeginsWith opening := by
  intro begins
  obtain ⟨name, others, impossible, _isPrefix⟩ := begins
  rw [stays] at impossible
  cases impossible

theorem head?_text_iff (path : Path) : path.text.head? = some '/' ↔ path.BeginsWith "\\" := by
  cases moves : path.moves with
  | nil =>
      rw [text, if_pos moves]
      exact iff_of_false (by decide) (not_beginsWith_of_stays moves _)
  | cons first others =>
      obtain ⟨more, written, _alone, _parted⟩ := text_cons moves
      have member : first ∈ path.moves := moves ▸ List.mem_cons_self
      rw [written, List.head?_append_of_ne_nil _ (path.piece_ne_nil first member), beginsWith_iff moves]
      rcases mem_moves_cases member with isParent | ⟨name, isName, _filled, inside⟩
      · simp [isParent, Component.piece]
      · simp only [isName, Component.piece, Component.normal.injEq, exists_eq_left']
        exact Name.head?_written_iff inside

section

variable (letters : String) (literal : AreLiteral letters.toList) (noDot : '.' ∉ letters.toList)

include literal noDot

/-- Only the first name can be longer than what the text begins with, since a slash follows it. -/
theorem prefix_text_iff (filled : letters ≠ "") (path : Path) :
    letters.toList <+: path.text ↔ path.BeginsWith letters := by
  have filledLetters : letters.toList ≠ [] := fun empty => filled (String.toList_eq_nil_iff.1 empty)
  have noDots : ∀ dots : List Char, (∀ letter ∈ dots, letter = '.') → ¬letters.toList <+: dots := by
    intro dots onlyDots begins
    obtain ⟨letter, inLetters⟩ := List.exists_mem_of_ne_nil _ filledLetters
    exact noDot (onlyDots letter (begins.subset inLetters) ▸ inLetters)
  cases moves : path.moves with
  | nil =>
      rw [text, if_pos moves]
      exact iff_of_false (noDots ['.'] (List.forall_mem_singleton.2 rfl)) (not_beginsWith_of_stays moves _)
  | cons first others =>
      obtain ⟨more, written, alone, parted⟩ := text_cons moves
      have noSlash : '/' ∉ letters.toList := fun inLetters => (literal _ inLetters).1 rfl
      rw [written, prefix_append_iff noSlash fun goesOn => parted (mt alone goesOn), beginsWith_iff moves]
      rcases mem_moves_cases (moves ▸ List.mem_cons_self : first ∈ path.moves) with isParent |
        ⟨name, isName, _filled, _inside⟩
      · simp only [isParent, reduceCtorEq, false_and, exists_false, iff_false]
        exact noDots ['.', '.'] (List.forall_mem_cons.2 ⟨rfl, List.forall_mem_singleton.2 rfl⟩)
      · simp only [isName, Component.piece, Component.normal.injEq, exists_eq_left']
        exact Name.prefix_written_iff literal name

theorem text_eq_iff (path : Path) : path.text = letters.toList ↔ path.moves = [.normal (Name.ofString letters)] := by
  constructor
  · intro same
    cases moves : path.moves with
    | nil =>
        rw [text, moves, if_pos rfl] at same
        exact absurd (same ▸ List.mem_cons_self) noDot
    | cons first others =>
        obtain ⟨more, written, alone, parted⟩ := text_cons moves
        rw [written] at same
        have noOthers : others = [] := by
          by_contra goesOn
          refine (literal '/' ?_).1 rfl
          rw [← same]
          rcases parted goesOn with inPiece | behind
          · exact List.mem_append_left _ inPiece
          · exact List.mem_append_right _ (List.mem_of_mem_head? behind)
        rw [alone noOthers, List.append_nil] at same
        rw [noOthers]
        rcases mem_moves_cases (moves ▸ List.mem_cons_self : first ∈ path.moves) with isParent |
          ⟨name, isName, _filled, _inside⟩
        · rw [isParent] at same
          exact absurd (same ▸ List.mem_cons_self) noDot
        · rw [isName] at same ⊢
          rw [(Name.written_eq_iff literal name).1 same]
          rfl
  · intro moves
    obtain ⟨more, written, alone, _parted⟩ := text_cons moves
    rw [written, alone rfl, List.append_nil]
    exact (Name.written_eq_iff literal _).2 rfl

end

theorem getLast?_text_iff {letter : Char} (literal : IsLiteral letter) (noDot : letter ≠ '.') (path : Path) :
    path.text.getLast? = some letter ↔ path.EndsWith (String.singleton letter) := by
  rcases List.eq_nil_or_concat' path.moves with stays | ⟨before, last, moves⟩
  · simpa [text, EndsWith, stays] using noDot.symm
  · have filled : path.moves ≠ [] := moves ▸ List.concat_ne_nil last before
    have member : last ∈ path.moves := moves ▸ List.mem_concat_self
    have filledLast := path.piece_ne_nil last member
    have ending : Name.ofString (String.singleton letter) = [.char letter] := by simp [Name.ofString]
    rw [text, if_neg filled, moves, List.foldl_append, List.foldl_cons, List.foldl_nil,
      Component.appendTo_eq filledLast, Component.getLast?_appendPiece _ filledLast]
    simp only [EndsWith, moves, ending, List.append_singleton_inj]
    rcases mem_moves_cases member with isParent | ⟨name, isName, _filled, _inside⟩
    · simpa [isParent, Component.piece] using noDot.symm
    · simp only [isName, Component.piece, Component.normal.injEq, Name.getLast?_written_iff literal,
        List.getLast?_eq_some_iff]
      constructor
      · intro premise
        obtain ⟨front, same⟩ := premise
        exact ⟨before, name, ⟨rfl, rfl⟩, front, same.symm⟩
      · intro premise
        obtain ⟨_before, other, ⟨_, same⟩, front, ends⟩ := premise
        exact ⟨front, (ends.trans same.symm).symm⟩

/-- A path whose text begins with a slash, because a backslash stands there in a name. -/
def LooksAbsolute (path : Path) : Prop := path.BeginsWith "\\"

/-- A path whose text is taken for a variable reference. A reference with nothing in it is not taken for one. -/
structure LooksReferential (path : Path) : Prop where
  begins : path.BeginsWith "$\x7b"
  ends : path.EndsWith "\x7d"
  filled : path.moves ≠ [.normal (Name.ofString (variableReference ""))]

variable (root : Path) {path : Path} (relative : path.isAbsolute = false)

include relative

theorem isAbsoluteEntry_scriptPath_iff :
    isAbsoluteEntry (scriptPath (root.join path) root) = true ↔ path.LooksAbsolute := by
  rw [isAbsoluteEntry, beq_iff_eq, toList_scriptPath_join root relative, head?_text_iff, LooksAbsolute]

theorem isVariableReference_scriptPath_iff :
    isVariableReference (scriptPath (root.join path) root) = true ↔ path.LooksReferential := by
  have begins : ['$', '\x7b'] <+: path.text ↔ path.BeginsWith "$\x7b" :=
    prefix_text_iff "$\x7b" (by decide) (by decide) (by decide) path
  have ends : path.text.getLast? = some '\x7d' ↔ path.EndsWith "\x7d" :=
    getLast?_text_iff (by decide) (by decide) path
  have empty : path.text = ['$', '\x7b', '\x7d'] ↔ path.moves = [.normal (Name.ofString (variableReference ""))] :=
    text_eq_iff (variableReference "") (by decide) (by decide) path
  rw [isVariableReference, Bool.and_eq_true, Bool.and_eq_true, decide_eq_true_eq, List.isPrefixOf_iff_prefix,
    beq_iff_eq, toList_scriptPath_join root relative, ends]
  constructor
  · intro premise
    obtain ⟨⟨long, opens⟩, closes⟩ := premise
    refine ⟨begins.1 opens, closes, fun same => ?_⟩
    rw [empty.2 same] at long
    exact absurd long (by decide)
  · intro looks
    refine ⟨⟨?_, begins.2 looks.begins⟩, looks.ends⟩
    obtain ⟨rest, same⟩ := begins.2 looks.begins
    have closes := ends.2 looks.ends
    have notEmpty := mt empty.1 looks.filled
    rw [← same] at closes notEmpty ⊢
    -- One letter behind the opening would be the closing brace, and none leaves no closing brace.
    match rest with
    | [] => simp at closes
    | [letter] =>
        rw [List.getLast?_append_of_ne_nil _ (List.cons_ne_nil _ _), List.getLast?_singleton] at closes
        cases closes
        exact absurd rfl notEmpty
    | first :: second :: others => simp

end Path

end Listfile
