import Listfile.Project.LibraryFile
import Listfile.Script.Sink

set_option autoImplicit false

/-! Names of library files. A path is cut behind its last slash, and what a platform adds goes in front of the last
segment and behind it. The cut loses nothing, and it falls between two characters also if it is made in the bytes of
the path, since the byte of a slash is in no other character. So on every platform different files have different
names. -/

namespace Listfile

/-- Lists cut behind the last separator. All of a list stands behind the cut if it has no separator. -/
structure CutBehind {α : Type} (separator : α) (whole front back : List α) : Prop where
  append : front ++ back = whole
  absent : separator ∉ back
  closed : front = [] ∨ [separator] <:+ front

def cutBehind {α : Type} [DecidableEq α] (separator : α) (whole : List α) : List α × List α :=
  ((whole.reverse.dropWhile (· ≠ separator)).reverse, (whole.reverse.takeWhile (· ≠ separator)).reverse)

section Cut

variable {α : Type} [DecidableEq α] {separator : α} {whole front back : List α}

theorem cutBehind_cuts (separator : α) (whole : List α) :
    CutBehind separator whole (cutBehind separator whole).1 (cutBehind separator whole).2 where
  append := by
    rw [cutBehind, ← List.reverse_append, List.takeWhile_append_dropWhile, List.reverse_reverse]
  absent := by
    intro member
    have passed := List.all_takeWhile (p := fun item => decide (item ≠ separator)) (l := whole.reverse)
    rw [List.all_eq_true] at passed
    exact of_decide_eq_true (passed separator (List.mem_reverse.1 member)) rfl
  closed := by
    rw [cutBehind, List.reverse_eq_nil_iff]
    cases rest : whole.reverse.dropWhile (· ≠ separator) with
    | nil => exact Or.inl rfl
    | cons item items =>
        have stopped := List.head?_dropWhile_not (fun item => decide (item ≠ separator)) whole.reverse
        rw [rest] at stopped
        have isSeparator : item = separator := Decidable.not_not.1 (of_decide_eq_false stopped)
        rw [isSeparator, List.reverse_cons]
        exact Or.inr (List.suffix_append _ _)

theorem CutBehind.eq_cutBehind (cuts : CutBehind separator whole front back) :
    cutBehind separator whole = (front, back) := by
  have others : ∀ item ∈ back.reverse, decide (item ≠ separator) = true := by
    intro item member
    apply decide_eq_true
    intro same
    rw [same, List.mem_reverse] at member
    exact cuts.absent member
  have stops : front.reverse.takeWhile (· ≠ separator) = [] ∧
      front.reverse.dropWhile (· ≠ separator) = front.reverse := by
    rcases cuts.closed with empty | ⟨before, closed⟩
    · rw [empty]
      exact ⟨rfl, rfl⟩
    · rw [← closed, List.reverse_append, List.reverse_singleton, List.singleton_append]
      exact ⟨List.takeWhile_cons_of_neg (by simp), List.dropWhile_cons_of_neg (by simp)⟩
  rw [cutBehind, ← cuts.append, List.reverse_append, List.takeWhile_append_of_pos others,
    List.dropWhile_append_of_pos others, stops.1, stops.2, List.append_nil, List.reverse_reverse, List.reverse_reverse]

end Cut

/-- A byte of a character is the character itself or none of ASCII. -/
theorem byte_of_mem_utf8EncodeChar (letter : Char) :
    ∀ byte ∈ String.utf8EncodeChar letter, byte.toNat = letter.toNat ∨ 128 ≤ byte.toNat := by
  have beyond : ∀ code, 128 ≤ code → code < 256 →
      (UInt8.ofNat code).toNat = letter.toNat ∨ 128 ≤ (UInt8.ofNat code).toNat := by
    intro code least most
    rw [UInt8.toNat_ofNat']
    omega
  have same : letter.val.toNat = letter.toNat := rfl
  unfold String.utf8EncodeChar
  dsimp only
  rw [same]
  split
  · rw [List.forall_mem_singleton, UInt8.toNat_ofNat']
    omega
  · split
    · rw [List.forall_mem_cons, List.forall_mem_singleton]
      constructor <;> apply beyond <;> omega
    · split
      · rw [List.forall_mem_cons, List.forall_mem_cons, List.forall_mem_singleton]
        refine ⟨?_, ?_, ?_⟩ <;> apply beyond <;> omega
      · rw [List.forall_mem_cons, List.forall_mem_cons, List.forall_mem_cons, List.forall_mem_singleton]
        refine ⟨?_, ?_, ?_, ?_⟩ <;> apply beyond <;> omega

theorem slash_mem_utf8EncodeChar_iff (letter : Char) : 47 ∈ String.utf8EncodeChar letter ↔ letter = '/' := by
  constructor
  · intro member
    rcases byte_of_mem_utf8EncodeChar letter 47 member with itself | beyond
    · exact Char.ext (UInt32.toNat_inj.1 itself.symm)
    · exact absurd beyond (by decide)
  · intro same
    rw [same]
    decide

open Script (textBytes)

/-- Texts and their bytes are cut at the same place. -/
theorem CutBehind.bytes {whole front back : List Char} (cuts : CutBehind '/' whole front back) :
    CutBehind 47 (whole.flatMap String.utf8EncodeChar) (front.flatMap String.utf8EncodeChar)
      (back.flatMap String.utf8EncodeChar) where
  append := by rw [← List.flatMap_append, cuts.append]
  absent := by
    intro member
    obtain ⟨letter, inBack, inLetter⟩ := List.mem_flatMap.1 member
    rw [slash_mem_utf8EncodeChar_iff] at inLetter
    rw [inLetter] at inBack
    exact cuts.absent inBack
  closed := by
    rcases cuts.closed with empty | ⟨before, closed⟩
    · rw [empty]
      exact Or.inl rfl
    · rw [← closed, List.flatMap_append]
      exact Or.inr (List.suffix_append _ _)

namespace LibraryFile

/-- How the name of a file is made of its path: the directory with its slash, and the last segment. -/
structure IsCut (file directory segment : String) : Prop where
  split : LibraryFile.split file.toList = (directory.toList, segment.toList)
  whole : directory ++ segment = file
  absent : '/' ∉ segment.toList
  closed : directory = "" ∨ "/".toList <:+ directory.toList
  bytes : cutBehind 47 (textBytes file) = (textBytes directory, textBytes segment)
  unix : ∀ suffix, unix file suffix = directory ++ "lib" ++ segment ++ "." ++ suffix

theorem split_eq_cutBehind (file : List Char) : split file = cutBehind '/' file := rfl

theorem exists_isCut (file : String) : ∃ directory segment, IsCut file directory segment := by
  have cuts := cutBehind_cuts '/' file.toList
  refine ⟨String.ofList (split file.toList).1, String.ofList (split file.toList).2, ?_, ?_, ?_, ?_, ?_, fun suffix => rfl⟩
  · rw [String.toList_ofList, String.toList_ofList]
  · rw [← String.ofList_append, split_eq_cutBehind, cuts.append, String.ofList_toList]
  · rw [String.toList_ofList]
    exact cuts.absent
  · have ends := cuts.closed
    rw [← split_eq_cutBehind, ← String.toList_ofList (l := (split file.toList).1), String.toList_eq_nil_iff] at ends
    exact ends
  · rw [textBytes, textBytes, textBytes, String.toList_ofList, String.toList_ofList]
    exact cuts.bytes.eq_cutBehind

theorem IsCut.cuts_prefixed {file directory segment : String} (cut : IsCut file directory segment) :
    CutBehind '/' (directory ++ "lib" ++ segment).toList directory.toList ("lib" ++ segment).toList where
  append := by rw [← String.toList_append, ← String.append_assoc]
  absent := by
    rw [String.toList_append, List.mem_append, not_or]
    exact ⟨by decide, cut.absent⟩
  closed := cut.closed.imp_left String.toList_eq_nil_iff.2

theorem unix_injective (suffix : String) : Function.Injective (unix · suffix) := by
  intro file other same
  obtain ⟨directory, segment, cut⟩ := exists_isCut file
  obtain ⟨otherDirectory, otherSegment, otherCut⟩ := exists_isCut other
  dsimp only at same
  rw [cut.unix, otherCut.unix, String.append_left_inj, String.append_left_inj] at same
  have cuts := cut.cuts_prefixed
  rw [same] at cuts
  obtain ⟨sameDirectory, sameSegment⟩ := Prod.mk.inj
    (cuts.eq_cutBehind.symm.trans otherCut.cuts_prefixed.eq_cutBehind)
  rw [String.toList_inj] at sameDirectory sameSegment
  rw [← cut.whole, ← otherCut.whole, sameDirectory, (String.append_right_inj "lib").1 sameSegment]

theorem windowsLibrary_injective : Function.Injective windowsLibrary := fun _file _other same =>
  (String.append_left_inj ".lib").1 same

theorem windowsDll_injective : Function.Injective windowsDll := fun _file _other same =>
  (String.append_left_inj ".dll").1 same

end LibraryFile

end Listfile
