import Listfile.Proofs.Script.Argument
import Listfile.Script.Part

set_option autoImplicit false

/-! Lists of quoted texts, read back by a scanner that knows nothing of their writer. A quote opens a text, a backslash
in the text makes the next letter stand for itself, the next quote closes the text, and one space stands between two
texts. Whatever letters the texts have, what is written for them is read to its end as these texts. -/

namespace Listfile.Script

/-- Where a scanner stands, with the letters of the text that is open. -/
inductive ScanPlace where
  | opening
  | inside (letters : List Char)
  /-- Behind a backslash: the next letter stands for itself. -/
  | escaped (letters : List Char)
  | closed
  deriving DecidableEq, Repr

def scan : ScanPlace → List Char → Option (List String)
  | .closed, [] => some []
  | _, [] => none
  | .opening, letter :: rest => if letter = '"' then scan (.inside []) rest else none
  | .inside letters, letter :: rest =>
    if letter = '"' then (scan .closed rest).map (String.ofList letters :: ·)
    else if letter = '\\' then scan (.escaped letters) rest
    else scan (.inside (letters ++ [letter])) rest
  | .escaped letters, letter :: rest => scan (.inside (letters ++ [letter])) rest
  | .closed, letter :: rest => if letter = ' ' then scan .opening rest else none

def quotedTexts? (written : String) : Option (List String) :=
  if written = "" then some [] else scan .opening written.toList

theorem scan_readsEscapes : ReadsEscapes fun letters rest => scan (.inside letters) rest where
  plain := by
    intro letters letter rest noBackslash noQuote
    rw [scan, if_neg noQuote, if_neg noBackslash]
  escaped := by
    intro letters letter rest
    rw [scan, if_neg (by decide), if_pos rfl, scan]

theorem scan_quote (text : String) (rest : List Char) :
    scan .opening ((quote text).toList ++ rest) = (scan .closed rest).map (text :: ·) := by
  have written : (quote text).toList ++ rest = '"' :: (text.toList.flatMap escape ++ '"' :: rest) := by
    simp [quote]
  rw [written, scan, if_pos rfl, scan_readsEscapes.read_flatMap_escape, List.nil_append, scan, if_pos rfl,
    String.ofList_toList]

theorem scan_quotes (first : String) (others : List String) :
    scan .opening (" ".intercalate ((first :: others).map quote)).toList = some (first :: others) := by
  induction others generalizing first with
  | nil =>
      rw [List.map_singleton, String.intercalate_singleton, ← List.append_nil (quote first).toList, scan_quote]
      rfl
  | cons second others ih =>
      have space : ∀ rest, scan .closed (" ".toList ++ rest) = scan .opening rest := fun _rest => rfl
      rw [List.map_cons, List.map_cons, String.intercalate_cons_cons, String.toList_append, String.toList_append,
        List.append_assoc, scan_quote, space, ← List.map_cons, ih]
      rfl

theorem quotedTexts?_quotes (texts : List String) :
    quotedTexts? (" ".intercalate (texts.map quote)) = some texts := by
  cases texts with
  | nil => rfl
  | cons first others =>
      have scanned := scan_quotes first others
      have filled : " ".intercalate ((first :: others).map quote) ≠ "" := by
        intro empty
        rw [empty] at scanned
        cases scanned
      rw [quotedTexts?, if_neg filled, scanned]

theorem quotedTexts?_quote (text : String) : quotedTexts? (quote text) = some [text] := by
  have alone := quotedTexts?_quotes [text]
  rwa [List.map_singleton, String.intercalate_singleton] at alone

theorem quote_injective : Function.Injective quote := by
  intro left right same
  have read := quotedTexts?_quote left
  rw [same, quotedTexts?_quote right] at read
  exact (List.cons.inj (Option.some.inj read)).1.symm

/-- Whether there is a line with this opening whose statement ends with a list of quoted texts, and it is read as these
texts. -/
def ListsQuoted (lines : List String) (opening : String) (texts : List String) : Prop :=
  ∃ written, opening ++ written ++ " )" ∈ lines ∧ quotedTexts? written = some texts

/-- Quoted texts are read back as they were: in any list of them, hence in the choices of standards and of
configurations and in the flags of a target. No two texts are quoted alike. -/
theorem quotes_readBack :
    (∀ texts : List String, quotedTexts? (" ".intercalate (texts.map quote)) = some texts) ∧
    (∀ (language : Language) (standards : LanguageStandards) (units : List OutputUnit),
      ListsQuoted (standardLines language standards units)
        ("set_property( CACHE " ++ language.standardVariable ++ " PROPERTY STRINGS ") standards.allowed) ∧
    (∀ targets : List BuildTarget,
      ListsQuoted (targetListLines targets) ("set_property( CACHE " ++ buildTypeVariable ++ " PROPERTY STRINGS ")
        (targets.map BuildTarget.configurationName)) ∧
    (∀ target : BuildTarget,
      ListsQuoted (targetLines target) "\tset( CMAKE_C_FLAGS " [" ".intercalate target.cFlags] ∧
      ListsQuoted (targetLines target) "\tset( CMAKE_CXX_FLAGS " [" ".intercalate target.cppFlags]) ∧
    Function.Injective quote := by
  refine ⟨quotedTexts?_quotes, fun language standards units => ?_, fun targets => ?_, fun target => ⟨?_, ?_⟩,
    quote_injective⟩
  · exact ⟨_, by simp [standardLines], quotedTexts?_quotes standards.allowed⟩
  · refine ⟨_, ?_, quotedTexts?_quotes _⟩
    simp [targetListLines, Function.comp_def]
  · exact ⟨_, by simp [targetLines], quotedTexts?_quote _⟩
  · exact ⟨_, by simp [targetLines], quotedTexts?_quote _⟩

end Listfile.Script
