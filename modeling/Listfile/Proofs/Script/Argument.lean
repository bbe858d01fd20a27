import Listfile.Script.Argument

set_option autoImplicit false

/-! Escaped letters. A reader that takes plain letters as they are, and whatever letter stands behind a backslash, reads
an escaped text as the text. Escaping doubles the backslashes of a text and then puts one before each of its quotes. -/

namespace Listfile.Script

/-- What is asked of a reader of quoted letters. It is given the letters that were read before. -/
structure ReadsEscapes {β : Type} (read : List Char → List Char → β) : Prop where
  plain : ∀ letters letter rest, letter ≠ '\\' → letter ≠ '"' →
    read letters (letter :: rest) = read (letters ++ [letter]) rest
  escaped : ∀ letters letter rest, read letters ('\\' :: letter :: rest) = read (letters ++ [letter]) rest

theorem ReadsEscapes.read_flatMap_escape {β : Type} {read : List Char → List Char → β} (reads : ReadsEscapes read)
    (letters text rest : List Char) : read letters (text.flatMap escape ++ rest) = read (letters ++ text) rest := by
  induction text generalizing letters with
  | nil => rw [List.flatMap_nil, List.nil_append, List.append_nil]
  | cons letter text ih =>
      have first : ∀ rest, read letters (escape letter ++ rest) = read (letters ++ [letter]) rest := by
        intro rest
        by_cases special : letter = '\\' ∨ letter = '"'
        · rw [escape, if_pos special]
          exact reads.escaped letters letter rest
        · rw [escape, if_neg special]
          exact reads.plain letters letter rest (not_or.1 special).1 (not_or.1 special).2
      rw [List.flatMap_cons, List.append_assoc, first, ih, List.append_assoc, List.singleton_append]

def replaceLetter (old : Char) (new text : List Char) : List Char :=
  text.flatMap fun letter => if letter = old then new else [letter]

/-- One pass does what two replacements do, of which the one of backslashes comes first. -/
theorem flatMap_escape_eq_replaceLetter (text : List Char) :
    text.flatMap escape = replaceLetter '"' ['\\', '"'] (replaceLetter '\\' ['\\', '\\'] text) := by
  rw [replaceLetter, replaceLetter, List.flatMap_assoc]
  congr 1
  funext letter
  by_cases backslash : letter = '\\'
  · rw [escape, if_pos (Or.inl backslash), if_pos backslash, backslash]
    rfl
  · by_cases quote : letter = '"'
    · rw [escape, if_pos (Or.inr quote), if_neg backslash, quote]
      rfl
    · rw [escape, if_neg (not_or.2 ⟨backslash, quote⟩), if_neg backslash, List.flatMap_singleton, if_neg quote]

/-- Quotes that were escaped first would have their backslashes doubled. -/
example : replaceLetter '\\' ['\\', '\\'] (replaceLetter '"' ['\\', '"'] ['"']) ≠ ['"'].flatMap escape := by decide

end Listfile.Script
