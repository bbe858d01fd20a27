import Listfile.Json.Parser
import Listfile.Json.Printer

set_option autoImplicit false

/-! What is printed for texts and whole numbers is read back. A reader is given the printed letters and something
behind them, and it returns the value and leaves what stands behind. Behind a number that may be nothing which
could belong to the number. -/

namespace Listfile.Json

/-- Whether a value is read, and this is left. -/
def Outcome.Reads {α : Type} {input : List Char} (outcome : Outcome α input) (value : α) (rest : List Char) : Prop :=
  ∃ reading, outcome = .ok reading ∧ reading.value = value ∧ reading.rest = rest

namespace Outcome

variable {α β : Type} {input longer rest last : List Char} {value : α}

theorem reads_stay (value : α) (input : List Char) : (stay value input).Reads value input := ⟨_, rfl, rfl, rfl⟩

theorem reads_single (value : α) (first : Char) (input : List Char) : (single value first input).Reads value input :=
  ⟨_, rfl, rfl, rfl⟩

theorem reads_ofExcept (value : α) (input : List Char) : (ofExcept (.ok value) input).Reads value input :=
  ⟨_, rfl, rfl, rfl⟩

namespace Reads

variable {outcome : Outcome α input}

theorem widen (reads : outcome.Reads value rest) (within : input.length ≤ longer.length) :
    (outcome.widen within).Reads value rest := by
  obtain ⟨reading, found, sameValue, sameRest⟩ := reads
  rw [found]
  exact ⟨_, rfl, sameValue, sameRest⟩

theorem change (reads : outcome.Reads value rest) (change : α → β) :
    (outcome.change change).Reads (change value) rest := by
  obtain ⟨reading, found, sameValue, sameRest⟩ := reads
  rw [found]
  exact ⟨_, rfl, congrArg change sameValue, sameRest⟩

theorem after (reads : outcome.Reads value rest) (first : Char) : (outcome.after first).Reads value rest := by
  obtain ⟨reading, found, sameValue, sameRest⟩ := reads
  rw [found]
  exact ⟨_, rfl, sameValue, sameRest⟩

theorem andThen {next : (reading : Reading α input) → Outcome β reading.rest} {result : β}
    (reads : outcome.Reads value rest)
    (later : ∀ reading : Reading α input, reading.value = value → reading.rest = rest →
      (next reading).Reads result last) : (outcome.andThen next).Reads result last := by
  obtain ⟨reading, found, sameValue, sameRest⟩ := reads
  rw [found]
  exact (later reading sameValue sameRest).widen reading.within

end Reads

end Outcome

theorem byteCount_append (front back : List Char) : byteCount (front ++ back) = byteCount front + byteCount back := by
  induction front with
  | nil => exact (Nat.zero_add _).symm
  | cons letter front ih => rw [List.cons_append, byteCount, byteCount, ih, Nat.add_assoc]

theorem hexValue?_hexDigit : ∀ value < 16, hexValue? (hexDigit value) = some value := by decide

theorem byteCount_hexDigit : ∀ value < 16, byteCount [hexDigit value] = 1 := by decide

/-- A control character is printed as four digits, of which the last two are its code. -/
theorem readHexWord_control {code : Nat} (below : code < 0x20) (rest : List Char) :
    (readHexWord ('0' :: '0' :: hexDigit (code / 16) :: hexDigit (code % 16) :: rest)).Reads code rest := by
  have high : code / 16 < 16 := by omega
  have low : code % 16 < 16 := by omega
  have filled : ¬byteCount ('0' :: '0' :: hexDigit (code / 16) :: hexDigit (code % 16) :: rest) < 4 := by
    have zero : byteCount ['0'] = 1 := rfl
    have split : '0' :: '0' :: hexDigit (code / 16) :: hexDigit (code % 16) :: rest =
        ['0'] ++ (['0'] ++ ([hexDigit (code / 16)] ++ ([hexDigit (code % 16)] ++ rest))) := rfl
    rw [split, byteCount_append, byteCount_append, byteCount_append, byteCount_append, byteCount_hexDigit _ high,
      byteCount_hexDigit _ low, zero]
    omega
  have zero : hexValue? '0' = some 0 := rfl
  have word : hexWord? '0' '0' (hexDigit (code / 16)) (hexDigit (code % 16)) = some code := by
    rw [hexWord?, zero, hexValue?_hexDigit _ high, hexValue?_hexDigit _ low]
    simp only [Option.pure_def, Option.bind_eq_bind, Option.bind_some, Option.some.injEq]
    omega
  rw [readHexWord, if_neg filled]
  simp only [word]
  exact ((((Outcome.reads_stay _ _).after _).after _).after _).after _

theorem readEscape_short {letter character : Char} (plain : letter ≠ 'u') (short : shortEscape? letter = some character)
    (rest : List Char) : (readEscape (letter :: rest)).Reads character rest := by
  rw [readEscape, if_neg plain, short]
  exact Outcome.reads_single _ _ _

theorem readEscape_control {character : Char} (below : character.toNat < 0x20) (rest : List Char) :
    (readEscape ('u' :: '0' :: '0' :: hexDigit (character.toNat / 16) :: hexDigit (character.toNat % 16) :: rest)).Reads
      character rest := by
  rw [readEscape, if_pos rfl]
  refine Outcome.Reads.after ((readHexWord_control below rest).andThen fun word sameWord sameRest => ?_) _
  have notLow : isLowSurrogate character.toNat = false := by
    rw [isLowSurrogate, decide_eq_false (by omega), Bool.false_and]
  have notHigh : isHighSurrogate character.toNat = false := by
    rw [isHighSurrogate, decide_eq_false (by omega), Bool.false_and]
  rw [sameWord, sameRest, notLow, notHigh, if_neg Bool.false_ne_true, if_neg Bool.false_ne_true,
    Char.ofNat_toNat]
  exact Outcome.reads_stay _ _

section

variable {character : Char} {text rest last : List Char}

theorem readCharacters_escaped {written : List Char} (escape : (readEscape written).Reads character rest)
    (later : (readCharacters rest).Reads text last) :
    (readCharacters ('\\' :: written)).Reads (character :: text) last := by
  obtain ⟨reading, found, sameValue, sameRest⟩ := escape
  rw [readCharacters, if_neg (by decide), if_pos rfl, found]
  subst sameValue sameRest
  exact ((later.change (reading.value :: ·)).widen reading.within).after _

theorem readCharacters_plain (noQuote : character ≠ '"') (noBackslash : character ≠ '\\')
    (above : ¬character.toNat < 0x20) (later : (readCharacters rest).Reads text last) :
    (readCharacters (character :: rest)).Reads (character :: text) last := by
  rw [readCharacters, if_neg noQuote, if_neg noBackslash, if_neg above]
  exact (later.change (character :: ·)).after _

theorem escapeCharacter_cases (character : Char) :
    (∃ letter, letter ≠ 'u' ∧ shortEscape? letter = some character ∧ escapeCharacter character = ['\\', letter]) ∨
      (character.toNat < 0x20 ∧ escapeCharacter character =
        ['\\', 'u', '0', '0', hexDigit (character.toNat / 16), hexDigit (character.toNat % 16)]) ∨
      (character ≠ '"' ∧ character ≠ '\\' ∧ ¬character.toNat < 0x20 ∧ escapeCharacter character = [character]) := by
  unfold escapeCharacter
  split
  · exact Or.inl ⟨'"', by decide, rfl, rfl⟩
  · exact Or.inl ⟨'\\', by decide, rfl, rfl⟩
  · exact Or.inl ⟨'b', by decide, rfl, rfl⟩
  · exact Or.inl ⟨'f', by decide, rfl, rfl⟩
  · exact Or.inl ⟨'n', by decide, rfl, rfl⟩
  · exact Or.inl ⟨'r', by decide, rfl, rfl⟩
  · exact Or.inl ⟨'t', by decide, rfl, rfl⟩
  · rename_i noQuote noBackslash _ _ _ _ _
    split
    · rename_i below
      exact Or.inr (Or.inl ⟨below, rfl⟩)
    · rename_i above
      exact Or.inr (Or.inr ⟨noQuote, noBackslash, above, rfl⟩)

theorem readCharacters_escapeCharacter (character : Char) (later : (readCharacters rest).Reads text last) :
    (readCharacters (escapeCharacter character ++ rest)).Reads (character :: text) last := by
  rcases escapeCharacter_cases character with ⟨letter, plain, short, written⟩ | ⟨below, written⟩ |
    ⟨noQuote, noBackslash, above, written⟩
  · rw [written]
    exact readCharacters_escaped (readEscape_short plain short rest) later
  · rw [written]
    exact readCharacters_escaped (readEscape_control below rest) later
  · rw [written]
    exact readCharacters_plain noQuote noBackslash above later

end

theorem readCharacters_escaped_text (text rest : List Char) :
    (readCharacters (text.flatMap escapeCharacter ++ '"' :: rest)).Reads text rest := by
  induction text with
  | nil =>
      rw [List.flatMap_nil, List.nil_append, readCharacters, if_pos rfl]
      exact Outcome.reads_single _ _ _
  | cons character text ih =>
      rw [List.flatMap_cons, List.append_assoc]
      exact readCharacters_escapeCharacter character ih

theorem toList_quoted (text : String) :
    (quoted text).toList = '"' :: (text.toList.flatMap escapeCharacter ++ ['"']) := by
  simp [quoted]

theorem readString_quoted (text : String) (rest : List Char) :
    (readString (text.toList.flatMap escapeCharacter ++ '"' :: rest)).Reads text rest := by
  have read := (readCharacters_escaped_text text.toList rest).change String.ofList
  rwa [String.ofList_toList] at read

theorem isDigit_of_mem_toDigits (value : Nat) : ∀ digit ∈ Nat.toDigits 10 value, isDigit digit = true :=
  fun _digit member => Nat.isDigit_of_mem_toDigits (by decide) (by decide) member

theorem head?_toDigits_ne_zero {value : Nat} (positive : 0 < value) :
    (Nat.toDigits 10 value).head? ≠ some '0' := by
  induction value using Nat.strongRecOn with
  | ind value ih =>
      rw [Nat.toDigits_eq_if (by decide)]
      split
      · intro zero
        have isZero := Nat.digitChar_eq_zero.1 (Option.some.inj zero)
        omega
      · have shorter := ih (value / 10) (by omega) (by omega)
        rwa [List.head?_append, Option.or_of_isSome (List.isSome_head?.2 Nat.toDigits_ne_nil)]

theorem le_ofDigitChars (value : Nat) (digits : List Char) : value ≤ Nat.ofDigitChars 10 digits value := by
  rw [Nat.ofDigitChars_eq_ofDigitChars_zero]
  calc value ≤ 10 ^ digits.length * value := Nat.le_mul_of_pos_left _ (Nat.pow_pos (by decide))
    _ ≤ _ := Nat.le_add_right _ _

theorem collect_eq {limit value : Nat} {digits : List Char} (within : Nat.ofDigitChars 10 digits value ≤ limit) :
    collect limit value digits = (Nat.ofDigitChars 10 digits value, []) := by
  induction digits generalizing value with
  | nil => rw [collect, Nat.ofDigitChars_nil]
  | cons digit digits ih =>
      have next : value * 10 + digitValue digit = 10 * value + (digit.toNat - '0'.toNat) := by
        rw [Nat.mul_comm, digitValue]
      rw [Nat.ofDigitChars_cons, ← next] at within ⊢
      rw [collect, if_pos (Nat.le_trans (le_ofDigitChars _ digits) within), ih within]

/-- Nothing that could belong to a number. -/
def Ends (rest : List Char) : Prop :=
  ∀ next ∈ rest.head?, isDigit next = false ∧ next ≠ '.' ∧ isExponentLetter next = false

theorem Ends.digitsOf_append {rest digits : List Char} (ends : Ends rest) (all : ∀ digit ∈ digits, isDigit digit = true) :
    digitsOf (digits ++ rest) = digits ∧ afterDigits (digits ++ rest) = rest := by
  rw [digitsOf, afterDigits, List.takeWhile_append_of_pos all, List.dropWhile_append_of_pos all]
  cases rest with
  | nil => exact ⟨List.append_nil digits, rfl⟩
  | cons next others =>
      have stops := (ends next rfl).1
      rw [List.takeWhile_cons_of_neg (by simp [stops]), List.dropWhile_cons_of_neg (by simp [stops])]
      exact ⟨List.append_nil digits, rfl⟩

section

variable {negative : Bool} {value : Nat} {number : JsonNumber} {rest : List Char}

theorem readAfterWhole_ends (ends : Ends rest) (whole : ∀ rest, wholeNumber negative value rest = .ok number) :
    (readAfterWhole negative value 0 rest).Reads number rest := by
  cases rest with
  | nil =>
      rw [readAfterWhole, if_pos rfl, whole]
      exact Outcome.reads_ofExcept _ _
  | cons next others =>
      obtain ⟨_noDigit, noPoint, noExponent⟩ := ends next rfl
      rw [readAfterWhole, if_neg noPoint, if_pos ⟨rfl, noExponent⟩, whole]
      exact Outcome.reads_ofExcept _ _

theorem readNumber_toDigits (fits : value ≤ greatestWord) (ends : Ends rest)
    (whole : ∀ rest, wholeNumber negative value rest = .ok number) :
    (readNumber negative (Nat.toDigits 10 value ++ rest)).Reads number rest := by
  rcases Nat.eq_zero_or_pos value with zero | positive
  · subst zero
    have nothing : ∀ digit ∈ ([] : List Char), isDigit digit = true := fun _digit => nofun
    obtain ⟨noDigits, _after⟩ := ends.digitsOf_append nothing
    rw [List.nil_append] at noDigits
    rw [Nat.toDigits_zero, List.singleton_append, readNumber, if_pos rfl, noDigits]
    exact (readAfterWhole_ends ends whole).after _
  · have noZero := head?_toDigits_ne_zero positive
    have all := isDigit_of_mem_toDigits value
    have read := Nat.ofDigitChars_ten_toDigits (n := value)
    cases written : Nat.toDigits 10 value with
    | nil => exact absurd written Nat.toDigits_ne_nil
    | cons first digits =>
        rw [written] at noZero all read
        obtain ⟨isFirst, areDigits⟩ := List.forall_mem_cons.1 all
        obtain ⟨taken, left⟩ := ends.digitsOf_append areDigits
        have collected : collect greatestWord 0 (first :: digits) = (value, []) := by
          rw [collect_eq (by rw [read]; exact fits), read]
        have apart : first ≠ '0' := fun same => noZero (congrArg some same)
        rw [List.cons_append, readNumber, if_neg apart, if_pos isFirst, taken, collected]
        have after : (readAfterWhole negative value 0 (afterDigits (digits ++ rest))).Reads number rest := by
          rw [left]
          exact readAfterWhole_ends ends whole
        exact (after.widen _).after _

end

end Listfile.Json
