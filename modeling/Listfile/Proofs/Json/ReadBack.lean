import Listfile.Proofs.Json.Reads
import Listfile.Proofs.Lists

set_option autoImplicit false

/-! Indented values are read back. This holds of values without fractions and repeated keys, whose brackets are not
nested deeper than a reader goes. An item is read wherever it stands: blanks may be in front of it, and behind it the
comma, the line break or the bracket that ends it. -/

namespace Listfile.Json

def FitsWord (value : Int) : Prop := -Int.ofNat (Nat.pow 2 63) ≤ value ∧ value ≤ greatestWord

/-- No bracket repeats a key, brackets are nested at most `depth` deep, and all numbers are whole and of machine size. -/
inductive Plain : Nat → Json → Prop
  | null (depth : Nat) : Plain depth .null
  | bool (depth : Nat) (value : Bool) : Plain depth (.bool value)
  | string (depth : Nat) (text : String) : Plain depth (.string text)
  | number {value : Int} (depth : Nat) (fits : FitsWord value) : Plain depth (.number (.integer value))
  | array {depth : Nat} {items : List Json} (each : ∀ item ∈ items, Plain depth item) : Plain (depth + 1) (.array items)
  | object {depth : Nat} {members : List (String × Json)} (distinct : (members.map Prod.fst).Nodup)
    (each : ∀ member ∈ members, Plain depth member.2) : Plain (depth + 1) (.object members)

section

variable {blanks rest : List Char} {next : Char}

theorem skipBlanks_cons (shown : isBlank next = false) : skipBlanks (next :: rest) = next :: rest :=
  List.dropWhile_cons_of_neg (by rw [shown]; exact Bool.false_ne_true)

theorem skipBlanks_append (blank : ∀ letter ∈ blanks, isBlank letter = true) :
    skipBlanks (blanks ++ rest) = skipBlanks rest :=
  List.dropWhile_append_of_pos blank

theorem lineStart_blank (depth : Nat) : ∀ letter ∈ (lineStart depth).toList, isBlank letter = true := by
  intro letter member
  rw [lineStart, String.toList_append, List.mem_append] at member
  rcases member with isBreak | isSpace
  · rw [List.mem_singleton.1 isBreak]
    rfl
  · rw [String.toList_ofList] at isSpace
    rw [(List.mem_replicate.1 isSpace).2]
    rfl

theorem ends_blanks (blank : ∀ letter ∈ blanks, isBlank letter = true) (ends : Ends rest) : Ends (blanks ++ rest) := by
  cases blanks with
  | nil => exact ends
  | cons first others =>
      have isFirst := blank first List.mem_cons_self
      intro letter atHead
      rw [← Option.some.inj atHead]
      simp only [isBlank, Bool.or_eq_true, beq_iff_eq] at isFirst
      rcases isFirst with ((same | same) | same) | same <;> rw [same] <;> decide

end

/-- Whether a reader reads what was written wherever it stands. -/
def ReadsBack {α : Type} (readItem : Reader α) (written : List Char) (value : α) : Prop :=
  ∀ blanks rest, (∀ letter ∈ blanks, isBlank letter = true) → Ends rest →
    (readItem (blanks ++ (written ++ rest))).Reads value rest

/-- Whether written letters begin with one that neither is blank nor closes a bracket. -/
def Opens (written : List Char) : Prop :=
  ∃ first others, written = first :: others ∧ isBlank first = false ∧ first ≠ ']' ∧ first ≠ '\x7d'

def continued {α : Type} (between : List Char) (written : α → List Char) (items : List α) : List Char :=
  items.flatMap fun item => ',' :: (between ++ written item)

theorem ends_mark {mark : Char} (ends : isDigit mark = false ∧ mark ≠ '.' ∧ isExponentLetter mark = false)
    (rest : List Char) : Ends (mark :: rest) := by
  intro next atHead
  rw [← Option.some.inj atHead]
  exact ends

theorem Opens.skipBlanks_eq {written blanks : List Char} (opens : Opens written)
    (blank : ∀ letter ∈ blanks, isBlank letter = true) (rest : List Char) :
    ∃ first others, skipBlanks (blanks ++ (written ++ rest)) = first :: others ∧ first ≠ ']' ∧ first ≠ '\x7d' := by
  obtain ⟨first, others, same, shown, noBracket, noBrace⟩ := opens
  rw [same, skipBlanks_append blank, List.cons_append, skipBlanks_cons shown]
  exact ⟨first, others ++ rest, rfl, noBracket, noBrace⟩

section

variable {readItem : Reader Json} {input behind rest last : List Char} {value : Json}

theorem readItems_last (read : (readItem input).Reads value behind) (closed : skipBlanks behind = ']' :: rest) :
    (readItems readItem input).Reads [value] rest := by
  obtain ⟨item, found, sameValue, sameRest⟩ := read
  subst sameValue sameRest
  rw [readItems, found]
  dsimp only
  split
  · rename_i nothing
    rw [closed] at nothing
    cases nothing
  · rename_i next others view
    obtain ⟨isBracket, isRest⟩ := List.cons.inj (closed.symm.trans view)
    subst isBracket isRest
    rw [if_pos rfl]
    exact (Outcome.reads_stay _ _).widen _

theorem readItems_more (read : (readItem input).Reads value (',' :: rest))
    (more : ∃ first others, skipBlanks rest = first :: others ∧ first ≠ ']') {items : List Json}
    (later : (readItems readItem rest).Reads items last) :
    (readItems readItem input).Reads (value :: items) last := by
  obtain ⟨first, others, following, noBracket⟩ := more
  obtain ⟨item, found, sameValue, sameRest⟩ := read
  have behind : skipBlanks item.rest = ',' :: rest := by rw [sameRest, skipBlanks_cons rfl]
  subst sameValue
  rw [readItems, found]
  dsimp only
  split
  · rename_i nothing
    rw [behind] at nothing
    cases nothing
  · rename_i next others view
    obtain ⟨isComma, isRest⟩ := List.cons.inj (behind.symm.trans view)
    subst isComma isRest
    rw [if_neg (by decide), if_pos rfl, following]
    dsimp only
    rw [if_neg noBracket]
    exact (later.change _).widen _

end

section

variable {readItem : Reader Json} {between closing blanks : List Char}

theorem readItems_reads {written : Json → List Char} {first : Json} {others : List Json}
    (each : ∀ item ∈ first :: others, ReadsBack readItem (written item) item ∧ Opens (written item))
    (blankBetween : ∀ letter ∈ between, isBlank letter = true) (blankClosing : ∀ letter ∈ closing, isBlank letter = true)
    (blank : ∀ letter ∈ blanks, isBlank letter = true) (rest : List Char) :
    (readItems readItem
      (blanks ++ (written first ++ (continued between written others ++ (closing ++ ']' :: rest))))).Reads
        (first :: others) rest := by
  induction others generalizing first blanks with
  | nil =>
      have ends : Ends (closing ++ ']' :: rest) := ends_blanks blankClosing (ends_mark (by decide) rest)
      have closed : skipBlanks (closing ++ ']' :: rest) = ']' :: rest := by
        rw [skipBlanks_append blankClosing, skipBlanks_cons rfl]
      exact readItems_last ((each first List.mem_cons_self).1 blanks _ blank ends) closed
  | cons second others ih =>
      obtain ⟨readsFirst, eachOther⟩ := List.forall_mem_cons.1 each
      have comma : continued between written (second :: others) ++ (closing ++ ']' :: rest) =
          ',' :: (between ++ (written second ++ (continued between written others ++ (closing ++ ']' :: rest)))) := by
        simp only [continued, List.flatMap_cons, List.cons_append, List.append_assoc]
      rw [comma]
      have ends : Ends (',' :: (between ++
          (written second ++ (continued between written others ++ (closing ++ ']' :: rest))))) :=
        ends_mark (by decide) _
      obtain ⟨letter, letters, following, noBracket, _noBrace⟩ :=
        (eachOther second List.mem_cons_self).2.skipBlanks_eq blankBetween
          (continued between written others ++ (closing ++ ']' :: rest))
      exact readItems_more (readsFirst.1 blanks _ blank ends) ⟨letter, letters, following, noBracket⟩
        (ih eachOther blankBetween)

end

/-! ### Members -/

theorem insertMember_of_new {key : String} (value : Json) {members : List (String × Json)}
    (new : key ∉ members.map Prod.fst) : insertMember key value members = members ++ [(key, value)] := by
  induction members with
  | nil => rfl
  | cons member members ih =>
      rw [List.map_cons, List.mem_cons, not_or] at new
      rw [insertMember, if_neg fun same => new.1 same.symm, ih new.2, List.cons_append]

theorem insertMember_of_nodup {before others : List (String × Json)} {member : String × Json}
    (distinct : ((before ++ member :: others).map Prod.fst).Nodup) :
    insertMember member.1 member.2 before = before ++ [member] := by
  apply insertMember_of_new
  rw [List.map_append, List.map_cons] at distinct
  exact fun inBefore => (List.nodup_append.1 distinct).2.2 _ inBefore _ List.mem_cons_self rfl

def writtenMember (written : Json → List Char) (member : String × Json) : List Char :=
  (quoted member.1).toList ++ (':' :: ' ' :: written member.2)

theorem opens_writtenMember (written : Json → List Char) (member : String × Json) :
    Opens (writtenMember written member) := by
  rw [writtenMember, toList_quoted]
  exact ⟨'"', _, rfl, rfl, by decide, by decide⟩

section

variable {readItem : Reader Json}

theorem readMemberValue_reads {written : List Char} {value : Json} (reads : ReadsBack readItem written value)
    (key : String) {rest : List Char} (ends : Ends rest) :
    (readMemberValue readItem key (':' :: ' ' :: (written ++ rest))).Reads (key, value) rest := by
  unfold readMemberValue
  split
  · rename_i nothing
    rw [skipBlanks_cons rfl] at nothing
    cases nothing
  · rename_i colon others view
    rw [skipBlanks_cons rfl] at view
    obtain ⟨isColon, isRest⟩ := List.cons.inj view
    subst isColon isRest
    have space : ∀ letter ∈ [' '], isBlank letter = true := List.forall_mem_singleton.2 rfl
    rw [if_pos rfl]
    exact ((reads [' '] rest space ends).change _).widen _

theorem readMember_readsBack {written : Json → List Char} {member : String × Json}
    (reads : ReadsBack readItem (written member.2) member.2) :
    ReadsBack (readMember readItem) (writtenMember written member) member := by
  intro blanks rest blank ends
  have opened : skipBlanks (blanks ++ (writtenMember written member ++ rest)) =
      '"' :: (member.1.toList.flatMap escapeCharacter ++ '"' :: ':' :: ' ' :: (written member.2 ++ rest)) := by
    rw [skipBlanks_append blank, writtenMember, toList_quoted, List.cons_append, List.cons_append, skipBlanks_cons rfl]
    simp only [List.append_assoc, List.cons_append, List.nil_append]
  unfold readMember
  split
  · rename_i nothing
    rw [opened] at nothing
    cases nothing
  · rename_i quote others view
    obtain ⟨isQuote, isRest⟩ := List.cons.inj (opened.symm.trans view)
    subst isQuote isRest
    rw [if_pos rfl]
    refine Outcome.Reads.widen ((readString_quoted member.1 _).andThen fun key sameKey sameRest => ?_) _
    rw [sameKey, sameRest]
    exact readMemberValue_reads reads member.1 ends

variable {before members : List (String × Json)} {member : String × Json} {input behind rest last : List Char}

theorem readMembers_last (read : (readMember readItem input).Reads member behind)
    (closed : skipBlanks behind = '\x7d' :: rest) :
    (readMembers readItem before input).Reads (insertMember member.1 member.2 before) rest := by
  obtain ⟨reading, found, sameMember, sameRest⟩ := read
  subst sameMember sameRest
  rw [readMembers, found]
  dsimp only
  split
  · rename_i nothing
    rw [closed] at nothing
    cases nothing
  · rename_i next others view
    obtain ⟨isBrace, isRest⟩ := List.cons.inj (closed.symm.trans view)
    subst isBrace isRest
    rw [if_pos rfl]
    exact (Outcome.reads_stay _ _).widen _

theorem readMembers_more (read : (readMember readItem input).Reads member (',' :: rest))
    (more : ∃ first others, skipBlanks rest = first :: others ∧ first ≠ '\x7d')
    (later : (readMembers readItem (insertMember member.1 member.2 before) rest).Reads members last) :
    (readMembers readItem before input).Reads members last := by
  obtain ⟨first, others, following, noBrace⟩ := more
  obtain ⟨reading, found, sameMember, sameRest⟩ := read
  have behind : skipBlanks reading.rest = ',' :: rest := by rw [sameRest, skipBlanks_cons rfl]
  subst sameMember
  rw [readMembers, found]
  dsimp only
  split
  · rename_i nothing
    rw [behind] at nothing
    cases nothing
  · rename_i next others view
    obtain ⟨isComma, isRest⟩ := List.cons.inj (behind.symm.trans view)
    subst isComma isRest
    rw [if_neg (by decide), if_pos rfl, following]
    dsimp only
    rw [if_neg noBrace]
    exact later.widen _

end

theorem readMembers_reads {readItem : Reader Json} {between closing blanks : List Char} {written : Json → List Char}
    {before : List (String × Json)} {first : String × Json} {others : List (String × Json)}
    (each : ∀ member ∈ first :: others, ReadsBack readItem (written member.2) member.2)
    (distinct : ((before ++ first :: others).map Prod.fst).Nodup)
    (blankBetween : ∀ letter ∈ between, isBlank letter = true) (blankClosing : ∀ letter ∈ closing, isBlank letter = true)
    (blank : ∀ letter ∈ blanks, isBlank letter = true) (rest : List Char) :
    (readMembers readItem before
      (blanks ++ (writtenMember written first ++
        (continued between (writtenMember written) others ++ (closing ++ '\x7d' :: rest))))).Reads
          (before ++ first :: others) rest := by
  induction others generalizing before first blanks with
  | nil =>
      have ends : Ends (closing ++ '\x7d' :: rest) := ends_blanks blankClosing (ends_mark (by decide) rest)
      have closed : skipBlanks (closing ++ '\x7d' :: rest) = '\x7d' :: rest := by
        rw [skipBlanks_append blankClosing, skipBlanks_cons rfl]
      have readsFirst := readMember_readsBack (each first List.mem_cons_self)
      rw [← insertMember_of_nodup distinct]
      exact readMembers_last (readsFirst blanks _ blank ends) closed
  | cons second others ih =>
      obtain ⟨readsFirst, eachOther⟩ := List.forall_mem_cons.1 each
      have comma : continued between (writtenMember written) (second :: others) ++ (closing ++ '\x7d' :: rest) =
          ',' :: (between ++ (writtenMember written second ++
            (continued between (writtenMember written) others ++ (closing ++ '\x7d' :: rest)))) := by
        simp only [continued, List.flatMap_cons, List.cons_append, List.append_assoc]
      rw [comma]
      have ends : Ends (',' :: (between ++ (writtenMember written second ++
          (continued between (writtenMember written) others ++ (closing ++ '\x7d' :: rest))))) :=
        ends_mark (by decide) _
      obtain ⟨letter, letters, following, _noBracket, noBrace⟩ :=
        (opens_writtenMember written second).skipBlanks_eq blankBetween
          (continued between (writtenMember written) others ++ (closing ++ '\x7d' :: rest))
      have whole : before ++ first :: second :: others = (before ++ [first]) ++ second :: others := by
        rw [List.append_assoc, List.singleton_append]
      have read := readMember_readsBack readsFirst blanks _ blank ends
      refine readMembers_more read ⟨letter, letters, following, noBrace⟩ ?_
      rw [insertMember_of_nodup distinct]
      rw [whole] at distinct ⊢
      exact ih eachOther distinct blankBetween

/-! ### Values -/

theorem toList_bracketed {α : Type} (opening closing : String) (depth : Nat) (piece : α → String) (first : α)
    (others : List α) :
    (bracketed opening closing depth ((first :: others).map piece)).toList =
      opening.toList ++ ((lineStart (depth + 1)).toList ++ ((piece first).toList ++
        (continued (lineStart (depth + 1)).toList (fun item => (piece item).toList) others ++
          ((lineStart depth).toList ++ closing.toList)))) := by
  have comma : (",".toList : List Char) = [','] := rfl
  rw [bracketed, if_neg (by simp)]
  simp only [String.toList_append, String.toList_intercalate, List.map_cons, intercalate_cons_eq, continued,
    List.flatMap_map, List.map_map, List.append_assoc, comma, List.cons_append, List.nil_append,
    Function.comp_apply]

theorem indentedItems_eq (depth : Nat) (items : List Json) : indentedItems depth items = items.map (indented depth) := by
  induction items with
  | nil => rfl
  | cons item items ih => rw [indentedItems, ih, List.map_cons]

theorem indentedMembers_eq (depth : Nat) (members : List (String × Json)) :
    indentedMembers depth members = members.map fun member => quoted member.1 ++ ": " ++ indented depth member.2 := by
  induction members with
  | nil => rfl
  | cons member members ih =>
      obtain ⟨key, value⟩ := member
      rw [indentedMembers, ih, List.map_cons]

def printed (depth : Nat) (value : Json) : List Char := (indented depth value).toList

def beginsScalar (letter : Char) : Bool :=
  !(isBlank letter || letter == '[' || letter == ']' || letter == '\x7b' || letter == '\x7d')

theorem beginsScalar_of_isDigit {letter : Char} (digit : isDigit letter = true) : beginsScalar letter = true := by
  cases begins : beginsScalar letter with
  | true => rfl
  | false =>
      simp only [beginsScalar, isBlank, Bool.not_eq_false', Bool.or_eq_true, beq_iff_eq] at begins
      rcases begins with (((((((same | same) | same) | same) | same) | same) | same) | same) <;>
        rw [same] at digit <;> exact absurd digit (by decide)

theorem readWord_append (word rest : List Char) : (readWord word (word ++ rest)).Reads () rest := by
  induction word with
  | nil => exact Outcome.reads_stay _ _
  | cons letter word ih =>
      rw [List.cons_append, readWord, if_pos rfl]
      exact ih.after _

/-- Whether a value is read behind what was written of others, and what was written can be told from the end of a
bracket. -/
def ReadsBackAt (depth : Nat) (written : List Char) (value : Json) : Prop :=
  ReadsBack (readValue depth) written value ∧ Opens written

theorem readsBackAt_scalar {first : Char} (begins : beginsScalar first = true) {letters : List Char} {value : Json}
    (reads : ∀ rest, Ends rest → (readScalar first (letters ++ rest)).Reads value rest) (depth : Nat) :
    ReadsBackAt depth (first :: letters) value := by
  simp only [beginsScalar, Bool.not_eq_true', Bool.or_eq_false_iff, beq_eq_false_iff_ne] at begins
  obtain ⟨⟨⟨⟨shown, noArray⟩, noArrayEnd⟩, noObject⟩, noObjectEnd⟩ := begins
  refine ⟨fun blanks rest blank ends => ?_, first, letters, rfl, shown, noArrayEnd, noObjectEnd⟩
  have opened : skipBlanks (blanks ++ (first :: letters ++ rest)) = first :: (letters ++ rest) := by
    rw [skipBlanks_append blank, List.cons_append, skipBlanks_cons shown]
  unfold readValue
  split
  · rename_i nothing
    rw [opened] at nothing
    cases nothing
  · rename_i letter others view
    obtain ⟨isFirst, isRest⟩ := List.cons.inj (opened.symm.trans view)
    subst isFirst isRest
    rw [if_neg (not_or.2 ⟨noArray, noObject⟩)]
    exact (reads rest ends).widen _

theorem readsBackAt_word {word : List Char} {value : Json} {first : Char} (begins : beginsScalar first = true)
    (named : ∀ rest, readScalar first rest = ((readWord word rest).change fun _ => value).after first) (depth : Nat) :
    ReadsBackAt depth (first :: word) value := by
  refine readsBackAt_scalar begins (fun rest _ends => ?_) depth
  rw [named]
  exact ((readWord_append word rest).change fun _ => value).after first

theorem readsBackAt_string (text : String) (depth : Nat) : ReadsBackAt depth (quoted text).toList (.string text) := by
  rw [toList_quoted]
  refine readsBackAt_scalar rfl (fun rest _ends => ?_) depth
  rw [List.append_assoc, List.singleton_append]
  exact ((readString_quoted text rest).change Json.string).after '"'

theorem exists_toDigits (negative : Bool) {count : Nat} {value : JsonNumber} (within : count ≤ greatestWord)
    (whole : ∀ rest, wholeNumber negative count rest = .ok value) :
    ∃ first digits, Nat.toDigits 10 count = first :: digits ∧ isDigit first = true ∧
      ∀ rest, Ends rest → (readNumber negative (first :: (digits ++ rest))).Reads value rest := by
  have all := isDigit_of_mem_toDigits count
  cases written : Nat.toDigits 10 count with
  | nil => exact absurd written Nat.toDigits_ne_nil
  | cons first digits =>
      rw [written] at all
      refine ⟨first, digits, rfl, all first List.mem_cons_self, fun rest ends => ?_⟩
      rw [← List.cons_append, ← written]
      exact readNumber_toDigits within ends whole

theorem readScalar_digit {first : Char} (digit : isDigit first = true) (rest : List Char) :
    readScalar first rest = (readNumber false (first :: rest)).change .number := by
  have apart : ∀ letter, isDigit letter = false → first ≠ letter := by
    intro letter noDigit same
    rw [same, noDigit] at digit
    cases digit
  rw [readScalar, if_neg (apart 'n' rfl), if_neg (apart 't' rfl), if_neg (apart 'f' rfl), if_neg (apart '"' rfl),
    if_neg (apart '-' rfl), if_pos digit]

theorem readsBackAt_number {value : Int} (fits : FitsWord value) (depth : Nat) :
    ReadsBackAt depth (Int.repr value).toList (.number (.integer value)) := by
  obtain ⟨least, most⟩ := fits
  cases value with
  | ofNat count =>
      have within : count ≤ greatestWord := Int.ofNat_le.1 most
      obtain ⟨first, digits, written, digit, read⟩ := exists_toDigits false within fun _rest => rfl
      rw [Int.repr, Nat.toList_repr, written]
      refine readsBackAt_scalar (beginsScalar_of_isDigit digit) (fun rest ends => ?_) depth
      rw [readScalar_digit digit]
      exact (read rest ends).change Json.number
  | negSucc below =>
      have within : below + 1 ≤ Nat.pow 2 63 := Int.ofNat_le.1 (Int.neg_le_neg_iff.1 least)
      have whole : ∀ rest, wholeNumber true (below + 1) rest = .ok (.integer (.negSucc below)) := by
        intro rest
        have small : ¬(below + 1 = 0 ∨ below + 1 > Nat.pow 2 63) :=
          not_or.2 ⟨Nat.succ_ne_zero below, Nat.not_lt.2 within⟩
        rw [wholeNumber, if_neg (by decide), if_neg small]
        rfl
      obtain ⟨first, digits, written, _digit, read⟩ :=
        exists_toDigits true (Nat.le_trans within (by decide)) whole
      have sign : ("-" : String).toList = ['-'] := rfl
      rw [Int.repr, String.toList_append, Nat.toList_repr, written, sign, List.singleton_append]
      refine readsBackAt_scalar rfl (fun rest ends => ?_) depth
      exact ((read rest ends).change Json.number).after '-'

theorem readsBackAt_bracket {mark : Char} (opening : mark = '[' ∨ mark = '\x7b') {inside : List Char} {value : Json}
    {inner : Nat} (reads : ∀ rest, (if mark = '[' then readArray (readValue inner) (inside ++ rest)
      else readObject (readValue inner) (inside ++ rest)).Reads value rest) :
    ReadsBackAt (inner + 1) (mark :: inside) value := by
  have shown : isBlank mark = false := by rcases opening with same | same <;> rw [same] <;> rfl
  have noClosing : mark ≠ ']' ∧ mark ≠ '\x7d' := by rcases opening with same | same <;> rw [same] <;> decide
  refine ⟨fun blanks rest blank _ends => ?_, mark, inside, rfl, shown, noClosing.1, noClosing.2⟩
  have opened : skipBlanks (blanks ++ (mark :: inside ++ rest)) = mark :: (inside ++ rest) := by
    rw [skipBlanks_append blank, List.cons_append, skipBlanks_cons shown]
  unfold readValue
  split
  · rename_i nothing
    rw [opened] at nothing
    cases nothing
  · rename_i first others view
    obtain ⟨isMark, isRest⟩ := List.cons.inj (opened.symm.trans view)
    subst isMark isRest
    rw [if_pos opening]
    exact (reads rest).widen _

theorem readArray_empty (readItem : Reader Json) (rest : List Char) :
    (readArray readItem (']' :: rest)).Reads (.array []) rest := by
  unfold readArray
  split
  · rename_i nothing
    rw [skipBlanks_cons rfl] at nothing
    cases nothing
  · rename_i next others view
    rw [skipBlanks_cons rfl] at view
    obtain ⟨isBracket, isRest⟩ := List.cons.inj view
    subst isBracket isRest
    rw [if_pos rfl]
    exact (Outcome.reads_stay _ _).widen _

theorem readArray_items {readItem : Reader Json} {input rest : List Char} {items : List Json}
    (filled : ∃ first others, skipBlanks input = first :: others ∧ first ≠ ']')
    (reads : (readItems readItem input).Reads items rest) : (readArray readItem input).Reads (.array items) rest := by
  obtain ⟨first, others, following, noBracket⟩ := filled
  unfold readArray
  split
  · rename_i nothing
    rw [following] at nothing
    cases nothing
  · rename_i next others view
    obtain ⟨isFirst, _isRest⟩ := List.cons.inj (following.symm.trans view)
    subst isFirst
    rw [if_neg noBracket]
    exact reads.change Json.array

theorem readObject_empty (readItem : Reader Json) (rest : List Char) :
    (readObject readItem ('\x7d' :: rest)).Reads (.object []) rest := by
  unfold readObject
  split
  · rename_i nothing
    rw [skipBlanks_cons rfl] at nothing
    cases nothing
  · rename_i next others view
    rw [skipBlanks_cons rfl] at view
    obtain ⟨isBrace, isRest⟩ := List.cons.inj view
    subst isBrace isRest
    rw [if_pos rfl]
    exact (Outcome.reads_stay _ _).widen _

theorem readObject_members {readItem : Reader Json} {input rest : List Char} {members : List (String × Json)}
    (filled : ∃ first others, skipBlanks input = first :: others ∧ first ≠ '\x7d')
    (reads : (readMembers readItem [] input).Reads members rest) :
    (readObject readItem input).Reads (.object members) rest := by
  obtain ⟨first, others, following, noBrace⟩ := filled
  unfold readObject
  split
  · rename_i nothing
    rw [following] at nothing
    cases nothing
  · rename_i next others view
    obtain ⟨isFirst, _isRest⟩ := List.cons.inj (following.symm.trans view)
    subst isFirst
    rw [if_neg noBrace]
    exact reads.change Json.object

theorem readsBackAt_array {inner depth : Nat} {items : List Json}
    (each : ∀ item ∈ items, ReadsBackAt inner (printed (depth + 1) item) item) :
    ReadsBackAt (inner + 1) (printed depth (.array items)) (.array items) := by
  rw [printed, indented, indentedItems_eq]
  cases items with
  | nil =>
      have written : (bracketed "[" "]" depth ([].map (indented (depth + 1)))).toList = '[' :: [']'] := by
        rw [List.map_nil, bracketed, if_pos List.isEmpty_nil]
        rfl
      rw [written]
      refine readsBackAt_bracket (Or.inl rfl) fun rest => ?_
      rw [if_pos rfl]
      exact readArray_empty _ rest
  | cons first others =>
      have opening : ("[" : String).toList = ['['] := rfl
      have closing : ("]" : String).toList = [']'] := rfl
      rw [toList_bracketed, opening, closing, List.singleton_append]
      refine readsBackAt_bracket (Or.inl rfl) fun rest => ?_
      rw [if_pos rfl]
      rw [List.append_assoc, List.append_assoc, List.append_assoc, List.append_assoc, List.singleton_append]
      obtain ⟨letter, letters, following, noBracket, _noBrace⟩ :=
        (each first List.mem_cons_self).2.skipBlanks_eq (lineStart_blank (depth + 1)) _
      exact readArray_items ⟨letter, letters, following, noBracket⟩
        (readItems_reads each (lineStart_blank _) (lineStart_blank _) (lineStart_blank _) rest)

theorem readsBackAt_object {inner depth : Nat} {members : List (String × Json)}
    (distinct : (members.map Prod.fst).Nodup)
    (each : ∀ member ∈ members, ReadsBackAt inner (printed (depth + 1) member.2) member.2) :
    ReadsBackAt (inner + 1) (printed depth (.object members)) (.object members) := by
  rw [printed, indented, indentedMembers_eq]
  cases members with
  | nil =>
      have written : (bracketed "\x7b" "\x7d" depth (([] : List (String × Json)).map fun member =>
          quoted member.1 ++ ": " ++ indented (depth + 1) member.2)).toList = '\x7b' :: ['\x7d'] := by
        rw [List.map_nil, bracketed, if_pos List.isEmpty_nil]
        rfl
      rw [written]
      refine readsBackAt_bracket (Or.inr rfl) fun rest => ?_
      rw [if_neg (by decide)]
      exact readObject_empty _ rest
  | cons first others =>
      have opening : ("\x7b" : String).toList = ['\x7b'] := rfl
      have closing : ("\x7d" : String).toList = ['\x7d'] := rfl
      have member : ∀ member : String × Json, (quoted member.1 ++ ": " ++ indented (depth + 1) member.2).toList =
          writtenMember (printed (depth + 1)) member := by
        intro member
        rw [String.toList_append, String.toList_append, List.append_assoc, writtenMember, printed]
        rfl
      rw [toList_bracketed, opening, closing, List.singleton_append]
      simp only [member]
      refine readsBackAt_bracket (Or.inr rfl) fun rest => ?_
      rw [if_neg (by decide)]
      rw [List.append_assoc, List.append_assoc, List.append_assoc, List.append_assoc, List.singleton_append]
      obtain ⟨letter, letters, following, _noBracket, noBrace⟩ :=
        (opens_writtenMember (printed (depth + 1)) first).skipBlanks_eq (lineStart_blank (depth + 1)) _
      exact readObject_members ⟨letter, letters, following, noBrace⟩
        (readMembers_reads (fun member inMembers => (each member inMembers).1) distinct (lineStart_blank _)
          (lineStart_blank _) (lineStart_blank _) rest)

theorem readsBackAt_printed {limit : Nat} {value : Json} (plain : Plain limit value) (depth : Nat) :
    ReadsBackAt limit (printed depth value) value := by
  induction plain generalizing depth with
  | null =>
      rw [printed, indented]
      exact readsBackAt_word rfl (fun _rest => rfl) _
  | bool _ value =>
      rw [printed, indented]
      cases value with
      | false => exact readsBackAt_word rfl (fun _rest => rfl) _
      | true => exact readsBackAt_word rfl (fun _rest => rfl) _
  | string _ text =>
      rw [printed, indented]
      exact readsBackAt_string text _
  | number _ fits =>
      rw [printed, indented]
      exact readsBackAt_number fits _
  | array _each ih => exact readsBackAt_array fun item member => ih item member _
  | object distinct _each ih => exact readsBackAt_object distinct fun member inMembers => ih member inMembers _

/-- A plain value is read from its indented text, also if blanks follow. -/
theorem parse_indented {value : Json} (plain : Plain greatestDepth value) (depth : Nat) {blanks : String}
    (blank : ∀ letter ∈ blanks.toList, isBlank letter = true) : parse (value.indented depth ++ blanks) = .ok value := by
  have ends : Ends blanks.toList := by
    have nothing : Ends [] := fun _next => nofun
    have behind := ends_blanks blank nothing
    rwa [List.append_nil] at behind
  obtain ⟨reading, found, sameValue, sameRest⟩ :=
    (readsBackAt_printed plain depth).1 [] blanks.toList (fun _letter => nofun) ends
  have nothingLeft : skipBlanks blanks.toList = [] := by
    rw [← List.append_nil blanks.toList, skipBlanks_append blank]
    rfl
  have whole : (value.indented depth ++ blanks).toList = [] ++ (printed depth value ++ blanks.toList) := by
    rw [String.toList_append, List.nil_append, printed]
  rw [parse, readDocument, whole, found]
  dsimp only
  rw [sameRest, nothingLeft, sameValue]

end Listfile.Json
