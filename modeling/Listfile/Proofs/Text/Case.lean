import Listfile.Text.Case
import Mathlib.Data.List.Nodup

set_option autoImplicit false

/-! How upper and lower case of a text relate. Names are told apart by their lower case and written in upper
case; the two agree on texts whose letters go back and forth between them, as all letters of ASCII do. They
do not agree on every text. -/

namespace Listfile.Text

theorem mapLetter_ne_nil {expansions : List (Nat × List Nat)} (filled : ∀ expansion ∈ expansions, expansion.2 ≠ [])
    (runs : List CaseRun) (letter : Char) : mapLetter expansions runs letter ≠ [] := by
  unfold mapLetter
  split
  · rename_i codes found
    obtain ⟨before, after, same, _first⟩ := List.lookup_eq_some_iff.1 found
    have member : (letter.toNat, codes) ∈ expansions := by
      rw [same]
      exact List.mem_append_right _ List.mem_cons_self
    exact fun empty => filled _ member (List.map_eq_nil_iff.1 empty)
  · split
    · exact List.cons_ne_nil _ _
    · exact List.cons_ne_nil _ _

theorem upperLetter_ne_nil (letter : Char) : upperLetter letter ≠ [] :=
  mapLetter_ne_nil (by decide) upperRuns letter

theorem capitalize_eq_empty_iff (text : String) : capitalize text = "" ↔ text = "" := by
  rw [← String.toList_eq_nil_iff (b := text), capitalize]
  cases text.toList with
  | nil => simp
  | cons first rest =>
      rw [← String.toList_eq_nil_iff]
      simp [upperLetter_ne_nil first]

/-- Whether lower case does not see if the letter was put in upper case before. What becomes of a capital sigma
depends on the letters around it, so letters that lead to one do not count. -/
def isReversible (letter : Char) : Bool :=
  decide (letter ≠ 'Σ') && decide ('Σ' ∉ upperLetter letter) &&
    decide ((upperLetter letter).flatMap lowerLetter = lowerLetter letter)

theorem isReversible_iff (letter : Char) :
    isReversible letter = true ↔
      letter ≠ 'Σ' ∧ 'Σ' ∉ upperLetter letter ∧ (upperLetter letter).flatMap lowerLetter = lowerLetter letter := by
  simp only [isReversible, Bool.and_eq_true, decide_eq_true_eq, and_assoc]

/-- Without a capital sigma, lower case works letter by letter. -/
theorem lowerAfter_eq_flatMap {letters : List Char} (noSigma : 'Σ' ∉ letters) (before : List Char) :
    lowerAfter before letters = letters.flatMap lowerLetter := by
  induction letters generalizing before with
  | nil => rfl
  | cons letter letters ih =>
      rw [List.mem_cons, not_or] at noSigma
      rw [lowerAfter, if_neg (Ne.symm noSigma.1), ih noSigma.2, List.flatMap_cons]

theorem lowercase_uppercase {text : String} (reversible : ∀ letter ∈ text.toList, isReversible letter = true) :
    lowercase (uppercase text) = lowercase text := by
  have noSigma : 'Σ' ∉ text.toList := fun member => ((isReversible_iff _).1 (reversible _ member)).1 rfl
  have noUpperSigma : 'Σ' ∉ text.toList.flatMap upperLetter := by
    intro member
    obtain ⟨letter, inText, inUpper⟩ := List.mem_flatMap.1 member
    exact ((isReversible_iff letter).1 (reversible letter inText)).2.1 inUpper
  rw [lowercase, lowercase, uppercase, String.toList_ofList, lowerAfter_eq_flatMap noSigma,
    lowerAfter_eq_flatMap noUpperSigma, List.flatMap_assoc]
  congr 1
  exact List.flatMap_congr fun letter member => ((isReversible_iff letter).1 (reversible letter member)).2.2

/-- Below all other code points of a table, only the first run counts. -/
theorem mapLetter_of_below {expansions : List (Nat × List Nat)} {runs : List CaseRun} {bound : Nat}
    (expansionsBeyond : ∀ expansion ∈ expansions, bound ≤ expansion.1) (runsBeyond : ∀ run ∈ runs, bound ≤ run.first)
    {letter : Char} (below : letter.toNat < bound) (first : CaseRun) :
    mapLetter expansions (first :: runs) letter = mapLetter [] [first] letter := by
  have noExpansion : expansions.lookup letter.toNat = none := by
    rw [List.lookup_eq_none_iff]
    intro expansion member
    have beyond := expansionsBeyond expansion member
    rw [bne_iff_ne]
    omega
  have noRun : runs.findSome? (CaseRun.image? · letter.toNat) = none := by
    rw [List.findSome?_eq_none_iff]
    intro run member
    have beyond := runsBeyond run member
    apply if_neg
    omega
  rw [mapLetter, mapLetter, noExpansion, List.findSome?_cons, List.findSome?_cons, noRun]
  rfl

theorem upperLetter_of_ascii {letter : Char} (ascii : letter.toNat < 128) :
    upperLetter letter = mapLetter [] [⟨0x61, 0x7A, 1, -32⟩] letter :=
  mapLetter_of_below (by decide +kernel) (by decide +kernel) ascii _

theorem lowerLetter_of_ascii {letter : Char} (ascii : letter.toNat < 128) :
    lowerLetter letter = mapLetter [] [⟨0x41, 0x5A, 1, 32⟩] letter :=
  mapLetter_of_below (by decide +kernel) (by decide +kernel) ascii _

theorem isReversible_of_ascii {letter : Char} (ascii : letter.toNat < 128) : isReversible letter = true := by
  have table : ∀ code < 128, Char.ofNat code ≠ 'Σ' ∧
      (mapLetter [] [⟨0x61, 0x7A, 1, -32⟩] (Char.ofNat code)).all (fun upper => decide (upper.toNat < 128)) = true ∧
      (mapLetter [] [⟨0x61, 0x7A, 1, -32⟩] (Char.ofNat code)).flatMap (mapLetter [] [⟨0x41, 0x5A, 1, 32⟩]) =
        mapLetter [] [⟨0x41, 0x5A, 1, 32⟩] (Char.ofNat code) := by decide
  have found := table letter.toNat ascii
  rw [Char.ofNat_toNat, ← upperLetter_of_ascii ascii, ← lowerLetter_of_ascii ascii, List.all_eq_true] at found
  obtain ⟨noSigma, upperBelow, same⟩ := found
  have upperAscii : ∀ upper ∈ upperLetter letter, upper.toNat < 128 :=
    fun upper member => of_decide_eq_true (upperBelow upper member)
  refine (isReversible_iff letter).2 ⟨noSigma, fun sigma => absurd (upperAscii _ sigma) (by decide), ?_⟩
  rw [← same]
  exact List.flatMap_congr fun upper member => lowerLetter_of_ascii (upperAscii upper member)

/-- Whether upper case tells apart whatever lower case tells apart. -/
def CasesAgree (texts : List String) : Prop :=
  ∀ left ∈ texts, ∀ right ∈ texts, uppercase left = uppercase right → lowercase left = lowercase right

theorem casesAgree_of_reversible {texts : List String}
    (reversible : ∀ text ∈ texts, ∀ letter ∈ text.toList, isReversible letter = true) : CasesAgree texts := by
  intro left inLeft right inRight same
  rw [← lowercase_uppercase (reversible left inLeft), ← lowercase_uppercase (reversible right inRight), same]

/-- Texts with distinct lower case have distinct upper case exactly if the cases agree. -/
theorem uppercase_nodup_iff {texts : List String} (folded : (texts.map lowercase).Nodup) :
    (texts.map uppercase).Nodup ↔ CasesAgree texts := by
  constructor
  · intro distinct left inLeft right inRight same
    rw [List.inj_on_of_nodup_map distinct inLeft inRight same]
  · intro agree
    refine (List.Nodup.of_map _ folded).map_on ?_
    intro left inLeft right inRight same
    exact List.inj_on_of_nodup_map folded inLeft inRight (agree left inLeft right inRight same)

end Listfile.Text
