import Listfile.Generation

set_option autoImplicit false

/-! Bytes that encode a text are read back as the characters of the text: no unit of them is ill-formed. The first
byte of a character tells how many follow and within which bounds the next one lies, and the bytes of a
character keep to that. -/

namespace Listfile.PathUnit

theorem promised_two : ∀ high < 30, promised (high + 2 + 192) = some (1, 0x80, 0xBF, high + 2) := by
  decide

/-- The least second byte excludes what two bytes can hold, and the greatest one excludes surrogates. -/
theorem promised_three : ∀ high < 16, promised (high + 224) =
    some (2, if high = 0 then 0xA0 else 0x80, if high = 13 then 0x9F else 0xBF, high) := by
  decide

theorem promised_four : ∀ high < 5, promised (high + 240) =
    some (3, if high = 0 then 0x90 else 0x80, if high = 4 then 0x8F else 0xBF, high) := by
  decide

theorem ofLead_of_promised {lead : UInt8} {followers : List UInt8} {least greatest bits code : Nat}
    (many : 0x80 ≤ lead.toNat) (promise : promised lead.toNat = some (followers.length, least, greatest, bits))
    (within : ∀ rest, kept followers.length least greatest (followers ++ rest) = followers)
    (carried : followers.foldl (fun code byte => code * 64 + (byte.toNat - 0x80)) bits = code) (rest : List UInt8) :
    ofLead lead (followers ++ rest) = (.char (Char.ofNat code), followers.length) := by
  rw [ofLead, if_neg (Nat.not_lt.2 many), promise]
  dsimp only
  rw [within, if_pos rfl, carried]

theorem kept_tail {byte : UInt8} {least greatest : Nat} (above : least ≤ byte.toNat) (below : byte.toNat ≤ greatest)
    (owed : Nat) (rest : List UInt8) :
    kept (owed + 1) least greatest (byte :: rest) = byte :: kept owed 0x80 0xBF rest :=
  if_pos ⟨above, below⟩

theorem toNat_ofNat_of_lt {value : Nat} (small : value < 256) : (UInt8.ofNat value).toNat = value := by
  rw [UInt8.toNat_ofNat']
  exact Nat.mod_eq_of_lt small

def follower (code unit : Nat) : UInt8 := UInt8.ofNat (code / unit % 64 + 128)

@[simp] theorem toNat_follower (code unit : Nat) : (follower code unit).toNat = code / unit % 64 + 128 :=
  toNat_ofNat_of_lt (by omega)

theorem follower_one (code : Nat) : follower code 1 = UInt8.ofNat (code % 64 + 128) := by
  rw [follower, Nat.div_one]

theorem ofLead_two {code : Nat} (least : 0x80 ≤ code) (most : code ≤ 0x7FF) (rest : List UInt8) :
    ofLead (UInt8.ofNat (code / 64 + 192)) ([follower code 1] ++ rest) = (.char (Char.ofNat code), 1) := by
  have lead : (UInt8.ofNat (code / 64 + 192)).toNat = code / 64 + 192 := toNat_ofNat_of_lt (by omega)
  have promise : promised (code / 64 + 192) = some (1, 0x80, 0xBF, code / 64) := by
    have above : code / 64 - 2 + 2 = code / 64 := by omega
    rw [← above]
    exact promised_two (code / 64 - 2) (by omega)
  refine ofLead_of_promised (by omega) (lead ▸ promise) ?_ ?_ rest
  · intro rest
    rw [List.length_singleton, List.singleton_append, kept_tail (by simp) (by simp; omega)]
    rfl
  · simp only [List.foldl_cons, List.foldl_nil, toNat_follower]
    omega

theorem ofLead_three {code : Nat} (least : 0x800 ≤ code) (most : code ≤ 0xFFFF)
    (scalar : code < 0xD800 ∨ 0xDFFF < code) (rest : List UInt8) :
    ofLead (UInt8.ofNat (code / 4096 + 224)) ([follower code 64, follower code 1] ++ rest) =
      (.char (Char.ofNat code), 2) := by
  have lead : (UInt8.ofNat (code / 4096 + 224)).toNat = code / 4096 + 224 := toNat_ofNat_of_lt (by omega)
  refine ofLead_of_promised (by omega) (lead ▸ promised_three (code / 4096) (by omega)) ?_ ?_ rest
  · intro rest
    have second : (if code / 4096 = 0 then 0xA0 else 0x80) ≤ (follower code 64).toNat ∧
        (follower code 64).toNat ≤ if code / 4096 = 13 then 0x9F else 0xBF := by
      rw [toNat_follower]
      split <;> split <;> omega
    rw [List.length_cons, List.length_singleton, List.cons_append, List.singleton_append,
      kept_tail second.1 second.2, kept_tail (by simp) (by simp; omega)]
    rfl
  · simp only [List.foldl_cons, List.foldl_nil, toNat_follower]
    omega

theorem ofLead_four {code : Nat} (least : 0x10000 ≤ code) (most : code ≤ 0x10FFFF) (rest : List UInt8) :
    ofLead (UInt8.ofNat (code / 262144 + 240)) ([follower code 4096, follower code 64, follower code 1] ++ rest) =
      (.char (Char.ofNat code), 3) := by
  have lead : (UInt8.ofNat (code / 262144 + 240)).toNat = code / 262144 + 240 := toNat_ofNat_of_lt (by omega)
  refine ofLead_of_promised (by omega) (lead ▸ promised_four (code / 262144) (by omega)) ?_ ?_ rest
  · intro rest
    have second : (if code / 262144 = 0 then 0x90 else 0x80) ≤ (follower code 4096).toNat ∧
        (follower code 4096).toNat ≤ if code / 262144 = 4 then 0x8F else 0xBF := by
      rw [toNat_follower]
      split <;> split <;> omega
    rw [List.length_cons, List.length_cons, List.length_singleton, List.cons_append, List.cons_append,
      List.singleton_append, kept_tail second.1 second.2, kept_tail (by simp) (by simp; omega),
      kept_tail (by simp) (by simp; omega)]
    rfl
  · simp only [List.foldl_cons, List.foldl_nil, toNat_follower]
    omega

/-- What a first byte and its followers are read back as decides the first unit of all bytes. -/
theorem ofBytes_of_ofLead {lead : UInt8} {followers : List UInt8} {unit : PathUnit}
    (read : ∀ rest, ofLead lead (followers ++ rest) = (unit, followers.length)) (rest : List UInt8) :
    ofBytes (lead :: followers ++ rest) = unit :: ofBytes rest := by
  rw [List.cons_append, ofBytes, read]
  simp

theorem ofBytes_utf8EncodeChar (letter : Char) (rest : List UInt8) :
    ofBytes (String.utf8EncodeChar letter ++ rest) = .char letter :: ofBytes rest := by
  have scalar : letter.val.toNat < 0xD800 ∨ 0xDFFF < letter.val.toNat ∧ letter.val.toNat < 0x110000 := letter.valid
  have same : Char.ofNat letter.val.toNat = letter := Char.ofNat_toNat letter
  unfold String.utf8EncodeChar
  dsimp only
  generalize letter.val.toNat = code at same scalar ⊢
  rw [← same, ← follower_one]
  split
  · rename_i one
    have read : ∀ rest, ofLead (UInt8.ofNat code) ([] ++ rest) = (.char (Char.ofNat code), 0) := by
      intro rest
      rw [ofLead, toNat_ofNat_of_lt (by omega), if_pos (by omega)]
    exact ofBytes_of_ofLead read rest
  · split
    · have high : code / 64 % 32 = code / 64 := by omega
      rw [high]
      exact ofBytes_of_ofLead (ofLead_two (by omega) (by omega)) rest
    · split
      · have high : code / 4096 % 16 = code / 4096 := by omega
        rw [high]
        exact ofBytes_of_ofLead (ofLead_three (by omega) (by omega) (by omega)) rest
      · have high : code / 262144 % 8 = code / 262144 := by omega
        rw [high]
        exact ofBytes_of_ofLead (ofLead_four (by omega) (by omega)) rest

theorem ofBytes_flatMap_utf8EncodeChar (letters : List Char) :
    ofBytes (letters.flatMap String.utf8EncodeChar) = letters.map .char := by
  induction letters with
  | nil => rw [List.flatMap_nil, ofBytes, List.map_nil]
  | cons letter letters ih => rw [List.flatMap_cons, ofBytes_utf8EncodeChar, ih, List.map_cons]

end Listfile.PathUnit

namespace Listfile

theorem Name.shown_ofString (text : String) : Name.shown (Name.ofString text) = text := by
  rw [Name.shown, Name.ofString, List.map_map]
  exact (congrArg String.ofList (List.map_id _)).trans (String.ofList_toList)

theorem Name.text?_ofString (text : String) : Name.text? (Name.ofString text) = some text := by
  rw [Name.text?, if_pos, Name.shown_ofString]
  rw [Name.ofString, List.all_map]
  exact List.all_eq_true.2 fun _letter _member => rfl

theorem PathUnit.ofBytes_textBytes (text : String) : ofBytes (Script.textBytes text) = Name.ofString text :=
  ofBytes_flatMap_utf8EncodeChar text.toList

theorem Content.ofBytes_textBytes (text : String) : ofBytes (Script.textBytes text) = .text text := by
  rw [ofBytes, PathUnit.ofBytes_textBytes, Name.text?_ofString]

theorem lossyText_textBytes (text : String) : lossyText (Script.textBytes text) = text := by
  rw [lossyText, PathUnit.ofBytes_textBytes, Name.shown_ofString]

end Listfile
