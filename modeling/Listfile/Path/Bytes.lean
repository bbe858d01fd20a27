import Listfile.Path.Basic

set_option autoImplicit false

/-! Reading raw bytes as path units. A well-formed sequence is one character. Otherwise the longest
beginning of a well-formed sequence, or a single byte that begins none, is one ill-formed unit. -/

namespace Listfile.PathUnit

/-- What a first byte promises: how many bytes follow it, the least and greatest value of the next
one, and the part of the code point that it carries. -/
def promised (lead : Nat) : Option (Nat × Nat × Nat × Nat) :=
  if 0xC2 ≤ lead ∧ lead ≤ 0xDF then some (1, 0x80, 0xBF, lead - 0xC0)
  else if lead = 0xE0 then some (2, 0xA0, 0xBF, 0)
  else if lead = 0xED then some (2, 0x80, 0x9F, 0xD)
  else if 0xE1 ≤ lead ∧ lead ≤ 0xEF then some (2, 0x80, 0xBF, lead - 0xE0)
  else if lead = 0xF0 then some (3, 0x90, 0xBF, 0)
  else if 0xF1 ≤ lead ∧ lead ≤ 0xF3 then some (3, 0x80, 0xBF, lead - 0xF0)
  else if lead = 0xF4 then some (3, 0x80, 0x8F, 4)
  else none

def kept : Nat → Nat → Nat → List UInt8 → List UInt8
  | 0, _, _, _ => []
  | _ + 1, _, _, [] => []
  | owed + 1, least, greatest, byte :: rest =>
    if least ≤ byte.toNat ∧ byte.toNat ≤ greatest then byte :: kept owed 0x80 0xBF rest else []

/-- The first unit of some bytes, and how many of the bytes after the first it takes. -/
def ofLead (lead : UInt8) (rest : List UInt8) : PathUnit × Nat :=
  if lead.toNat < 0x80 then
    (.char (Char.ofNat lead.toNat), 0)
  else
    match promised lead.toNat with
    | none => (.invalid [lead], 0)
    | some (owed, least, greatest, bits) =>
      let followers := kept owed least greatest rest
      if followers.length = owed then
        (.char (Char.ofNat (followers.foldl (fun code byte => code * 64 + (byte.toNat - 0x80)) bits)), owed)
      else
        (.invalid (lead :: followers), followers.length)

def ofBytes : List UInt8 → List PathUnit
  | [] => []
  | lead :: rest => (ofLead lead rest).1 :: ofBytes (rest.drop (ofLead lead rest).2)
  termination_by bytes => bytes.length
  decreasing_by simp only [List.length_drop, List.length_cons]; omega

end Listfile.PathUnit

namespace Listfile.Path

def ofBytes (bytes : List UInt8) : Path := ⟨PathUnit.ofBytes bytes⟩

end Listfile.Path
