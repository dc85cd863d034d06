import Erc4337.Arith
/-!
Lossy UTF-8 decoding: well-formed sequences become their characters and every byte that does
not start one becomes U+FFFD on its own, so that bytes from a contract can be shown as text.
-/
namespace Erc4337.Utf8

def firstByte (c : Char) : Nat :=
  let n := c.toNat
  if n < 0x80 then n
  else if n < 0x800 then 0xc0 + n / 64
  else if n < 0x10000 then 0xe0 + n / 4096
  else 0xf0 + n / 262144

def isCont (b : UInt8) : Bool := 0x80 ≤ b && b ≤ 0xbf

def decodeOne : List UInt8 → Option (Char × List UInt8)
  | a :: rest =>
    if a < 0x80 then some (Char.ofNat a.toNat, rest)
    else if 0xc2 ≤ a && a ≤ 0xdf then
      match rest with
      | b :: r => if isCont b then some (Char.ofNat ((a.toNat - 0xc0) * 64 + (b.toNat - 0x80)), r) else none
      | [] => none
    else if 0xe0 ≤ a && a ≤ 0xef then
      let lo : UInt8 := if a = 0xe0 then 0xa0 else 0x80
      let hi : UInt8 := if a = 0xed then 0x9f else 0xbf
      match rest with
      | b :: c :: r =>
        if lo ≤ b && b ≤ hi && isCont c then
          some (Char.ofNat ((a.toNat - 0xe0) * 4096 + (b.toNat - 0x80) * 64 + (c.toNat - 0x80)), r)
        else none
      | _ => none
    else if 0xf0 ≤ a && a ≤ 0xf4 then
      let lo : UInt8 := if a = 0xf0 then 0x90 else 0x80
      let hi : UInt8 := if a = 0xf4 then 0x8f else 0xbf
      match rest with
      | b :: c :: d :: r =>
        if lo ≤ b && b ≤ hi && isCont c && isCont d then
          some (Char.ofNat ((a.toNat - 0xf0) * 262144 + (b.toNat - 0x80) * 4096 +
            (c.toNat - 0x80) * 64 + (d.toNat - 0x80)), r)
        else none
      | _ => none
    else none
  | [] => none

theorem decodeOneShortens {bs r : List UInt8} {c : Char} (h : decodeOne bs = some (c, r)) :
    r.length < bs.length := by
  unfold decodeOne at h
  repeat' split at h
  all_goals simp_all
  all_goals omega

def decodeChars : List UInt8 → List Char
  | [] => []
  | b :: rest =>
    match h : decodeOne (b :: rest) with
    | some (c, r) =>
      have : r.length < (b :: rest).length := decodeOneShortens h
      c :: decodeChars r
    | none => Char.ofNat 0xfffd :: decodeChars rest
termination_by bs => bs.length
decreasing_by
  all_goals (try simp only [List.length_cons] at *)
  all_goals omega

def decodeLossy (b : List UInt8) : String := String.ofList (decodeChars b)

end Erc4337.Utf8
