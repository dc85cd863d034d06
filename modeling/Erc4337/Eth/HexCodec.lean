import Erc4337.Text.Hex
/-!
The hex text of JSON-RPC: quantities are `0x` and digits without leading zeros, data is `0x`
and an even number of digits. Readers work on the UTF-8 bytes of the text, so lengths count
bytes. An empty text reads as zero or as no bytes. Each refusal is one `HexError`, and its
message is the one clients of the Ethereum JSON-RPC know.
-/
namespace Erc4337

inductive HexError where
  | empty
  | badDigit
  | missingPrefix
  | oddLength
  | emptyNumber
  | leadingZero
  | above64Bits
  | above256Bits
  | wrongLength (digits want : Nat) (typeName : String)
  deriving DecidableEq, Inhabited

namespace HexError

def message : HexError → String
  | .empty => "empty hex string"
  | .badDigit => "invalid hex string"
  | .missingPrefix => "hex string without 0x prefix"
  | .oddLength => "hex string of odd length"
  | .emptyNumber => "hex string \"0x\""
  | .leadingZero => "hex number with leading zero digits"
  | .above64Bits => "hex number > 64 bits"
  | .above256Bits => "hex number > 256 bits"
  | .wrongLength d w t => s!"hex string has length {d}, want {w} for " ++ t

def isDecodeKind : HexError → Bool
  | .wrongLength .. => false
  | _ => true

end HexError

namespace HexCodec

def nibble? (b : UInt8) : Option Nat :=
  if 48 ≤ b ∧ b ≤ 57 then some (b.toNat - 48)
  else if 97 ≤ b ∧ b ≤ 102 then some (b.toNat - 87)
  else if 65 ≤ b ∧ b ≤ 70 then some (b.toNat - 55)
  else none

def stripPrefix? : List UInt8 → Option (List UInt8)
  | 48 :: 120 :: r => some r
  | 48 :: 88 :: r => some r
  | _ => none

def digitsValue (ds : List UInt8) : Except HexError Nat :=
  ds.foldlM (fun acc b => match nibble? b with
    | some v => .ok (acc * 16 + v)
    | none => .error .badDigit) 0

def pairs : List UInt8 → Except HexError (List UInt8)
  | a :: b :: rest =>
    match nibble? a, nibble? b with
    | some x, some y => (fun t => (x * 16 + y).toUInt8 :: t) <$> pairs rest
    | _, _ => .error .badDigit
  | [_] => .error .oddLength
  | [] => .ok []

def numberDigits (bs : List UInt8) : Except HexError (List UInt8) :=
  if bs.isEmpty then .ok []
  else
    match stripPrefix? bs with
    | none => .error .missingPrefix
    | some [] => .error .emptyNumber
    | some ds@(48 :: _ :: _) => let _ := ds; .error .leadingZero
    | some ds => .ok ds

def quantity (s : String) : Except HexError Nat := do
  let ds ← numberDigits s.toUTF8.toList
  if ds.length > 64 then throw .above256Bits
  digitsValue ds

def quantity64 (s : String) : Except HexError Nat := do
  let ds ← numberDigits s.toUTF8.toList
  if ds.length > 16 then throw .above64Bits
  digitsValue ds

def dataDigits (bs : List UInt8) : Except HexError (List UInt8) :=
  if bs.isEmpty then .ok []
  else
    match stripPrefix? bs with
    | none => .error .missingPrefix
    | some ds => if ds.length % 2 = 1 then .error .oddLength else .ok ds

def data (s : String) : Except HexError (List UInt8) := do
  pairs (← dataDigits s.toUTF8.toList)

def fixed (typeName : String) (width : Nat) (s : String) : Except HexError (List UInt8) := do
  let ds ← dataDigits s.toUTF8.toList
  if ds.length / 2 ≠ width then throw (.wrongLength ds.length (2 * width) typeName)
  pairs ds

def decode (s : String) : Except HexError (List UInt8) := do
  let bs := s.toUTF8.toList
  if bs.isEmpty then throw .empty
  match stripPrefix? bs with
  | none => throw .missingPrefix
  | some ds =>
    match pairs ds with
    | .ok b => pure b
    | .error .oddLength =>
      -- the last single digit is still checked for a bad character
      match ds.getLast? with
      | some last => if (nibble? last).isNone then throw .badDigit else throw .oddLength
      | none => throw .oddLength
    | .error e => throw e

def ofInt (n : Int) : String :=
  if n = 0 then "0x0"
  else if n > 0 then "0x" ++ String.ofList (Hex.natDigits n.toNat)
  else "-0x" ++ String.ofList (Hex.natDigits n.natAbs)

def ofBytes (b : List UInt8) : String := "0x" ++ String.ofList (Hex.bytesDigits b)

end HexCodec

end Erc4337
