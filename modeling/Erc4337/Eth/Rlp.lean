import Erc4337.Text.Hex
/-!
Recursive length prefix encoding: a byte string is written as itself when it is one byte below
0x80, otherwise after a length prefix; a list is the concatenation of its items after a length
prefix. Lengths above 55 are written as big-endian numbers after a prefix giving their size.
-/
namespace Erc4337

inductive Rlp where
  | bytes (b : List UInt8)
  | list (items : List Rlp)

namespace Rlp

def natBytes (n : Nat) : List UInt8 :=
  let width := (Hex.natDigits n).length
  if n = 0 then [] else Hex.natBytes ((width + 1) / 2) n

def nat (n : Nat) : Rlp := .bytes (natBytes n)

def header (short : Nat) (len : Nat) : List UInt8 :=
  if len ≤ 55 then [(short + len).toUInt8]
  else let lb := natBytes len; (short + 55 + lb.length).toUInt8 :: lb

mutual
def encode : Rlp → List UInt8
  | .bytes [b] => if b < 0x80 then [b] else header 0x80 1 ++ [b]
  | .bytes b => header 0x80 b.length ++ b
  | .list items => let payload := encodeAll items; header 0xc0 payload.length ++ payload

def encodeAll : List Rlp → List UInt8
  | [] => []
  | r :: rs => encode r ++ encodeAll rs
end

end Rlp

end Erc4337
