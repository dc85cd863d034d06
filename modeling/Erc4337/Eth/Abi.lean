import Erc4337.Eth.Address
import Erc4337.Eth.Hash
/-!
The contract ABI: values are laid out as 32-byte words, static values in place and dynamic
values (byte strings, strings, arrays, tuples holding one) behind an offset in the head, with
their bodies after all heads. Integers are taken modulo 2^256, so a negative one is written
in two's complement. Reading back covers the shapes the bundler meets: words, byte strings and
strings behind an offset, with the bounds checks and failure texts of the standard decoder.
-/
namespace Erc4337

inductive AbiValue where
  | uint (n : Int)
  | address (a : Address)
  | bytes32 (b : List UInt8)
  | bytes (b : List UInt8)
  | string (s : String)
  | tuple (items : List AbiValue)
  | array (items : List AbiValue)

namespace Abi

def word (n : Int) : List UInt8 := Hex.natBytes 32 (n % 2 ^ 256).toNat

def padRight (b : List UInt8) : List UInt8 :=
  b ++ List.replicate ((32 - b.length % 32) % 32) 0

def assemble (parts : List (Bool × List UInt8)) : List UInt8 :=
  let headSize := parts.foldl (fun n p => n + if p.1 then 32 else p.2.length) 0
  let step := fun (acc : List UInt8 × List UInt8 × Nat) (p : Bool × List UInt8) =>
    let (heads, tails, off) := acc
    if p.1 then (heads ++ word off, tails ++ p.2, off + p.2.length) else (heads ++ p.2, tails, off)
  let (heads, tails, _) := parts.foldl step ([], [], headSize)
  heads ++ tails

end Abi

namespace AbiValue

mutual
def isDynamic : AbiValue → Bool
  | .bytes _ | .string _ | .array _ => true
  | .tuple items => anyDynamic items
  | _ => false

def anyDynamic : List AbiValue → Bool
  | [] => false
  | v :: vs => v.isDynamic || anyDynamic vs
end

mutual
def encode : AbiValue → List UInt8
  | .uint n => Abi.word n
  | .address a => Abi.word a.toNat
  | .bytes32 b => (b ++ List.replicate 32 0).take 32
  | .bytes b => Abi.word b.length ++ Abi.padRight b
  | .string s => Abi.word s.utf8ByteSize ++ Abi.padRight s.toUTF8.toList
  | .tuple items => Abi.assemble (encodeEach items)
  | .array items => Abi.word items.length ++ Abi.assemble (encodeEach items)

def encodeEach : List AbiValue → List (Bool × List UInt8)
  | [] => []
  | v :: vs => (v.isDynamic, encode v) :: encodeEach vs
end

end AbiValue

namespace Abi

def selector (signature : String) : List UInt8 := (Keccak.hash signature.toUTF8).toList.take 4

def call (signature : String) (args : List AbiValue) : List UInt8 :=
  selector signature ++ (AbiValue.tuple args).encode

def wordAt? (data : List UInt8) (index : Nat) : Option Nat :=
  if index + 32 ≤ data.length then some (Hex.bytesNat ((data.drop index).take 32)) else none

def dynamicAt? (data : List UInt8) (index : Nat) : Option (List UInt8) := do
  let off ← wordAt? data index
  let offEnd := off + 32
  if offEnd > data.length then none
  else
    let len ← wordAt? data off
    if offEnd + len > data.length then none
    else some ((data.drop offEnd).take len)

end Abi

end Erc4337
