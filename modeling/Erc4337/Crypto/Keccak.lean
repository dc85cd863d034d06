import Erc4337.Arith
/-!
Keccak-256, the hash of Ethereum: the Keccak-f[1600] permutation over a sponge of rate 136
bytes, with the original Keccak padding (a 0x01 byte, zeros, and 0x80 on the last byte of the
block). The state is 25 lanes of 64 bits; lane `x + 5 * y` holds eight input bytes,
least significant first.
-/
namespace Erc4337.Keccak

def roundConstants : List UInt64 :=
  [0x0000000000000001, 0x0000000000008082, 0x800000000000808A, 0x8000000080008000,
   0x000000000000808B, 0x0000000080000001, 0x8000000080008081, 0x8000000000008009,
   0x000000000000008A, 0x0000000000000088, 0x0000000080008009, 0x000000008000000A,
   0x000000008000808B, 0x800000000000008B, 0x8000000000008089, 0x8000000000008003,
   0x8000000000008002, 0x8000000000000080, 0x000000000000800A, 0x800000008000000A,
   0x8000000080008081, 0x8000000000008080, 0x0000000080000001, 0x8000000080008008]

def rotations : Array UInt64 :=
  #[0, 1, 62, 28, 27,
    36, 44, 6, 55, 20,
    3, 10, 43, 25, 39,
    41, 45, 15, 21, 8,
    18, 2, 61, 56, 14]

abbrev State := Array UInt64

def lane (a : State) (x y : Nat) : UInt64 := a.getD (x % 5 + 5 * (y % 5)) 0

def rotl (v r : UInt64) : UInt64 := (v <<< r) ||| (v >>> (64 - r))

def theta (a : State) : State :=
  let col := fun x => lane a x 0 ^^^ lane a x 1 ^^^ lane a x 2 ^^^ lane a x 3 ^^^ lane a x 4
  Array.ofFn (n := 25) fun i =>
    let x := i.val % 5
    a.getD i.val 0 ^^^ col ((x + 4) % 5) ^^^ rotl (col ((x + 1) % 5)) 1

def rhoPi (a : State) : State :=
  Array.ofFn (n := 25) fun i =>
    let X := i.val % 5
    let Y := i.val / 5
    let x := 3 * (Y + 2 * X) % 5
    rotl (lane a x X) (rotations.getD (x + 5 * X) 0)

def chi (a : State) : State :=
  Array.ofFn (n := 25) fun i =>
    let x := i.val % 5
    let y := i.val / 5
    lane a x y ^^^ (~~~ lane a (x + 1) y &&& lane a (x + 2) y)

def iota (rc : UInt64) (a : State) : State :=
  a.modify 0 (· ^^^ rc)

def round (a : State) (rc : UInt64) : State := iota rc (chi (rhoPi (theta a)))

def permute (a : State) : State := roundConstants.foldl round a

def rate : Nat := 136

def laneOf (bs : List UInt8) : UInt64 :=
  bs.foldr (fun b acc => (acc <<< 8) ||| b.toUInt64) 0

def absorbBlock (a : State) (block : List UInt8) : State :=
  Array.ofFn (n := 25) fun i =>
    a.getD i.val 0 ^^^ laneOf ((block.drop (8 * i.val)).take 8)

def pad (msg : List UInt8) : List UInt8 :=
  let k := rate - 1 - msg.length % rate
  if k = 0 then msg ++ [0x81]
  else msg ++ [0x01] ++ List.replicate (k - 1) 0 ++ [0x80]

def blocks (msg : List UInt8) : List (List UInt8) :=
  (List.range (msg.length / rate)).map fun j => (msg.drop (rate * j)).take rate

def absorb (msg : List UInt8) : State :=
  (blocks (pad msg)).foldl (fun a b => permute (absorbBlock a b)) (Array.replicate 25 0)

def laneBytes (v : UInt64) : List UInt8 :=
  (List.range 8).map fun k => (v >>> (8 * k).toUInt64).toUInt8

def hash (msg : ByteArray) : ByteArray :=
  let a := absorb msg.toList
  ((List.range 4).flatMap fun i => laneBytes (a.getD i 0)).toByteArray

theorem padFillsBlocks (msg : List UInt8) : (pad msg).length % rate = 0 := by
  unfold pad rate
  simp only []
  split <;> simp <;> omega

end Erc4337.Keccak
