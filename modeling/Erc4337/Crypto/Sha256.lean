import Erc4337.Arith
/-!
SHA-256 (FIPS 180-4) over byte lists, and HMAC-SHA256 (RFC 2104), which deterministic
signature nonces are drawn from.
-/
namespace Erc4337.Sha256

def k : Array UInt32 := #[
  0x428a2f98, 0x71374491, 0xb5c0fbcf, 0xe9b5dba5, 0x3956c25b, 0x59f111f1, 0x923f82a4, 0xab1c5ed5,
  0xd807aa98, 0x12835b01, 0x243185be, 0x550c7dc3, 0x72be5d74, 0x80deb1fe, 0x9bdc06a7, 0xc19bf174,
  0xe49b69c1, 0xefbe4786, 0x0fc19dc6, 0x240ca1cc, 0x2de92c6f, 0x4a7484aa, 0x5cb0a9dc, 0x76f988da,
  0x983e5152, 0xa831c66d, 0xb00327c8, 0xbf597fc7, 0xc6e00bf3, 0xd5a79147, 0x06ca6351, 0x14292967,
  0x27b70a85, 0x2e1b2138, 0x4d2c6dfc, 0x53380d13, 0x650a7354, 0x766a0abb, 0x81c2c92e, 0x92722c85,
  0xa2bfe8a1, 0xa81a664b, 0xc24b8b70, 0xc76c51a3, 0xd192e819, 0xd6990624, 0xf40e3585, 0x106aa070,
  0x19a4c116, 0x1e376c08, 0x2748774c, 0x34b0bcb5, 0x391c0cb3, 0x4ed8aa4a, 0x5b9cca4f, 0x682e6ff3,
  0x748f82ee, 0x78a5636f, 0x84c87814, 0x8cc70208, 0x90befffa, 0xa4506ceb, 0xbef9a3f7, 0xc67178f2]

def initial : List UInt32 :=
  [0x6a09e667, 0xbb67ae85, 0x3c6ef372, 0xa54ff53a, 0x510e527f, 0x9b05688c, 0x1f83d9ab, 0x5be0cd19]

def rotr (x : UInt32) (n : UInt32) : UInt32 := (x >>> n) ||| (x <<< (32 - n))

def wordOf (bs : List UInt8) : UInt32 := bs.foldl (fun acc b => (acc <<< 8) ||| b.toUInt32) 0

def schedule (block : List UInt8) : Array UInt32 :=
  let w0 : Array UInt32 := Array.ofFn (n := 16) fun i => wordOf ((block.drop (4 * i.val)).take 4)
  (List.range 48).foldl (fun w i =>
    let t := i + 16
    let x := w.getD (t - 15) 0
    let y := w.getD (t - 2) 0
    let s0 := rotr x 7 ^^^ rotr x 18 ^^^ (x >>> 3)
    let s1 := rotr y 17 ^^^ rotr y 19 ^^^ (y >>> 10)
    w.push (w.getD (t - 16) 0 + s0 + w.getD (t - 7) 0 + s1)) w0

def compress (h : List UInt32) (block : List UInt8) : List UInt32 :=
  let w := schedule block
  let step := fun (st : List UInt32) (i : Nat) =>
    match st with
    | [a, b, c, d, e, f, g, hh] =>
      let s1 := rotr e 6 ^^^ rotr e 11 ^^^ rotr e 25
      let ch := (e &&& f) ^^^ (~~~ e &&& g)
      let t1 := hh + s1 + ch + k.getD i 0 + w.getD i 0
      let s0 := rotr a 2 ^^^ rotr a 13 ^^^ rotr a 22
      let maj := (a &&& b) ^^^ (a &&& c) ^^^ (b &&& c)
      [t1 + s0 + maj, a, b, c, d + t1, e, f, g]
    | other => other
  let out := (List.range 64).foldl step h
  (h.zip out).map fun (x, y) => x + y

def pad (msg : List UInt8) : List UInt8 :=
  let len := msg.length
  let zeros := (64 + 56 - (len + 1) % 64) % 64
  msg ++ [0x80] ++ List.replicate zeros 0 ++
    (List.range 8).reverse.map fun i => ((8 * len) / 256 ^ i % 256).toUInt8

def wordBytes (x : UInt32) : List UInt8 :=
  [(x >>> 24).toUInt8, (x >>> 16).toUInt8, (x >>> 8).toUInt8, x.toUInt8]

def hash (msg : List UInt8) : List UInt8 :=
  let p := pad msg
  let blocks := (List.range (p.length / 64)).map fun j => (p.drop (64 * j)).take 64
  (blocks.foldl compress initial).flatMap wordBytes

def hmac (key msg : List UInt8) : List UInt8 :=
  let key' := if key.length > 64 then hash key else key
  let block := key' ++ List.replicate (64 - key'.length) 0
  let inner := block.map (· ^^^ 0x36)
  let outer := block.map (· ^^^ 0x5c)
  hash (outer ++ hash (inner ++ msg))

end Erc4337.Sha256
