import Erc4337.Text.Hex
/-!
Durations in nanoseconds, as text. A duration is written with hours, minutes and seconds
(`1h30m0s`), or below one second in the largest of ms, µs and ns that is not above it
(`500ms`, `1µs`), fractions without trailing zeros. Text is read as a sequence of decimal
numbers, each with an optional fraction and a unit among ns, us, µs, μs, ms, s, m and h, with an
optional sign in front; `0` alone is zero. Fractions are scaled with binary floating point,
and totals past 2^63 ns are refused.
-/
namespace Erc4337.Duration

def second : Nat := 1000000000

def unit? (u : String) : Option Nat :=
  if u = "ns" then some 1
  else if u = "us" ∨ u = "µs" ∨ u = "μs" then some 1000
  else if u = "ms" then some 1000000
  else if u = "s" then some second
  else if u = "m" then some (60 * second)
  else if u = "h" then some (3600 * second)
  else none

def quote (s : String) : String :=
  let body := s.toList.flatMap fun c =>
    if c.toNat ≥ 0x80 ∨ c.toNat < 0x20 then
      (String.singleton c).toUTF8.toList.flatMap fun b => '\\' :: 'x' :: Hex.byteDigits b
    else if c = '"' ∨ c = '\\' then ['\\', c]
    else [c]
  String.ofList ('"' :: body ++ ['"'])

def isDigit (c : Char) : Bool := '0' ≤ c ∧ c ≤ '9'

def leadingInt (cs : List Char) : Option (Nat × List Char) :=
  let ds := cs.takeWhile isDigit
  let v := ds.foldl (fun a c => a * 10 + (c.toNat - 48)) 0
  if v > 2 ^ 63 then none else some (v, cs.drop ds.length)

def leadingFraction (cs : List Char) : Nat × Float × List Char :=
  let ds := cs.takeWhile isDigit
  let (x, scale, _) := ds.foldl (fun (acc : Nat × Float × Bool) c =>
    let (x, scale, full) := acc
    if full then acc
    else if x > (2 ^ 63 - 1) / 10 then (x, scale, true)
    else
      let y := x * 10 + (c.toNat - 48)
      if y > 2 ^ 63 then (x, scale, true) else (y, scale * 10, false)) (0, 1, false)
  (x, scale, cs.drop ds.length)

def pieces (orig : String) : Nat → List Char → Nat → Except String Nat
  | 0, _, total => .ok total
  | fuel + 1, cs, total =>
    if cs.isEmpty then .ok total
    else
      let invalid : Except String Nat := .error ("time: invalid duration " ++ quote orig)
      match cs with
      | c :: _ =>
        if !(c = '.' ∨ isDigit c) then invalid
        else
          match leadingInt cs with
          | none => invalid
          | some (v, r1) =>
            let pre := decide (r1.length ≠ cs.length)
            let (f, scale, r2, post) := match r1 with
              | '.' :: r =>
                let (f, scale, r') := leadingFraction r
                (f, scale, r', decide (r'.length ≠ r.length))
              | _ => (0, 1, r1, false)
            if !pre ∧ !post then invalid
            else
              let u := r2.takeWhile fun c => !(c = '.' ∨ isDigit c)
              let r3 := r2.drop u.length
              if u.isEmpty then .error ("time: missing unit in duration " ++ quote orig)
              else match unit? (String.ofList u) with
                | none => .error ("time: unknown unit " ++ quote (String.ofList u) ++ " in duration " ++ quote orig)
                | some un =>
                  if v > 2 ^ 63 / un then invalid
                  else
                    let v := v * un
                    let v := if f > 0 then v + (Float.ofNat f * (Float.ofNat un / scale)).toUInt64.toNat else v
                    if v > 2 ^ 63 then invalid
                    else
                      let total := total + v
                      if total > 2 ^ 63 then invalid else pieces orig fuel r3 total
      | [] => .ok total

def parse (s : String) : Except String Int := do
  let cs := s.toList
  let (neg, body) := match cs with
    | '-' :: r => (true, r)
    | '+' :: r => (false, r)
    | r => (false, r)
  if body = ['0'] then return 0
  if body.isEmpty then throw ("time: invalid duration " ++ quote s)
  let d ← pieces s (body.length + 1) body 0
  if neg then return -(d : Int)
  if d > 2 ^ 63 - 1 then throw ("time: invalid duration " ++ quote s)
  pure d

def fracText (v prec : Nat) : String :=
  let whole := v / 10 ^ prec
  let frac := v % 10 ^ prec
  let fd := (Nat.toDigits 10 frac)
  let fd := List.replicate (prec - fd.length) '0' ++ fd
  let fd := (fd.reverse.dropWhile (· = '0')).reverse
  toString whole ++ (if frac = 0 then "" else "." ++ String.ofList fd)

def format (d : Int) : String :=
  let u := d.natAbs
  let sign := if d < 0 then "-" else ""
  if u < second then
    if u = 0 then "0s"
    else if u < 1000 then sign ++ toString u ++ "ns"
    else if u < 1000000 then sign ++ fracText u 3 ++ "µs"
    else sign ++ fracText u 6 ++ "ms"
  else
    let secs := fracText (u % (60 * second)) 9 ++ "s"
    let mins := u / (60 * second)
    if mins = 0 then sign ++ secs
    else
      let hours := mins / 60
      if hours = 0 then sign ++ toString (mins % 60) ++ "m" ++ secs
      else sign ++ toString hours ++ "h" ++ toString (mins % 60) ++ "m" ++ secs

end Erc4337.Duration
