import Erc4337.Arith
/-!
Binary64 floating-point numbers as exact values. A finite value is a sign, an integer mantissa
below 2^53 and a binary exponent of at least -1074, so that every arithmetic fact about it is a
fact about natural numbers.

Reading a decimal rounds to the nearest value, ties to an even mantissa. Writing produces the
shortest decimal that reads back as the same value (the closest such decimal when there are
several), in the `%g` layout: scientific notation when the decimal exponent is below -4 or at
least 6 (at least 21 for the JSON layout), plain digits otherwise.
-/
namespace Erc4337.Float64

structure Finite where
  neg : Bool
  mant : Nat
  exp : Int
  deriving Inhabited, DecidableEq

inductive Value where
  | finite (f : Finite)
  | inf (neg : Bool)
  | nan
  deriving Inhabited

def minExp : Int := -1074

def cmpScaled (a : Nat) (ta : Int) (b : Nat) (eb : Int) : Ordering :=
  let lhs := a * 10 ^ ta.toNat * 2 ^ (-eb).toNat
  let rhs := b * 2 ^ eb.toNat * 10 ^ (-ta).toNat
  compare lhs rhs

def nearest (neg : Bool) (num den : Nat) : Value :=
  if num = 0 ∨ den = 0 then .finite ⟨neg, 0, 0⟩ else
  let s0 : Int := 52 - ((Nat.log2 num : Int) - Nat.log2 den)
  let quot := fun (s : Int) => (num * 2 ^ s.toNat) / (den * 2 ^ (-s).toNat)
  let s := if quot s0 < 2 ^ 52 then s0 + 1 else s0
  let s := if -s < minExp then -minExp else s
  let n := num * 2 ^ s.toNat
  let d := den * 2 ^ (-s).toNat
  let q := n / d
  let r := n % d
  let q := if 2 * r > d ∨ (2 * r = d ∧ q % 2 = 1) then q + 1 else q
  let (q, e) := if q = 2 ^ 53 then (2 ^ 52, -s + 1) else (q, -s)
  if e > 971 then .inf neg else .finite ⟨neg, q, e⟩

def ofDecimal (neg : Bool) (digits : Nat) (e : Int) : Value :=
  let len : Int := (toString digits).length
  if digits = 0 then .finite ⟨neg, 0, 0⟩
  else if e + len > 310 then .inf neg
  else if e + len < -330 then .finite ⟨neg, 0, 0⟩
  else if e ≥ 0 then nearest neg (digits * 10 ^ e.toNat) 1
  else nearest neg digits (10 ^ (-e).toNat)

def ofLiteral (s : String) : Value :=
  let cs := s.toList
  let (neg, cs) := match cs with
    | '-' :: rest => (true, rest)
    | '+' :: rest => (false, rest)
    | _ => (false, cs)
  let isDigit := fun (c : Char) => '0' ≤ c && c ≤ '9'
  let whole := cs.takeWhile isDigit
  let cs := cs.dropWhile isDigit
  let (frac, cs) := match cs with
    | '.' :: rest => (rest.takeWhile isDigit, rest.dropWhile isDigit)
    | _ => ([], cs)
  let expo : Int := match cs with
    | c :: rest =>
      if c = 'e' || c = 'E' then
        let (eneg, ds) := match rest with
          | '-' :: r => (true, r)
          | '+' :: r => (false, r)
          | r => (false, r)
        let v : Int := (ds.foldl (fun acc d => acc * 10 + (d.toNat - 48)) 0 : Nat)
        if eneg then -v else v
      else 0
    | [] => 0
  let digits := (whole ++ frac).foldl (fun acc d => acc * 10 + (d.toNat - 48)) 0
  ofDecimal neg digits (expo - frac.length)

def ofInt (i : Int) : Value := nearest (i < 0) i.natAbs 1

structure Decimal where
  digits : List Nat
  point : Int
  deriving Inhabited

def digitsOf (n : Nat) : List Nat := (toString n).toList.map fun c => c.toNat - 48

def shortest (f : Finite) : Decimal :=
  let m := f.mant
  let e := f.exp
  -- the interval of decimals that read back as this value, as (numerator, binary exponent)
  let (lowN, lowE) := if m = 2 ^ 52 ∧ e > minExp then (4 * m - 1, e - 2) else (2 * m - 1, e - 1)
  let (highN, highE) := (2 * m + 1, e - 1)
  let inclusive := m % 2 = 0
  let inside := fun (c : Nat) (t : Int) =>
    let lo := cmpScaled c t lowN lowE
    let hi := cmpScaled c t highN highE
    (lo = .gt ∨ (inclusive ∧ lo = .eq)) ∧ (hi = .lt ∨ (inclusive ∧ hi = .eq))
  -- the decimal exponent: 10^(point-1) ≤ v < 10^point
  let est : Int := ((Nat.log2 m : Int) + e) * 30103 / 100000 + 1
  let point := if cmpScaled 1 est m e != .gt then est + 1
    else if cmpScaled 1 (est - 1) m e == .gt then est - 1 else est
  let pick := (List.range 17).findSome? fun (i : Nat) =>
    let t : Int := point - ((i + 1 : Nat) : Int)
    let num := m * 2 ^ e.toNat * 10 ^ (-t).toNat
    let den := 2 ^ (-e).toNat * 10 ^ t.toNat
    let c := num / den
    let r := num % den
    let down := if decide (inside c t) then some (c, r) else none
    let up := if decide (inside (c + 1) t) then some (c + 1, den - r) else none
    match down, up with
    | some (a, da), some (b, db) => some (if db < da then b else a, t)
    | some (a, _), none => some (a, t)
    | none, some (b, _) => some (b, t)
    | none, none => none
  match pick with
  | some (c, t) =>
    let ds := digitsOf c
    let trimmed := (ds.reverse.dropWhile (· == 0)).reverse
    ⟨trimmed, t + ds.length⟩
  | none => ⟨digitsOf m, 0⟩

def pointOf (f : Finite) : Int :=
  let est : Int := ((Nat.log2 f.mant : Int) + f.exp) * 30103 / 100000 + 1
  if cmpScaled 1 est f.mant f.exp != .gt then est + 1
  else if cmpScaled 1 (est - 1) f.mant f.exp == .gt then est - 1 else est

def roundTo (f : Finite) (t : Int) : Decimal :=
  let num := f.mant * 2 ^ f.exp.toNat * 10 ^ (-t).toNat
  let den := 2 ^ (-f.exp).toNat * 10 ^ t.toNat
  let c := num / den
  let r := num % den
  let c := if 2 * r > den ∨ (2 * r = den ∧ c % 2 = 1) then c + 1 else c
  if c = 0 then ⟨[], 0⟩
  else
    let ds := digitsOf c
    ⟨(ds.reverse.dropWhile (· == 0)).reverse, t + ds.length⟩

def roundDigits (f : Finite) (n : Nat) : Decimal :=
  if f.mant = 0 then ⟨[], 0⟩ else roundTo f (pointOf f - n)

def digitChar (d : Nat) : Char := Char.ofNat (48 + d)

def expText (x : Int) : String :=
  let a := x.natAbs
  (if x < 0 then "-" else "+") ++ (if a < 10 then "0" else "") ++ toString a

def sciText (d : Decimal) (tight : Bool) : String :=
  let ds := d.digits.map digitChar
  let x := d.point - 1
  let mant := match ds with
    | [] => "0"
    | [c] => String.ofList [c]
    | c :: rest => String.ofList (c :: '.' :: rest)
  let ex := if tight && x < 0 && x.natAbs < 10 then "-" ++ toString x.natAbs else expText x
  mant ++ "e" ++ ex

def plainText (d : Decimal) : String :=
  let nd : Int := d.digits.length
  let at_ := fun (i : Int) => if 0 ≤ i ∧ i < nd then digitChar (d.digits.getD i.toNat 0) else '0'
  let whole := if d.point > 0 then String.ofList ((List.range d.point.toNat).map fun (i : Nat) => at_ (i : Int)) else "0"
  let places := max (nd - d.point) 0
  if places = 0 then whole
  else whole ++ "." ++ String.ofList ((List.range places.toNat).map fun (i : Nat) => at_ (d.point + (i : Int)))

def decimalOf (f : Finite) : Decimal := if f.mant = 0 then ⟨[], 1⟩ else shortest f

def text : Value → String
  | .nan => "NaN"
  | .inf neg => if neg then "-Inf" else "+Inf"
  | .finite f =>
    let d := decimalOf f
    let x := d.point - 1
    let body := if f.mant = 0 then "0" else if x < -4 ∨ x ≥ 6 then sciText d false else plainText d
    (if f.neg then "-" else "") ++ body

def jsonText (f : Finite) : String :=
  let d := decimalOf f
  let x := d.point - 1
  let body := if f.mant = 0 then "0" else if x < -6 ∨ x ≥ 21 then sciText d true else plainText d
  (if f.neg then "-" else "") ++ body

def truncate (f : Finite) : Int :=
  let mag : Nat := if f.exp ≥ 0 then f.mant * 2 ^ f.exp.toNat else f.mant / 2 ^ (-f.exp).toNat
  if f.neg then -mag else mag

def toU64 : Value → Nat
  | .finite f =>
    let t := truncate f
    if t ≥ 2 ^ 64 ∨ t ≤ -(2 ^ 63) then 2 ^ 63 else (t % 2 ^ 64).toNat
  | _ => 2 ^ 63

end Erc4337.Float64
