import Erc4337.Arith
/-!
Fixed-point decimals: an integer of any size and a 32-bit exponent, standing for
`value × 10 ^ exp`. Products are exact, their exponents added; a sum of exponents that leaves 32
bits stops the program, so a product is only formed with a proof that it fits. Two decimals
compare by their numbers: the one with the larger exponent is rescaled to the smaller one by
appending zeros, and the values are compared.
-/
namespace Erc4337

structure Decimal where
  value : Int
  exp : Int32
  deriving DecidableEq, Inhabited

namespace Decimal

def ofInt (value : Int) : Decimal := ⟨value, 0⟩

def mul (d e : Decimal) (lo : Int32.minValue.toInt ≤ d.exp.toInt + e.exp.toInt)
    (hi : d.exp.toInt + e.exp.toInt ≤ Int32.maxValue.toInt) : Decimal :=
  ⟨d.value * e.value, Int32.ofIntLE (d.exp.toInt + e.exp.toInt) lo hi⟩

theorem ofIntMulLo (v : Int) (e : Decimal) : Int32.minValue.toInt ≤ (ofInt v).exp.toInt + e.exp.toInt := by
  have low := e.exp.minValue_le_toInt
  rw [ofInt, Int32.toInt_zero]
  omega

theorem ofIntMulHi (v : Int) (e : Decimal) : (ofInt v).exp.toInt + e.exp.toInt ≤ Int32.maxValue.toInt := by
  have high := e.exp.toInt_le
  rw [ofInt, Int32.toInt_zero]
  omega

def rescale (d : Decimal) (exp : Int32) : Decimal :=
  if d.exp = exp then d
  else if exp < d.exp then ⟨d.value * 10 ^ (d.exp.toInt - exp.toInt).toNat, exp⟩
  else ⟨d.value.tdiv (10 ^ (exp.toInt - d.exp.toInt).toNat), exp⟩

def rescalePair (d e : Decimal) : Decimal × Decimal :=
  if d.exp < e.exp then (d, e.rescale d.exp)
  else if e.exp < d.exp then (d.rescale e.exp, e)
  else (d, e)

def cmp (d e : Decimal) : Ordering :=
  if d.exp = e.exp then compare d.value e.value
  else
    let scaled := rescalePair d e
    compare scaled.1.value scaled.2.value

def gte (d e : Decimal) : Bool := (d.cmp e).isGE

end Decimal

end Erc4337
