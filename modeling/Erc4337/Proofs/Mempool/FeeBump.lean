import Mathlib.Algebra.Order.Field.Rat
import Mathlib.Algebra.Order.Field.Power
import Mathlib.Order.Monotone.Basic
import Mathlib.Tactic.Linarith
import Mathlib.Tactic.Ring
import Erc4337.Mempool.Pool
/-! The fee bump decided exactly. A decimal stands for the rational `value × 10 ^ exp`
(`Decimal.toRat`): appending zeros to reach a smaller exponent keeps that number, a product
multiplies the numbers, and `Decimal.cmp` orders decimals by them, whatever their signs, sizes
and exponents.

Main statement: a new fee cap beats the old one exactly when the old one is absent, or the new
one is present and ten times it is at least eleven times the old one as integers; a replacement
passes `checkReplacement` exactly when both of its fee caps beat the old ones so. -/
namespace Erc4337

namespace Decimal

def toRat (d : Decimal) : ℚ := d.value * 10 ^ d.exp.toInt

@[simp] theorem toRatOfInt (v : Int) : (ofInt v).toRat = v := by
  simp [toRat, ofInt]

theorem toRatMul (d e : Decimal) (lo hi) : (d.mul e lo hi).toRat = d.toRat * e.toRat := by
  simp only [toRat, mul, Int32.toInt_ofIntLE, Int.cast_mul]
  rw [zpow_add₀ (by norm_num)]
  ring

theorem expRescale (d : Decimal) (exp : Int32) : (d.rescale exp).exp = exp := by
  unfold rescale
  split_ifs with same
  · exact same
  · rfl
  · rfl

theorem toRatRescale {d : Decimal} {exp : Int32} (below : exp ≤ d.exp) :
    (d.rescale exp).toRat = d.toRat := by
  rw [Int32.le_iff_toInt_le] at below
  unfold rescale
  split_ifs with same lower
  · rfl
  · -- the value gains `d.exp - exp` zeros and the exponent loses as much
    have zeros : ((d.exp.toInt - exp.toInt).toNat : ℤ) = d.exp.toInt - exp.toInt :=
      Int.toNat_of_nonneg (by omega)
    simp only [toRat, Int.cast_mul, Int.cast_pow, Int.cast_ofNat]
    rw [mul_assoc, ← zpow_natCast, ← zpow_add₀ (by norm_num), zeros, sub_add_cancel]
  · rw [← Int32.toInt_inj] at same
    rw [Int32.lt_iff_toInt_lt] at lower
    omega

theorem rescalePairSpec (d e : Decimal) :
    (rescalePair d e).1.exp = (rescalePair d e).2.exp ∧
      (rescalePair d e).1.toRat = d.toRat ∧ (rescalePair d e).2.toRat = e.toRat := by
  unfold rescalePair
  split_ifs with lower higher
  · rw [Int32.lt_iff_toInt_lt] at lower
    exact ⟨(expRescale e d.exp).symm, rfl, toRatRescale (Int32.le_iff_toInt_le.mpr (by omega))⟩
  · rw [Int32.lt_iff_toInt_lt] at higher
    exact ⟨expRescale d e.exp, toRatRescale (Int32.le_iff_toInt_le.mpr (by omega)), rfl⟩
  · rw [Int32.lt_iff_toInt_lt] at lower higher
    dsimp only
    exact ⟨Int32.toInt_inj.mp (by omega), rfl, rfl⟩

theorem compareToRatOfExpEq {d e : Decimal} (same : d.exp = e.exp) :
    compare d.toRat e.toRat = compare d.value e.value := by
  have scale : StrictMono fun v : ℤ => (v : ℚ) * 10 ^ d.exp.toInt :=
    fun u v lt => mul_lt_mul_of_pos_right (Int.cast_lt.mpr lt) (zpow_pos (by norm_num) _)
  rw [toRat, toRat, ← same, ← cmp_eq_compare, ← cmp_eq_compare]
  exact scale.cmp_map_eq d.value e.value

theorem cmpEqCompareToRat (d e : Decimal) : d.cmp e = compare d.toRat e.toRat := by
  unfold cmp
  split_ifs with same
  · exact (compareToRatOfExpEq same).symm
  · obtain ⟨oneExp, first, second⟩ := rescalePairSpec d e
    rw [← first, ← second, compareToRatOfExpEq oneExp]

theorem gteIff (d e : Decimal) : d.gte e = true ↔ e.toRat ≤ d.toRat := by
  rw [gte, cmpEqCompareToRat, Ordering.isGE_iff_ne_lt]
  exact compare_ge_iff_ge

end Decimal

namespace Mempool

theorem toRatMinFeeBump : minFeeBump.toRat = 11 / 10 := by
  have tenth : (-1 : Int32).toInt = -1 := by decide
  simp only [Decimal.toRat, minFeeBump, tenth]
  norm_num

def FeeRaised (old new : Option Int) : Prop :=
  old = none ∨ ∃ o n, old = some o ∧ new = some n ∧ 11 * o ≤ 10 * n

theorem bumpedSomeSome (o n : Int) : bumped (some o) (some n) = true ↔ 11 * o ≤ 10 * n := by
  rw [bumped, Decimal.gteIff, Decimal.toRatMul, Decimal.toRatOfInt, Decimal.toRatOfInt,
    toRatMinFeeBump]
  -- `o × 11/10 ≤ n` over the rationals is `11 o ≤ 10 n` over the integers
  have scaled : (o : ℚ) * (11 / 10) ≤ n ↔ ((11 * o : ℤ) : ℚ) ≤ ((10 * n : ℤ) : ℚ) := by
    push_cast
    constructor <;> intro h <;> linarith
  rw [scaled, Int.cast_le]

example : bumped (some 20) (some 22) = true ∧ bumped (some 20) (some 21) = false ∧
    bumped (some (-10)) (some (-11)) = true := by decide

theorem bumpedIff (old new : Option Int) : bumped old new = true ↔ FeeRaised old new := by
  cases old with
  | none => simp [bumped, FeeRaised]
  | some o =>
    cases new with
    | none => simp [bumped, FeeRaised]
    | some n => simp [bumpedSomeSome, FeeRaised]

theorem checkReplacementOkIff (old new : UserOperation) :
    checkReplacement old new = .ok () ↔
      bumped old.maxPriorityFeePerGas new.maxPriorityFeePerGas = true ∧
        bumped old.maxFeePerGas new.maxFeePerGas = true := by
  unfold checkReplacement
  split <;> simp_all

/-- Both fee caps must rise by 10%, decided on the integers without rounding: a replacement is
accepted exactly when each of its caps is at least eleven tenths of the old one. -/
theorem replacementFeeBumpExact :
    (∀ old new, bumped old new = true ↔ FeeRaised old new) ∧
      ∀ old new : UserOperation, checkReplacement old new = .ok () ↔
        FeeRaised old.maxPriorityFeePerGas new.maxPriorityFeePerGas ∧
          FeeRaised old.maxFeePerGas new.maxFeePerGas := by
  refine ⟨bumpedIff, fun old new => ?_⟩
  rw [checkReplacementOkIff, bumpedIff, bumpedIff]

end Mempool

end Erc4337
