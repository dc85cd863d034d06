import Erc4337.Proofs.Reputation.Severity
/-! The tracker's word arithmetic. `scaledRatio` computes `⌊num * factor / den⌋` in 64-bit words:
the whole part of `num / den` times the factor, and, when that fits a word, the remainder's
share as a two-word product divided by `den`. That division is only defined when the high word
is below `den`, which a remainder always gives.

Main statement: `scaledRatio` is the floor quotient stopped at `2^64 - 1`; hence the allowance
of an unstaked entity is `10 + min(opsIncluded, 10000) + ⌊10 * opsIncluded / opsSeen⌋`, stopped at
`2^64 - 1`, and the hourly decay takes every counter `x` to `⌊23x / 24⌋`. Reading the decayed
counters per address needs entries that name each address once, which every tracker carries
(`Tracker.sorted`). -/
namespace Erc4337.Reputation

theorem mul64Low (x y : UInt64) : (mul64 x y).2.toNat = x.toNat * y.toNat % 2 ^ 64 := by
  simp [mul64]

theorem mul64Words (x y : UInt64) :
    (mul64 x y).1.toNat * 2 ^ 64 + (mul64 x y).2.toNat = x.toNat * y.toNat := by
  rw [mul64High, mul64Low]
  exact Nat.div_add_mod' _ _

theorem div64Quotient {hi lo y : UInt64} (below : hi < y) :
    (div64 hi lo y below).1.toNat = (hi.toNat * 2 ^ 64 + lo.toNat) / y.toNat := by
  rw [UInt64.lt_iff_toNat_lt] at below
  -- `hi:lo < (hi + 1) * 2^64 ≤ y * 2^64`, so the quotient fits a word
  have fits : (hi.toNat * 2 ^ 64 + lo.toNat) / y.toNat < 2 ^ 64 := by
    rw [Nat.div_lt_iff_lt_mul (by omega)]
    have low := lo.toNat_lt
    calc hi.toNat * 2 ^ 64 + lo.toNat < (hi.toNat + 1) * 2 ^ 64 := by rw [Nat.succ_mul]; omega
      _ ≤ y.toNat * 2 ^ 64 := Nat.mul_le_mul_right _ below
      _ = 2 ^ 64 * y.toNat := Nat.mul_comm _ _
  simp only [div64, Nat.toUInt64_eq, UInt64.toNat_ofNat', Nat.mod_eq_of_lt fits]

theorem mulDivSplit (num den factor : Nat) (pos : 0 < den) :
    num * factor / den = num / den * factor + num % den * factor / den := by
  have split : num * factor = num % den * factor + den * (num / den * factor) := by
    conv => lhs; rw [← Nat.mod_add_div num den]
    rw [Nat.add_mul, Nat.mul_assoc]
  rw [split, Nat.add_mul_div_left _ _ pos, Nat.add_comm]

theorem toNatScaledRatio (num den factor : UInt64) (pos : 0 < den) :
    (scaledRatio num den factor pos).toNat = min (num.toNat * factor.toNat / den.toNat) (2 ^ 64 - 1) := by
  have pos' : 0 < den.toNat := by simpa [UInt64.lt_iff_toNat_lt] using pos
  have split := mulDivSplit num.toNat den.toNat factor.toNat pos'
  have whole := mul64Words (num / den) factor
  have high := mul64High (num / den) factor
  rw [UInt64.toNat_div] at whole high
  dsimp only [scaledRatio]
  split
  · -- the whole part alone passes `2^64`
    rename_i overflow
    have big : 2 ^ 64 ≤ num.toNat / den.toNat * factor.toNat := by
      refine Nat.le_of_not_lt fun small => overflow (UInt64.toNat_inj.mp ?_)
      rw [high, Nat.div_eq_of_lt small]
      rfl
    have below : num.toNat / den.toNat * factor.toNat ≤ num.toNat * factor.toNat / den.toNat := by
      rw [split]
      exact Nat.le_add_right _ _
    simp only [maxU64, UInt64.reduceToNat]
    generalize num.toNat * factor.toNat / den.toNat = q at below ⊢
    omega
  · rename_i fits
    have low : (mul64 (num / den) factor).1.toNat = 0 := by rw [not_not.mp fits]; rfl
    have rest := mul64Words (num % den) factor
    rw [UInt64.toNat_mod] at rest
    rw [toNatAddSat, div64Quotient, rest, split]
    omega

theorem Counters.toNatDecaySeen (c : Counters) : c.decay.opsSeen.toNat = 23 * c.opsSeen.toNat / 24 := by
  have bounded := c.opsSeen.toNat_lt
  simp only [Counters.decay, toNatScaledRatio, UInt64.reduceToNat]
  omega

theorem Counters.toNatDecayIncluded (c : Counters) : c.decay.opsIncluded.toNat = 23 * c.opsIncluded.toNat / 24 := by
  have bounded := c.opsIncluded.toNat_lt
  simp only [Counters.decay, toNatScaledRatio, UInt64.reduceToNat]
  omega

theorem UInt64.toNatMin (a b : UInt64) : (min a b).toNat = min a.toNat b.toNat := by
  show (if a ≤ b then a else b).toNat = _
  by_cases le : a ≤ b
  · rw [if_pos le, Nat.min_eq_left (UInt64.le_iff_toNat_le.mp le)]
  · have gt := UInt64.le_iff_toNat_le.not.mp le
    rw [if_neg le, Nat.min_eq_right (by omega)]

namespace Tracker

theorem toNatMaxUnstaked {t : Tracker} {a : Address} {c : Counters} (found : t.counters? a = some c)
    (seen : 0 < c.opsSeen) :
    (t.maxUnstakedMempoolCount a).toNat =
      min (10 + min c.opsIncluded.toNat 10000 + 10 * c.opsIncluded.toNat / c.opsSeen.toNat) (2 ^ 64 - 1) := by
  have base : (10 + min c.opsIncluded 10000).toNat = 10 + min c.opsIncluded.toNat 10000 := by
    rw [UInt64.toNat_add, UInt64.toNatMin]
    simp only [UInt64.reduceToNat]
    omega
  simp only [maxUnstakedMempoolCount, found, gt_iff_lt, dif_pos seen]
  rw [toNatAddSat, base, toNatScaledRatio, Nat.mul_comm c.opsIncluded.toNat]
  simp only [UInt64.reduceToNat]
  generalize 10 * c.opsIncluded.toNat / c.opsSeen.toNat = bonus
  omega

theorem findDecayed {l : List (Address × Counters)} (sorted : l.Pairwise fun x y => x.1.toNat < y.1.toNat)
    (a : Address) :
    ((l.filterMap fun (a, c) => if c.decay.opsSeen = 0 ∧ c.decay.opsIncluded = 0 then none else some (a, c.decay)).find?
        (·.1 == a)).map (·.2) =
      ((l.find? (·.1 == a)).map (·.2)).bind fun c =>
        if c.decay.opsSeen = 0 ∧ c.decay.opsIncluded = 0 then none else some c.decay := by
  induction l with
  | nil => rfl
  | cons x rest ih =>
    obtain ⟨b,c⟩ := x
    have tail := ih sorted.of_cons
    by_cases here : b = a
    · subst here
      have absent : rest.find? (·.1 == b) = none := List.find?_eq_none.mpr fun y mem same => by
        have := List.rel_of_pairwise_cons sorted mem
        rw [beq_iff_eq.mp same] at this
        exact Nat.lt_irrefl _ this
      rw [absent] at tail
      by_cases zero : c.decay.opsSeen = 0 ∧ c.decay.opsIncluded = 0
      · simpa [zero] using tail
      · simp [zero]
    · have skip : (b == a) = false := beq_eq_false_iff_ne.mpr here
      by_cases zero : c.decay.opsSeen = 0 ∧ c.decay.opsIncluded = 0
      · simpa [zero, skip] using tail
      · simpa [zero, skip] using tail

theorem countersDecay (t : Tracker) (a : Address) :
    t.decay.counters? a = (t.counters? a).bind fun c =>
      if c.decay.opsSeen = 0 ∧ c.decay.opsIncluded = 0 then none else some c.decay :=
  findDecayed t.sorted a

theorem decayedCounters (t : Tracker) (a : Address) :
    ((t.decay.counters? a).getD {}).opsSeen.toNat = 23 * ((t.counters? a).getD {}).opsSeen.toNat / 24 ∧
      ((t.decay.counters? a).getD {}).opsIncluded.toNat = 23 * ((t.counters? a).getD {}).opsIncluded.toNat / 24 := by
  rw [countersDecay]
  cases t.counters? a with
  | none => exact ⟨rfl,rfl⟩
  | some c =>
    have seen := c.toNatDecaySeen
    have included := c.toNatDecayIncluded
    by_cases zero : c.decay.opsSeen = 0 ∧ c.decay.opsIncluded = 0
    · rw [zero.1] at seen
      rw [zero.2] at included
      simp only [Option.bind_some, if_pos zero, Option.getD_none, Option.getD_some]
      exact ⟨seen,included⟩
    · simp only [Option.bind_some, if_neg zero, Option.getD_some]
      exact ⟨seen,included⟩

end Tracker

open Tracker in
/-- `scaledRatio` is the floor quotient stopped at `2^64 - 1`, and the two-word division it makes
is always defined, its high word being below the divisor. Hence an entity that has been seen
may hold `10 + min(opsIncluded, 10000) + ⌊10 * opsIncluded / opsSeen⌋` unstaked entries, stopped at
`2^64 - 1`, and the hourly decay takes every counter `x` to `⌊23x / 24⌋`. -/
theorem scaledRatioFloorQuotient (num den factor : UInt64) (pos : 0 < den) (t : Tracker) (a : Address) :
    (scaledRatio num den factor pos).toNat = min (num.toNat * factor.toNat / den.toNat) (2 ^ 64 - 1) ∧
    (mul64 (num % den) factor).1 < den ∧
    (∀ c, t.counters? a = some c → 0 < c.opsSeen →
      (t.maxUnstakedMempoolCount a).toNat =
        min (10 + min c.opsIncluded.toNat 10000 + 10 * c.opsIncluded.toNat / c.opsSeen.toNat) (2 ^ 64 - 1)) ∧
    ((t.decay.counters? a).getD {}).opsSeen.toNat = 23 * ((t.counters? a).getD {}).opsSeen.toNat / 24 ∧
    ((t.decay.counters? a).getD {}).opsIncluded.toNat = 23 * ((t.counters? a).getD {}).opsIncluded.toNat / 24 :=
  ⟨toNatScaledRatio num den factor pos,mul64RemHigh num factor pos,fun _ found seen => toNatMaxUnstaked found seen,
    decayedCounters t a⟩

theorem scaledRatioOnHugeCounters :
    let t := (Tracker.create {}).setReputation [(.ofNat 1, { opsSeen := 0xffffffffffffffff, opsIncluded := 0x7fffffffffffffff })]
    0 < (24 : UInt64) ∧ t.counters? (.ofNat 1) = some { opsSeen := 0xffffffffffffffff, opsIncluded := 0x7fffffffffffffff } ∧
      0 < (0xffffffffffffffff : UInt64) ∧
      (scaledRatio 0xffffffffffffffff 24 23 (by decide)).toNat = min (0xffffffffffffffff * 23 / 24) (2 ^ 64 - 1) ∧
      (t.maxUnstakedMempoolCount (.ofNat 1)).toNat = min (10 + min 0x7fffffffffffffff 10000 + 10 * 0x7fffffffffffffff / 0xffffffffffffffff) (2 ^ 64 - 1) := by
  intro t
  have found : t.counters? (.ofNat 1) = some { opsSeen := 0xffffffffffffffff, opsIncluded := 0x7fffffffffffffff } := by decide
  obtain ⟨ratio,-,allowance,-⟩ := scaledRatioFloorQuotient 0xffffffffffffffff 24 23 (by decide) t (.ofNat 1)
  exact ⟨by decide,found,by decide,ratio,allowance _ found (by decide)⟩

end Erc4337.Reputation
