import Erc4337.Proofs.Reputation.Ratio
/-! How the hourly decay moves a status. The decay rounds both counters down to 23/24 separately,
so it can lower the inclusions by one more than the expected inclusions: an entity whose expected
inclusions `opsSeen / minInclusionDenominator` sit exactly on a threshold, `opsIncluded` plus the
slack, can land one past it. Everywhere else the decay keeps an entity on its side of each
threshold, and a slack of 22 or more is never crossed.

Main statement: under either preset a decay leaves every status as severe as it was or milder,
except for an entity that was ok and sat exactly on the throttling threshold; under the bundler
preset, whose ban slack is 50, it bans nobody. -/
namespace Erc4337.Reputation

def Params.Within (p : Params) (slack : UInt64) (c : Counters) : Prop :=
  c.opsSeen / p.minInclusionDenominator ≤ addSat c.opsIncluded slack

instance (p : Params) (slack : UInt64) (c : Counters) : Decidable (p.Within slack c) :=
  inferInstanceAs (Decidable (_ ≤ _))

theorem Params.verdictEq (p : Params) (c : Counters) :
    p.verdict c = if p.Within p.throttlingSlack c then .ok else if p.Within p.banSlack c then .throttled else .banned :=
  rfl

theorem decayedExpectation {D : Nat} (s : Nat) (pos : 0 < D) : 24 * (23 * s / 24 / D) < 23 * (s / D + 1) := by
  have floor : 23 * s / (24 * D) * (24 * D) ≤ 23 * s := Nat.div_mul_le_self _ _
  have above : s < D * (s / D + 1) := Nat.lt_mul_div_succ s pos
  have scaled : D * (24 * (23 * s / 24 / D)) < D * (23 * (s / D + 1)) := by
    rw [Nat.div_div_eq_div_mul]
    calc D * (24 * (23 * s / (24 * D))) = 23 * s / (24 * D) * (24 * D) := by ac_rfl
      _ ≤ 23 * s := floor
      _ < 23 * (D * (s / D + 1)) := Nat.mul_lt_mul_of_pos_left above (by decide)
      _ = D * (23 * (s / D + 1)) := Nat.mul_left_comm _ _ _
  exact Nat.lt_of_mul_lt_mul_left scaled

theorem decayKeepsWithin {D S s i : Nat} (pos : 0 < D) (within : s / D ≤ i + S)
    (margin : 22 ≤ S ∨ s / D < i + S) : 23 * s / 24 / D ≤ 23 * i / 24 + S := by
  have core := decayedExpectation s pos
  generalize 23 * s / 24 / D = q at core
  generalize s / D = e at within margin core
  omega

theorem Params.withinDecay (p : Params) (pos : 0 < p.minInclusionDenominator) {slack : UInt64} {c : Counters}
    (within : p.Within slack c)
    (margin : 22 ≤ slack.toNat ∨ c.opsSeen.toNat / p.minInclusionDenominator.toNat ≠ c.opsIncluded.toNat + slack.toNat) :
    p.Within slack c.decay := by
  have pos' : 0 < p.minInclusionDenominator.toNat := by simpa [UInt64.lt_iff_toNat_lt] using pos
  unfold Params.Within at within ⊢
  rw [UInt64.le_iff_toNat_le, UInt64.toNat_div, toNatAddSat] at within ⊢
  rw [Counters.toNatDecaySeen, Counters.toNatDecayIncluded]
  have kept := @decayKeepsWithin p.minInclusionDenominator.toNat slack.toNat c.opsSeen.toNat c.opsIncluded.toNat pos'
    (by omega) (by omega)
  have small : 23 * c.opsSeen.toNat / 24 / p.minInclusionDenominator.toNat < 2 ^ 64 :=
    Nat.lt_of_le_of_lt (Nat.div_le_self _ _) (by have := c.opsSeen.toNat_lt; omega)
  omega

theorem withinBanOfThrottling {p : Params} {c : Counters} (bundler : p = bundlerParams)
    (within : p.Within p.throttlingSlack c) : p.Within p.banSlack c := by
  subst bundler
  unfold Params.Within at within ⊢
  rw [UInt64.le_iff_toNat_le, toNatAddSat] at within ⊢
  have throttling : bundlerParams.throttlingSlack.toNat = 10 := rfl
  have ban : bundlerParams.banSlack.toNat = 50 := rfl
  omega

theorem Status.severityLeBanned (s : Status) : s.severity ≤ 2 := by
  cases s <;> decide

theorem Params.verdictDecay {p : Params} (preset : p = bundlerParams ∨ p = nonBundlerParams) (c : Counters) :
    ((p.verdict c.decay).severity ≤ (p.verdict c).severity ∨
      p.verdict c = .ok ∧ c.opsSeen.toNat / p.minInclusionDenominator.toNat = c.opsIncluded.toNat + p.throttlingSlack.toNat) ∧
    (p = bundlerParams → p.verdict c.decay = .banned → p.verdict c = .banned) := by
  have pos : 0 < p.minInclusionDenominator := by rcases preset with rfl | rfl <;> decide
  -- a throttled entity is within the ban slack, which the bundler preset makes too wide to cross;
  -- under the other preset both slacks are ten, so nobody is ever throttled
  have keepBan : ¬p.Within p.throttlingSlack c → p.Within p.banSlack c → p.Within p.banSlack c.decay := by
    intro notT wB
    rcases preset with rfl | rfl
    · exact bundlerParams.withinDecay pos wB (.inl (by decide))
    · exact absurd wB notT
  rw [Params.verdictEq, Params.verdictEq]
  refine ⟨?_,fun bundler banned => ?_⟩
  · by_cases wT : p.Within p.throttlingSlack c
    · by_cases onThreshold :
          c.opsSeen.toNat / p.minInclusionDenominator.toNat = c.opsIncluded.toNat + p.throttlingSlack.toNat
      · exact .inr ⟨if_pos wT,onThreshold⟩
      · rw [if_pos wT, if_pos (p.withinDecay pos wT (.inr onThreshold))]
        exact .inl (Nat.le_refl _)
    · left
      by_cases wB : p.Within p.banSlack c
      · rw [if_neg wT, if_pos wB]
        split
        · exact Nat.zero_le _
        · exact Nat.le_of_eq (by rw [if_pos (keepBan wT wB)])
      · rw [if_neg wT, if_neg wB]
        exact Status.severityLeBanned _
  · have keptBan : p.Within p.throttlingSlack c ∨ p.Within p.banSlack c → p.Within p.banSlack c.decay := by
      intro within
      by_cases wT : p.Within p.throttlingSlack c
      · exact p.withinDecay pos (withinBanOfThrottling bundler wT) (by subst bundler; exact .inl (by decide))
      · exact keepBan wT (within.resolve_left wT)
    by_cases within : p.Within p.throttlingSlack c ∨ p.Within p.banSlack c
    · by_cases wT' : p.Within p.throttlingSlack c.decay <;> simp [wT', keptBan within] at banned
    · rw [if_neg (fun w => within (.inl w)), if_neg (fun w => within (.inr w))]

namespace Tracker

theorem judgedDecay (t : Tracker) (a : Address) :
    t.decay.judged a = ((t.counters? a).map fun c =>
      if c.decay.opsSeen = 0 ∧ c.decay.opsIncluded = 0 then .ok else t.config.params.verdict c.decay).getD .ok := by
  unfold judged
  rw [countersDecay]
  cases t.counters? a with
  | none => rfl
  | some c =>
    by_cases zero : c.decay.opsSeen = 0 ∧ c.decay.opsIncluded = 0
    · simp only [Option.bind_some, Option.map_some, if_pos zero]
      rfl
    · simp only [Option.bind_some, Option.map_some, if_neg zero]
      rfl

theorem judgedAfterDecay {t : Tracker}
    (preset : t.config.params = bundlerParams ∨ t.config.params = nonBundlerParams) (a : Address) :
    ((t.decay.judged a).severity ≤ (t.judged a).severity ∨
      ∃ c, t.counters? a = some c ∧ t.judged a = .ok ∧
        c.opsSeen.toNat / t.config.params.minInclusionDenominator.toNat =
          c.opsIncluded.toNat + t.config.params.throttlingSlack.toNat) ∧
    (t.config.params = bundlerParams → t.decay.judged a = .banned → t.judged a = .banned) := by
  rw [judgedDecay]
  unfold judged
  cases found : t.counters? a with
  | none => exact ⟨.inl (Nat.le_refl _),fun _ banned => by cases banned⟩
  | some c =>
    obtain ⟨moved,bansNobody⟩ := Params.verdictDecay preset c
    simp only [Option.map_some, Option.getD_some]
    by_cases zero : c.decay.opsSeen = 0 ∧ c.decay.opsIncluded = 0
    · rw [if_pos zero]
      exact ⟨.inl (Nat.zero_le _),fun _ banned => by cases banned⟩
    · rw [if_neg zero]
      refine ⟨?_,bansNobody⟩
      rcases moved with milder | ⟨ok,onThreshold⟩
      · exact .inl milder
      · exact .inr ⟨c,rfl,ok,onThreshold⟩

end Tracker

open Tracker in
/-- The hourly decay never makes a status harsher, except for an entity that was ok and sat
exactly on the throttling threshold: its expected inclusions `opsSeen / minInclusionDenominator`
equal `opsIncluded` plus the throttling slack, and rounding both counters down can put it one past.
Under the bundler preset no entity becomes banned by the decay. -/
theorem decayWorsensOnlyOnThreshold (t : Tracker)
    (preset : t.config.params = bundlerParams ∨ t.config.params = nonBundlerParams) (a : Address) :
    ((t.decay.status a).severity ≤ (t.status a).severity ∨
      ∃ c, t.counters? a = some c ∧ t.status a = .ok ∧
        c.opsSeen.toNat / t.config.params.minInclusionDenominator.toNat =
          c.opsIncluded.toNat + t.config.params.throttlingSlack.toNat) ∧
    (t.config.params = bundlerParams → t.decay.status a = .banned → t.status a = .banned) := by
  obtain ⟨moved,bansNobody⟩ := judgedAfterDecay preset a
  have whitelisted : t.decay.isWhitelisted a = t.isWhitelisted a := rfl
  have blacklisted : t.decay.isBlacklisted a = t.isBlacklisted a := rfl
  rw [statusEq, statusEq t, whitelisted, blacklisted]
  by_cases listed : a.isZero ∨ t.isWhitelisted a
  · simp only [if_pos listed]
    exact ⟨.inl (Nat.le_refl _),fun _ banned => by cases banned⟩
  by_cases banned : t.isBlacklisted a
  · simp only [if_neg listed, if_pos banned]
    exact ⟨.inl (Nat.le_refl _),by simp⟩
  simp only [if_neg listed, if_neg banned]
  exact ⟨moved,bansNobody⟩

theorem decayOnThresholdEntity :
    let t := (Tracker.create {}).setReputation [(.ofNat 16, { opsSeen := 115, opsIncluded := 1 })]
    (t.config.params = bundlerParams ∨ t.config.params = nonBundlerParams) ∧
      ((t.decay.status (.ofNat 16)).severity ≤ (t.status (.ofNat 16)).severity ∨
        ∃ c, t.counters? (.ofNat 16) = some c ∧ t.status (.ofNat 16) = .ok ∧
          c.opsSeen.toNat / t.config.params.minInclusionDenominator.toNat =
            c.opsIncluded.toNat + t.config.params.throttlingSlack.toNat) ∧
      (t.config.params = bundlerParams → t.decay.status (.ofNat 16) = .banned → t.status (.ofNat 16) = .banned) := by
  intro t
  have preset : t.config.params = bundlerParams ∨ t.config.params = nonBundlerParams := .inl rfl
  exact ⟨preset,decayWorsensOnlyOnThreshold t preset (.ofNat 16)⟩

theorem decayThrottlesOnThreshold :
    let t := (Tracker.create {}).setReputation [(.ofNat 16, { opsSeen := 115, opsIncluded := 1 })]
    t.config.params = bundlerParams ∧ t.status (.ofNat 16) = .ok ∧ t.decay.status (.ofNat 16) = .throttled := by
  decide

end Erc4337.Reputation
