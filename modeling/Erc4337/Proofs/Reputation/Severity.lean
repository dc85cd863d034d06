import Erc4337.Proofs.Reputation.Counters
/-! How severe an entity's status is, and which way each reputation event moves it. A sighting can
only make an entity look worse and an inclusion only better, as long as the counter it adds to does
not wrap around at 2^64; a crash, which saturates, always makes it look worse, and under both presets
it bans the entity it is recorded against unless that one is listed as trusted. -/
namespace Erc4337.Reputation

def Status.severity : Status → Nat
  | .ok => 0
  | .throttled => 1
  | .banned => 2

def Params.verdict (p : Params) (c : Counters) : Status :=
  let expected := c.opsSeen / p.minInclusionDenominator
  if expected ≤ addSat c.opsIncluded p.throttlingSlack then .ok
  else if expected ≤ addSat c.opsIncluded p.banSlack then .throttled
  else .banned

theorem toNatAddSat (a b : UInt64) : (addSat a b).toNat = min (a.toNat + b.toNat) (2 ^ 64 - 1) := by
  have ha := a.toNat_lt
  have hb := b.toNat_lt
  simp only [addSat, maxU64, UInt64.lt_iff_toNat_lt, UInt64.toNat_add]
  split <;> simp only [UInt64.reduceToNat, UInt64.toNat_add] <;> omega

theorem verdictMono (p : Params) {c c' : Counters} (seen : c.opsSeen.toNat ≤ c'.opsSeen.toNat)
    (included : c'.opsIncluded.toNat ≤ c.opsIncluded.toNat) :
    (p.verdict c).severity ≤ (p.verdict c').severity := by
  have expected : c.opsSeen.toNat / p.minInclusionDenominator.toNat ≤ c'.opsSeen.toNat / p.minInclusionDenominator.toNat :=
    Nat.div_le_div_right seen
  have throttling := toNatAddSat c.opsIncluded p.throttlingSlack
  have throttling' := toNatAddSat c'.opsIncluded p.throttlingSlack
  have ban := toNatAddSat c.opsIncluded p.banSlack
  have ban' := toNatAddSat c'.opsIncluded p.banSlack
  simp only [Params.verdict, UInt64.le_iff_toNat_le, UInt64.toNat_div]
  split <;> split <;> (try split) <;> (try split) <;> simp only [Status.severity] <;> omega

theorem verdictUnseen (p : Params) {c : Counters} (unseen : c.opsSeen = 0) : p.verdict c = .ok := by
  simp [Params.verdict, unseen]

theorem verdictCrashed {p : Params} (preset : p = bundlerParams ∨ p = nonBundlerParams) (seen : UInt64) :
    p.verdict { opsSeen := addSat seen crashPenalty, opsIncluded := 0 } = .banned := by
  -- the penalty alone expects at least 100 inclusions, past both slacks of either preset
  have past : ∀ slack, slack = p.throttlingSlack ∨ slack = p.banSlack →
      ¬addSat seen crashPenalty / p.minInclusionDenominator ≤ addSat 0 slack := by
    have penalty := toNatAddSat seen crashPenalty
    have bounded := seen.toNat_lt
    rintro slack (rfl | rfl) <;> rcases preset with rfl | rfl <;>
      simp only [bundlerParams, nonBundlerParams, crashPenalty, UInt64.le_iff_toNat_le, UInt64.toNat_div,
        toNatAddSat, UInt64.reduceToNat] at penalty ⊢ <;> omega
  simp only [Params.verdict, if_neg (past _ (.inl rfl)), if_neg (past _ (.inr rfl))]

namespace Tracker

def judged (t : Tracker) (a : Address) : Status := ((t.counters? a).map t.config.params.verdict).getD .ok

theorem statusEq (t : Tracker) (a : Address) :
    t.status a = if a.isZero ∨ t.isWhitelisted a then .ok else if t.isBlacklisted a then .banned else t.judged a := by
  unfold status judged
  split
  · rfl
  split
  · rfl
  cases t.counters? a <;> rfl

theorem severityOfJudged {t t' : Tracker} (config : t'.config = t.config) (a : Address)
    (worse : (t.judged a).severity ≤ (t'.judged a).severity) : (t.status a).severity ≤ (t'.status a).severity := by
  have whitelisted : t'.isWhitelisted a = t.isWhitelisted a := by simp only [isWhitelisted, config]
  have blacklisted : t'.isBlacklisted a = t.isBlacklisted a := by simp only [isBlacklisted, config]
  rw [statusEq, statusEq, whitelisted, blacklisted]
  by_cases listed : a.isZero ∨ t.isWhitelisted a
  · simp only [if_pos listed, Nat.le_refl]
  by_cases banned : t.isBlacklisted a
  · simp only [if_neg listed, if_pos banned, Nat.le_refl]
  · rwa [if_neg listed, if_neg listed, if_neg banned, if_neg banned]

theorem configRecordIncluded (t : Tracker) (b : Address) : (t.recordIncluded b).config = t.config := by
  unfold recordIncluded; split <;> rfl

theorem configRecordCrashed (t : Tracker) (b : Address) : (t.recordCrashed b).config = t.config := by
  unfold recordCrashed; split <;> rfl

theorem countersRecordIncluded (t : Tracker) (b a : Address) :
    (t.recordIncluded b).counters? a =
      if a = b ∧ ¬(b.isZero ∨ t.isWhitelisted b) then
        some { (t.counters? a).getD {} with opsIncluded := ((t.counters? a).getD {}).opsIncluded + 1 }
      else t.counters? a := by
  unfold recordIncluded
  by_cases skip : b.isZero ∨ t.isWhitelisted b
  · simp [skip]
  · rw [if_neg skip, countersUpdate]
    by_cases h : a = b
    · subst h; simp [skip]
    · simp [h]

theorem countersFoldIncluded (xs : List Address) (t : Tracker) (a : Address) :
    (xs.foldl recordIncluded t).counters? a =
      if (a.isZero ∨ t.isWhitelisted a) ∨ xs.count a = 0 then t.counters? a
      else some { (t.counters? a).getD {} with
        opsIncluded := ((t.counters? a).getD {}).opsIncluded + (xs.count a).toUInt64 } := by
  have listed : ∀ t b, (recordIncluded t b).isWhitelisted = t.isWhitelisted := fun t b => by
    funext a
    simp only [isWhitelisted, configRecordIncluded]
  rw [@countersFoldRecord recordIncluded (fun c => { c with opsIncluded := c.opsIncluded + 1 }) countersRecordIncluded
    listed, iterateIncluded]

theorem countersRecordCrashed (t : Tracker) (b a : Address) :
    (t.recordCrashed b).counters? a =
      if a = b ∧ b.isZero = false then
        some { opsSeen := addSat ((t.counters? a).getD {}).opsSeen crashPenalty, opsIncluded := 0 }
      else t.counters? a := by
  unfold recordCrashed
  by_cases zero : b.isZero
  · simp [zero]
  · rw [if_neg zero, countersUpdate]
    by_cases h : a = b
    · subst h; simp [zero]
    · simp [h]

theorem judgedRecordSeen (t : Tracker) (a b : Address) (room : ((t.counters? b).getD {}).opsSeen < maxU64) :
    (t.judged a).severity ≤ ((t.recordSeen b).judged a).severity := by
  simp only [judged, countersRecordSeen, configRecordSeen]
  by_cases touched : a = b ∧ ¬(b.isZero ∨ t.isWhitelisted b)
  · rw [if_pos touched]
    obtain ⟨rfl,-⟩ := touched
    cases known : t.counters? a with
    | none => exact Nat.zero_le _
    | some c =>
      rw [known] at room
      refine verdictMono _ ?_ (Nat.le_refl _)
      simp only [Option.getD_some, maxU64, UInt64.lt_iff_toNat_lt, UInt64.reduceToNat] at room ⊢
      simp only [UInt64.toNat_add, UInt64.reduceToNat]
      omega
  · simp only [if_neg touched, Nat.le_refl]

theorem judgedRecordIncluded (t : Tracker) (a b : Address) (room : ((t.counters? b).getD {}).opsIncluded < maxU64) :
    ((t.recordIncluded b).judged a).severity ≤ (t.judged a).severity := by
  simp only [judged, countersRecordIncluded, configRecordIncluded]
  by_cases touched : a = b ∧ ¬(b.isZero ∨ t.isWhitelisted b)
  · rw [if_pos touched]
    obtain ⟨rfl,-⟩ := touched
    cases known : t.counters? a with
    | none => simp [verdictUnseen, Status.severity]
    | some c =>
      rw [known] at room
      refine verdictMono _ (Nat.le_refl _) ?_
      simp only [Option.getD_some, maxU64, UInt64.lt_iff_toNat_lt, UInt64.reduceToNat] at room ⊢
      simp only [UInt64.toNat_add, UInt64.reduceToNat]
      omega
  · simp only [if_neg touched, Nat.le_refl]

theorem judgedRecordCrashed (t : Tracker) (a b : Address) :
    (t.judged a).severity ≤ ((t.recordCrashed b).judged a).severity := by
  simp only [judged, countersRecordCrashed, configRecordCrashed]
  by_cases touched : a = b ∧ b.isZero = false
  · rw [if_pos touched]
    cases known : t.counters? a with
    | none => exact Nat.zero_le _
    | some c =>
      have penalty := toNatAddSat c.opsSeen crashPenalty
      have bounded := c.opsSeen.toNat_lt
      refine verdictMono _ ?_ (by simp)
      simp only [Option.getD_some, penalty]
      omega
  · simp only [if_neg touched, Nat.le_refl]

end Tracker

open Tracker in
/-- Each reputation event moves every status one way. A crash never makes a status milder, nor does
a sighting, and an inclusion never makes one harsher, as long as the counter the sighting or the
inclusion adds one to is below its largest value; under either preset a crash bans the entity it
is recorded against, unless it is the zero address or whitelisted. -/
theorem statusMovesOneWay (t : Tracker) (a b : Address) :
    (t.status a).severity ≤ ((t.recordCrashed b).status a).severity ∧
    (((t.counters? b).getD {}).opsSeen < maxU64 →
      (t.status a).severity ≤ ((t.recordSeen b).status a).severity) ∧
    (((t.counters? b).getD {}).opsIncluded < maxU64 →
      ((t.recordIncluded b).status a).severity ≤ (t.status a).severity) ∧
    ((t.config.params = bundlerParams ∨ t.config.params = nonBundlerParams) → a.isZero = false →
      t.isWhitelisted a = false → (t.recordCrashed a).status a = .banned) := by
  refine ⟨severityOfJudged (configRecordCrashed t b) a (judgedRecordCrashed t a b),
    fun room => severityOfJudged (configRecordSeen t b) a (judgedRecordSeen t a b room),
    fun room => severityOfJudged (configRecordIncluded t b).symm a (judgedRecordIncluded t a b room),
    fun preset nonzero trusted => ?_⟩
  have counters := countersRecordCrashed t a a
  rw [if_pos ⟨rfl,nonzero⟩] at counters
  have whitelisted : (t.recordCrashed a).isWhitelisted a = false := by
    simpa [isWhitelisted, configRecordCrashed] using trusted
  rw [statusEq, if_neg (by simp [nonzero, whitelisted])]
  split
  · rfl
  · simp only [judged, counters, configRecordCrashed, Option.map_some, Option.getD_some]
    exact verdictCrashed preset _

theorem statusMovesOnSeenEntity :
    let t := (Tracker.create {}).recordSeen (.ofNat 1)
    let a : Address := .ofNat 1
    (((t.counters? a).getD {}).opsSeen < maxU64 ∧ ((t.counters? a).getD {}).opsIncluded < maxU64 ∧
      t.config.params = bundlerParams ∧ a.isZero = false ∧ t.isWhitelisted a = false) ∧
    (t.status a).severity ≤ ((t.recordCrashed a).status a).severity ∧
    (t.status a).severity ≤ ((t.recordSeen a).status a).severity ∧
    ((t.recordIncluded a).status a).severity ≤ (t.status a).severity ∧
    (t.recordCrashed a).status a = .banned := by
  intro t a
  have seen : ((t.counters? a).getD {}).opsSeen < maxU64 := by decide
  have included : ((t.counters? a).getD {}).opsIncluded < maxU64 := by decide
  have preset : t.config.params = bundlerParams := by decide
  have nonzero : a.isZero = false := by decide
  have trusted : t.isWhitelisted a = false := by decide
  obtain ⟨crashed,sighted,counted,banned⟩ := statusMovesOneWay t a a
  exact ⟨⟨seen,included,preset,nonzero,trusted⟩,crashed,sighted seen,counted included,
    banned (.inl preset) nonzero trusted⟩

end Erc4337.Reputation
