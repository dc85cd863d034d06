import Erc4337.Proofs.Service.Admission
import Erc4337.Sim.Scripted
/-! The validity window of an admission. The clock is an instant, a 64-bit count of seconds from
year 1 and the nanoseconds into the second; a reported validity second is turned into the instant
that starts it, and the 30-second margin is added to the clock. While neither wraps nor stops at
the end of the count, the comparisons are the plain ones on nanoseconds since the Unix epoch.

An admission that fails, whatever the collaborators answer, leaves the pool as it was. -/
namespace Erc4337.Service
open Mempool

namespace Instant

def count (t : Instant) : Int := t.sec.toInt * 10 ^ 9 + t.nsec.val

def unixSecond (t : Instant) : Int := t.sec.toInt - epochOffset.toInt

def unixNanos (t : Instant) : Int := t.unixSecond * 10 ^ 9 + t.nsec.val

theorem beforeIff (t u : Instant) : t.before u = true ↔ t.count < u.count := by
  have small := t.nsec.isLt
  have small' := u.nsec.isLt
  simp only [before, count, Bool.or_eq_true, Bool.and_eq_true, decide_eq_true_eq, beq_iff_eq,
    Int64.lt_iff_toInt_lt, ← Int64.toInt_inj, Fin.lt_def]
  omega

theorem afterIff (t u : Instant) : t.after u = true ↔ u.count < t.count := beforeIff u t

theorem countEqUnixNanos (t : Instant) : t.count = t.unixNanos + epochOffset.toInt * 10 ^ 9 := by
  simp only [count, unixNanos, unixSecond]
  omega

end Instant

theorem toIntEpochOffset : epochOffset.toInt = 62135596800 := by decide

def maxUnixSecond : Int := 2 ^ 63 - 1 - epochOffset.toInt

theorem unixNanosOfUnix {v : Nat} (fits : v ≤ maxUnixSecond) :
    (Instant.ofUnix (.ofNat v)).unixNanos = v * 10 ^ 9 := by
  rw [maxUnixSecond, toIntEpochOffset] at fits
  have exact : (Int64.ofNat v).toInt = v := Int64.toInt_ofNat_of_lt (by omega)
  simp only [Instant.unixNanos, Instant.unixSecond, Instant.ofUnix, Int64.toInt_add, exact, toIntEpochOffset]
  rw [Int.bmod_eq_of_le (by omega) (by omega)]
  simp

theorem unixNanosAddSeconds {t : Instant} {d : Int64} (pos : 0 < d)
    (fits : t.unixSecond + d.toInt ≤ maxUnixSecond) :
    (t.addSeconds d).unixNanos = t.unixNanos + d.toInt * 10 ^ 9 := by
  rw [Int64.lt_iff_toInt_lt, Int64.toInt_zero] at pos
  simp only [maxUnixSecond, Instant.unixSecond, toIntEpochOffset] at fits
  have sum : (t.sec + d).toInt = t.sec.toInt + d.toInt := by
    have low := t.sec.minValue_le_toInt
    rw [Int64.toInt_minValue] at low
    rw [Int64.toInt_add, Int.bmod_eq_of_le (by omega) (by omega)]
  have grows : t.sec.toInt < t.sec.toInt + d.toInt := by omega
  simp only [Instant.addSeconds, Instant.unixNanos, Instant.unixSecond, Int64.lt_iff_toInt_lt,
    Int64.toInt_zero, sum, grows, pos, iff_self, if_true]
  omega

theorem timeWindowFaultExact {now : Instant} {info : Validation.ReturnInfo}
    (marginFits : now.unixSecond + 30 ≤ maxUnixSecond)
    (untilFits : info.validUntil ≤ maxUnixSecond) (afterFits : info.validAfter ≤ maxUnixSecond) :
    timeWindowFault now info =
      if info.sigFailed then
        some (.ofRpc ⟨RpcError.simulateValidation, "Invalid UserOp signature or paymaster signature", []⟩)
      else if info.validUntil ≠ 0 ∧ (info.validUntil : Int) * 10 ^ 9 < now.unixNanos + 30 * 10 ^ 9 then
        some (.ofRpc ⟨RpcError.simulateValidation, "expires too soon", [("validUntil", Json.nat info.validUntil)]⟩)
      else if info.validAfter ≠ 0 ∧ now.unixNanos < info.validAfter * 10 ^ 9 then
        some (.ofRpc ⟨RpcError.simulateValidation, "not yet valid", [("validAfter", Json.nat info.validAfter)]⟩)
      else none := by
  have margin : validUntilMargin.toInt = 30 := by decide
  -- both sides of each comparison are instants counted from year 1, the same offset apart
  have untilIff : (Instant.ofUnix (.ofNat info.validUntil)).before (now.addSeconds validUntilMargin) = true ↔
      (info.validUntil : Int) * 10 ^ 9 < now.unixNanos + 30 * 10 ^ 9 := by
    rw [Instant.beforeIff, Instant.countEqUnixNanos, Instant.countEqUnixNanos, unixNanosOfUnix untilFits,
      unixNanosAddSeconds (by decide) (by rw [margin]; exact marginFits), margin]
    omega
  have afterIff : (Instant.ofUnix (.ofNat info.validAfter)).after now = true ↔
      now.unixNanos < info.validAfter * 10 ^ 9 := by
    rw [Instant.afterIff, Instant.countEqUnixNanos, Instant.countEqUnixNanos, unixNanosOfUnix afterFits]
    omega
  simp only [timeWindowFault, untilIff, afterIff]

variable {σ : Type} (b : Backend (StateM σ))

theorem chainIdOfKeeps (s : Service) (τ : σ) :
    (runSt (chainIdOf b) s τ).1.2.pool = s.pool ∧ (runSt (chainIdOf b) s τ).1.2.settings = s.settings := by
  unfold chainIdOf
  simp only [runStBind, runStGet]
  cases s.chainId with
  | some id => exact ⟨rfl,rfl⟩
  | none =>
    simp only [runStBind, runStLift]
    cases (b.chainId.run τ).1 with
    | ok id => exact ⟨rfl,rfl⟩
    | error e => exact ⟨rfl,rfl⟩

theorem admitCheckedValidated {op : UserOperation} {s : Service} {τ : σ} {chainId : Int} {s₁ : Service} {τ₁ : σ}
    {res : Validation.Result} {τ₂ : σ}
    (known : runSt (chainIdOf b) s τ = ((.ok chainId,s₁),τ₁))
    (validated : (b.validate op false none).run τ₁ = (.ok res,τ₂)) :
    runIn (admitChecked b op) s τ =
      match timeWindowFault s₁.settings.now res.returnInfo with
      | some f => ((.error f,s₁),τ₂)
      | none => runIn (do
          admitToPool op (op.hash s₁.settings.config.entryPoint (some chainId)) (some res.returnInfo.prefund)
            (some res.referenced) (stakesOf op res)
          return op.hash s₁.settings.config.entryPoint (some chainId)) s₁ τ₂ := by
  unfold admitChecked
  simp only [runInBind, runInLiftSt, known, runInConfig, runInLift, runInPure, validated, runInGet]
  cases timeWindowFault s₁.settings.now res.returnInfo <;> simp only [runInBind, runInThrow, runInPure]

theorem admitToPoolFailure {op : UserOperation} {hash : Hash} {prefund : Option Int}
    {referenced : Option Validation.Referenced} {stakes : EntityStakes} {s : Service} {τ : σ} {e : Fault}
    {s' : Service} {τ' : σ}
    (run : runIn (do admitToPool op hash prefund referenced stakes; return hash : SvcE (StateM σ) Hash) s τ =
      ((.error e,s'),τ')) : s' = s := by
  rw [runInBind] at run
  cases accepted : s.pool.accept s.rep op hash prefund referenced stakes with
  | error f =>
    have refused : runIn (admitToPool op hash prefund referenced stakes : SvcE (StateM σ) Unit) s τ = ((.error f,s),τ) := by
      unfold runIn
      rw [admitToPoolRefused accepted]
      rfl
    rw [refused] at run
    cases run
    rfl
  | ok r =>
    obtain ⟨pool,rep,adm⟩ := r
    obtain ⟨journal,ran⟩ : ∃ journal, ((admitToPool op hash prefund referenced stakes : SvcE (StateM σ) Unit).run).run s =
        pure (.ok (),{ s with pool, rep, journal }) := admitToPoolAccepted accepted
    have step : runIn (admitToPool op hash prefund referenced stakes : SvcE (StateM σ) Unit) s τ =
        ((.ok (),{ s with pool, rep, journal }),τ) := by
      unfold runIn
      rw [ran]
      rfl
    rw [step] at run
    cases run

theorem admitCheckedFailure {op : UserOperation} {s : Service} {τ : σ} {e : Fault} {s' : Service} {τ' : σ}
    (run : runIn (admitChecked b op) s τ = ((.error e,s'),τ')) : s'.pool = s.pool := by
  have kept := (chainIdOfKeeps b s τ).1
  rcases known : runSt (chainIdOf b) s τ with ⟨⟨_ | chainId,s₁⟩,τ₁⟩ <;> rw [known] at kept
  · -- no chain id: refused before anything else runs
    unfold admitChecked at run
    simp only [runInBind, runInLiftSt, known, runInThrow] at run
    obtain ⟨⟨-,rfl⟩,-⟩ := run
    exact kept
  rcases validated : (b.validate op false none).run τ₁ with ⟨_ | res,τ₂⟩
  · -- a refused validation is passed on, its code kept when it has one
    unfold admitChecked at run
    simp only [runInBind, runInLiftSt, known, runInConfig, runInLift, runInPure, validated] at run
    split at run <;> simp only [runInBind, runInThrow] at run <;> obtain ⟨⟨-,rfl⟩,-⟩ := run <;> exact kept
  rw [admitCheckedValidated b known validated] at run
  split at run
  · obtain ⟨⟨-,rfl⟩,-⟩ := run
    exact kept
  · rw [admitToPoolFailure run]
    exact kept

/-- An admission that fails leaves the pool as it was. Once the chain id is known and the
validator has answered, while the clock and the reported seconds stay inside the count, the
admission refuses a failed signature, then an operation whose `validUntil` is set and less than
30 seconds after now, then one whose `validAfter` is set and after now, compared to the
nanosecond, and otherwise hands the operation to the pool. -/
theorem admissionWindowExact (op : UserOperation) (s : Service) (τ : σ) :
    (∀ e s' τ', runIn (admitChecked b op) s τ = ((.error e,s'),τ') → s'.pool = s.pool) ∧
    ∀ chainId s₁ τ₁ res τ₂, runSt (chainIdOf b) s τ = ((.ok chainId,s₁),τ₁) →
      (b.validate op false none).run τ₁ = (.ok res,τ₂) → s.settings.now.unixSecond + 30 ≤ maxUnixSecond →
      res.returnInfo.validUntil ≤ maxUnixSecond → res.returnInfo.validAfter ≤ maxUnixSecond →
      runIn (admitChecked b op) s τ =
        if res.returnInfo.sigFailed then
          ((.error (.ofRpc ⟨RpcError.simulateValidation, "Invalid UserOp signature or paymaster signature", []⟩),s₁),τ₂)
        else if res.returnInfo.validUntil ≠ 0 ∧
            (res.returnInfo.validUntil : Int) * 10 ^ 9 < s.settings.now.unixNanos + 30 * 10 ^ 9 then
          ((.error (.ofRpc ⟨RpcError.simulateValidation, "expires too soon",
            [("validUntil", Json.nat res.returnInfo.validUntil)]⟩),s₁),τ₂)
        else if res.returnInfo.validAfter ≠ 0 ∧ s.settings.now.unixNanos < res.returnInfo.validAfter * 10 ^ 9 then
          ((.error (.ofRpc ⟨RpcError.simulateValidation, "not yet valid",
            [("validAfter", Json.nat res.returnInfo.validAfter)]⟩),s₁),τ₂)
        else runIn (do
          admitToPool op (op.hash s.settings.config.entryPoint (some chainId)) (some res.returnInfo.prefund)
            (some res.referenced) (stakesOf op res)
          return op.hash s.settings.config.entryPoint (some chainId)) s₁ τ₂ := by
  refine ⟨fun e s' τ' run => admitCheckedFailure b run,
    fun chainId s₁ τ₁ res τ₂ known validated marginFits untilFits afterFits => ?_⟩
  have settings : s₁.settings = s.settings := by simpa [known] using (chainIdOfKeeps b s τ).2
  rw [admitCheckedValidated b known validated, settings, timeWindowFaultExact marginFits untilFits afterFits]
  split_ifs <;> rfl

theorem admissionWindowOnExpiringOperation :
    let b : Backend Sim.ScriptM := { Sim.backend .zero .absent with
      chainId := pure (.ok 1), validate := fun _ _ _ => pure (.ok { returnInfo := { validUntil := 1700000030 } }) }
    let s := Service.create { config := default, now := { Instant.ofUnix 1700000000 with nsec := 500000000 } }
    let res : Validation.Result := { returnInfo := { validUntil := 1700000030 } }
    runSt (chainIdOf b) s {} = ((.ok 1,{ s with chainId := some 1 }),{}) ∧ (b.validate {} false none).run {} = (.ok res,{}) ∧
      s.settings.now.unixSecond + 30 ≤ maxUnixSecond ∧ res.returnInfo.validUntil ≤ maxUnixSecond ∧
      res.returnInfo.validAfter ≤ maxUnixSecond ∧
      runIn (admitChecked b {}) s {} =
        ((.error (.ofRpc ⟨RpcError.simulateValidation, "expires too soon", [("validUntil", Json.nat 1700000030)]⟩),
          { s with chainId := some 1 }),{}) := by
  intro b s res
  have known : runSt (chainIdOf b) s {} = ((.ok 1,{ s with chainId := some 1 }),{}) := rfl
  have validated : (b.validate {} false none).run {} = (.ok res,{}) := rfl
  have marginFits : s.settings.now.unixSecond + 30 ≤ maxUnixSecond := by decide
  have untilFits : res.returnInfo.validUntil ≤ maxUnixSecond := by decide
  have afterFits : res.returnInfo.validAfter ≤ maxUnixSecond := by decide
  have decided := (admissionWindowExact b {} s {}).2 1 _ _ res _ known validated marginFits untilFits afterFits
  -- half a second past the clock's whole second is what makes `1700000030` too soon
  rw [if_neg (by decide), if_pos (by decide)] at decided
  exact ⟨known,validated,marginFits,untilFits,afterFits,decided⟩

end Erc4337.Service
