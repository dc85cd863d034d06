import Erc4337.Proofs.Bundle.Consider
import Erc4337.Sim.Scripted
/-! Every bundle a build returns is safe to submit: its senders are distinct, the gas its
operations' validations used plus their call gas limits stays within the bundle's budget, no
paymaster or factory it uses is banned, a throttled one is used by at most the configured number of
its operations, and no operation's validation read the storage of another sender of the pool.

An included operation is judged by the answer the validator gave it during the build:
`Backend.Validations` traces the collaborators through the build and lists the successful
validations in order, and the included entries with their answers are a sublist of that list. The
scan keeps `Pass.Safe`, the same conditions on the pass so far; the per-entity counters it keeps
bound the operations that use each entity, and that is what limits a throttled one. -/
namespace Erc4337.Bundle
open Service Mempool

structure Pass.Safe (rep : Reputation.Tracker) (cfg : BuilderConfig) (p : Pass)
    (included : List (Entry × Validation.Result)) : Prop where
  entries : included.map (·.1) = p.built.entries
  senders : p.senders = p.built.entries.map (·.op.sender)
  distinct : p.senders.Nodup
  gas : (included.map fun x => opGas x.1.op x.2).sum = p.totalGas
  budget : p.totalGas ≤ cfg.maxBundleGas.toNat
  counts : ∀ a, p.count a = (p.built.entries.map fun e => (sponsors e.op).count a).sum
  notBanned : ∀ e ∈ p.built.entries, rep.status e.op.paymaster ≠ .banned ∧ rep.status e.op.factory ≠ .banned
  throttled : ∀ a, rep.status a = .throttled →
    ((p.built.entries.filter fun e => e.op.paymaster = a ∨ e.op.factory = a).length : Int) ≤
      cfg.throttledEntityBundleCount
  storage : ∀ x ∈ included, ∀ a ∈ x.2.storageMap.entries.map (·.1), a ≠ x.1.op.sender → a ∉ p.knownSenders

theorem statusThrottledNonzero {rep : Reputation.Tracker} {a : Address} (throttled : rep.status a = .throttled) :
    a.isZero = false := by
  cases zero : a.isZero
  · rfl
  · simp [Reputation.Tracker.status, zero] at throttled

theorem usesLeSponsors {a : Address} (nonzero : a.isZero = false) (l : List Entry) :
    (l.filter fun e => e.op.paymaster = a ∨ e.op.factory = a).length ≤
      (l.map fun e => (sponsors e.op).count a).sum := by
  induction l with
  | nil => simp
  | cons e rest ih =>
    by_cases uses : e.op.paymaster = a ∨ e.op.factory = a
    · have one : 1 ≤ (sponsors e.op).count a := by
        rcases uses with same | same <;>
          simp [countSponsors, UserOperation.hasPaymaster, UserOperation.hasFactory, same, nonzero]
      simp only [List.filter_cons, uses, decide_true, if_true, List.length_cons, List.map_cons, List.sum_cons]
      omega
    · simp only [List.filter_cons, uses, decide_false, Bool.false_eq_true, if_false, List.map_cons, List.sum_cons]
      omega

theorem foreignStorageEqNone {p : Pass} {op : UserOperation} {res : Validation.Result}
    (none : p.foreignStorage op res = none) :
    ∀ a ∈ res.storageMap.entries.map (·.1), a ≠ op.sender → a ∉ p.knownSenders := by
  intro a mem other known
  obtain ⟨x,hx,rfl⟩ := List.mem_map.mp mem
  simp only [Pass.foreignStorage, Option.map_eq_none_iff, List.find?_eq_none] at none
  simpa [other, known] using none x hx

namespace Pass.Safe
variable {rep : Reputation.Tracker} {cfg : BuilderConfig} {p : Pass} {included : List (Entry × Validation.Result)}

theorem start (known : List Address) (room : 0 ≤ cfg.throttledEntityBundleCount) :
    Pass.Safe rep cfg { knownSenders := known } [] := by
  constructor
  case counts => intro a; simp [Pass.count]
  case throttled => intro a _; simpa using room
  all_goals simp

theorem ofSame (safe : p.Safe rep cfg included) {p' : Pass} (entries : p'.built.entries = p.built.entries)
    (senders : p'.senders = p.senders) (totalGas : p'.totalGas = p.totalGas)
    (counts : p'.entityCount = p.entityCount) (known : p'.knownSenders = p.knownSenders) :
    p'.Safe rep cfg included := by
  have count : ∀ a, p'.count a = p.count a := fun a => by simp [Pass.count, counts]
  refine ⟨?_,?_,?_,?_,?_,fun a => ?_,?_,?_,?_⟩
  · rw [entries]; exact safe.entries
  · rw [senders, entries]; exact safe.senders
  · rw [senders]; exact safe.distinct
  · rw [totalGas]; exact safe.gas
  · rw [totalGas]; exact safe.budget
  · rw [count, entries]; exact safe.counts a
  · rw [entries]; exact safe.notBanned
  · rw [entries]; exact safe.throttled
  · rw [known]; exact safe.storage

theorem add (safe : p.Safe rep cfg included) {e : Entry} {res : Validation.Result} {storage : StorageMap}
    {deposits : List (Address × Int)} {entityCount : List (Address × Nat)}
    (screened : p.screen rep cfg.throttledEntityBundleCount e.op = none)
    (foreign : p.foreignStorage e.op res = none) (budget : p.totalGas + opGas e.op res ≤ cfg.maxBundleGas.toNat)
    (counted : ∀ a, ({ p with deposits, entityCount } : Pass).count a = p.count a + (sponsors e.op).count a) :
    (({ p with deposits, entityCount } : Pass).add e storage (opGas e.op res)).Safe rep cfg (included ++ [(e,res)]) := by
  obtain ⟨paymasterOk,factoryOk,paymasterRoom,factoryRoom,fresh⟩ := Pass.screenEqNone.mp screened
  refine ⟨?_,?_,?_,?_,budget,fun a => ?_,fun x hx => ?_,fun a throttled => ?_,fun x hx => ?_⟩
  · simp [Pass.add, safe.entries]
  · simp [Pass.add, safe.senders]
  · exact List.nodup_append.mpr ⟨safe.distinct,List.nodup_singleton _,fun a ha b hb same => by
      rw [List.mem_singleton] at hb
      exact fresh (hb ▸ same ▸ ha)⟩
  · simp [Pass.add, safe.gas]
  · show ({ p with deposits, entityCount } : Pass).count a = _
    rw [counted, safe.counts a]
    simp [Pass.add]
  · simp only [Pass.add, List.mem_append, List.mem_singleton] at hx
    rcases hx with hx | rfl
    · exact safe.notBanned x hx
    · exact ⟨paymasterOk,factoryOk⟩
  ·
    have bounded := usesLeSponsors (statusThrottledNonzero throttled) p.built.entries
    rw [← safe.counts a] at bounded
    have before := safe.throttled a throttled
    by_cases uses : e.op.paymaster = a ∨ e.op.factory = a
    · have room : (p.count a : Int) < cfg.throttledEntityBundleCount := by
        rcases uses with rfl | rfl
        · exact paymasterRoom throttled
        · exact factoryRoom throttled
      simp only [Pass.add, List.filter_append, List.filter_singleton, uses, decide_true, cond_true,
        List.length_append, List.length_singleton]
      omega
    · simpa [Pass.add, List.filter_append, uses] using before
  · simp only [List.mem_append, List.mem_singleton] at hx
    rcases hx with hx | rfl
    · exact safe.storage x hx
    · exact foreignStorageEqNone foreign

end Pass.Safe

section
variable {σ : Type} (b : Backend (StateM σ))

theorem scanSafe {cfg : BuilderConfig} (l : List Entry) {p : Pass} {s : Service} {τ : σ}
    {r : Except Fault Pass} {s' : Service} {τ' : σ} (run : runSt (scan b cfg p l) s τ = ((r,s'),τ'))
    {included : List (Entry × Validation.Result)} (safe : p.Safe s.rep cfg included) {p'' : Pass}
    (ok : r = .ok p'') :
    p''.knownSenders = p.knownSenders ∧
      ∃ answered more, b.Validations τ answered τ' ∧ more.Sublist answered ∧ p''.Safe s.rep cfg (included ++ more) := by
  -- a consideration writes only the journal, so every step is judged by the reputation the scan started from
  obtain ⟨answered,more,trace,sub,-,safe'',known⟩ :=
    scanKeeps b (fun s1 q included _ => s1.rep = s.rep ∧ q.Safe s.rep cfg included ∧ q.knownSenders = p.knownSenders)
      (fun ⟨rep,safe,known⟩ considered => by
        have kept := (considerKeeps b considered).2
        refine ⟨fun other _ _ _ => ?_,fun res τ1 valid included => ?_⟩
        · obtain ⟨-,⟨deposits,rfl⟩,-⟩ := considerOther b considered other
          exact ⟨kept.trans rep,safe.ofSame rfl rfl rfl rfl rfl,known⟩
        · subst included
          obtain ⟨-,res',τ1',deposits,entityCount,storage,valid',-,screened,foreign,budget,counted,rfl⟩ :=
            considerInclude b considered
          rw [valid, Prod.mk.injEq, Except.ok.injEq] at valid'
          obtain ⟨rfl,rfl⟩ := valid'
          exact ⟨kept.trans rep,safe.add (rep ▸ screened) foreign budget counted,known⟩)
      l run ⟨rfl,safe,rfl⟩ ok
  exact ⟨known,answered,more,trace,sub,safe''⟩

/-- Every bundle a build returns is safe to submit, whatever the collaborators answer: its senders
are distinct, the gas its validations used plus the call gas limits is within the budget, it uses
no banned paymaster or factory and a throttled one at most the configured number of times, and no
validation of it read the storage of another sender of the pool. Each operation is judged by the
answer the validator gave it during the build, and by the reputation, settings and pool the build
started from. -/
theorem buildSafe {s : Service} {entries : List Entry} {τ : σ} {r : Except Fault Built} {s' : Service} {τ' : σ}
    (run : runSt (build b entries) s τ = ((r,s'),τ')) {built : Built} (ok : r = .ok built) :
    let cfg := s.settings.config.builder.withDefaults
    ∃ answered included : List (Entry × Validation.Result), b.Validations τ answered τ' ∧ included.Sublist answered ∧
      included.map (·.1) = built.entries ∧
      (built.entries.map (·.op.sender)).Nodup ∧
      (included.map fun x => x.2.returnInfo.preOpGas + x.1.op.callGasLimit.getD 0).sum ≤ cfg.maxBundleGas.toNat ∧
      (∀ e ∈ built.entries, s.rep.status e.op.paymaster ≠ .banned ∧ s.rep.status e.op.factory ≠ .banned) ∧
      (∀ a, s.rep.status a = .throttled →
        ((built.entries.filter fun e => e.op.paymaster = a ∨ e.op.factory = a).length : Int) ≤
          cfg.throttledEntityBundleCount) ∧
      ∀ x ∈ included, ∀ a ∈ x.2.storageMap.entries.map (·.1), a ≠ x.1.op.sender →
        ∀ y ∈ s.pool.entries, y.op.sender ≠ a := by
  intro cfg
  let start : Pass := { knownSenders := s.pool.knownSenders }
  have room : 0 ≤ cfg.throttledEntityBundleCount := by
    simp only [cfg, BuilderConfig.withDefaults, defaultThrottledEntityBundleCount]
    split <;> omega
  simp only [build, runStBind, runStConfig, runStGet] at run
  rcases scanned : runSt (scan b cfg start entries) s τ with ⟨⟨r1,s1⟩,τ1⟩
  simp only [cfg, start] at scanned
  simp only [scanned] at run
  cases r1 with
  | error f =>
    simp only [runStPure, Prod.mk.injEq] at run
    obtain ⟨⟨rfl,rfl⟩,rfl⟩ := run
    cases ok
  | ok p =>
    simp only [runStRevertAll, runStBind, runStLog, runStPure, Prod.mk.injEq] at run
    obtain ⟨⟨rfl,rfl⟩,rfl⟩ := run
    cases ok
    obtain ⟨known,answered,included,trace,sub,safe⟩ :=
      scanSafe b entries scanned (Pass.Safe.start s.pool.knownSenders room) rfl
    rw [List.nil_append] at safe
    have gas := safe.budget
    rw [← safe.gas] at gas
    refine ⟨answered,included,trace,sub,safe.entries,safe.senders ▸ safe.distinct,gas,safe.notBanned,
      safe.throttled,fun x hx a ha other y hy same => ?_⟩
    have foreign := safe.storage x hx a ha other
    rw [known] at foreign
    exact foreign (List.mem_map.mpr ⟨y,hy,same⟩)

end

theorem buildSafeOnThrottledBatch :
    let paymaster : Address := .ofNat 0x80
    let op := fun (sender : Nat) (n : Int) => ({ sender := .ofNat sender, nonce := some n } : UserOperation)
    let offer := fun (o : UserOperation) (h : Nat) =>
      Op.accept (Reputation.Tracker.create {}) o (.ofNat h) none none { sender := {} }
    let created := Service.create { config := { (default : Config.Bundler) with builder := { throttledEntityBundleCount := 1 } } }
    let pool := created.pool.step (offer { op 16 0 with paymaster } 1) |>.step (offer { op 17 0 with paymaster } 2)
      |>.step (offer (op 18 0) 3) |>.step (offer (op 19 0) 4) |>.step (offer (op 16 1) 5) |>.step .takeAll
    let s := { created with pool, rep := (Reputation.Tracker.create {}).setReputation [(paymaster, { opsSeen := 200 })] }
    let τ : Sim.Script :=
      { bySender := [(.ofNat 18, .accept { storageMap :=
          ⟨[(.ofNat 16, .slots [(.ofNat 1, .ofNat 2)] (List.pairwise_singleton _ _))], List.pairwise_singleton _ _⟩ })]
        chain := { deposits := [(paymaster, 1000000000000000000)] } }
    let run := runSt (build (Sim.backend .zero .absent) s.pool.entries) s τ
    let cfg := s.settings.config.builder.withDefaults
    s.rep.status paymaster = .throttled ∧
    ∃ built : Built, run.1.1 = .ok built ∧ built.entries.map (·.hash) = [.ofNat 1, .ofNat 4] ∧
      built.deferred = [.ofNat 2, .ofNat 3, .ofNat 5] ∧
      ∃ answered included : List (Entry × Validation.Result),
        (Sim.backend .zero .absent).Validations τ answered run.2 ∧ included.Sublist answered ∧
        included.map (·.1) = built.entries ∧
        (built.entries.map (·.op.sender)).Nodup ∧
        (included.map fun x => x.2.returnInfo.preOpGas + x.1.op.callGasLimit.getD 0).sum ≤ cfg.maxBundleGas.toNat ∧
        (∀ e ∈ built.entries, s.rep.status e.op.paymaster ≠ .banned ∧ s.rep.status e.op.factory ≠ .banned) ∧
        (∀ a, s.rep.status a = .throttled →
          ((built.entries.filter fun e => e.op.paymaster = a ∨ e.op.factory = a).length : Int) ≤
            cfg.throttledEntityBundleCount) ∧
        ∀ x ∈ included, ∀ a ∈ x.2.storageMap.entries.map (·.1), a ≠ x.1.op.sender →
          ∀ y ∈ s.pool.entries, y.op.sender ≠ a := by
  intro paymaster op offer created pool s τ
  have throttled : s.rep.status paymaster = .throttled := by decide +kernel
  -- the throttled paymaster's second operation, the read of sender 16's storage by sender 18, and
  -- sender 16's second operation are deferred
  have decided : ((runSt (build (Sim.backend .zero .absent) s.pool.entries) s τ).1.1.toOption.any
      fun built => built.entries.map (·.hash) == [.ofNat 1, .ofNat 4] &&
        built.deferred == [.ofNat 2, .ofNat 3, .ofNat 5]) = true := by decide +kernel
  generalize ran : runSt (build (Sim.backend .zero .absent) s.pool.entries) s τ = out at decided ⊢
  obtain ⟨⟨r,s'⟩,τ'⟩ := out
  cases r with
  | error f => cases decided
  | ok built =>
    change (built.entries.map (·.hash) == [.ofNat 1, .ofNat 4] &&
      built.deferred == [.ofNat 2, .ofNat 3, .ofNat 5]) = true at decided
    simp only [Bool.and_eq_true, beq_iff_eq] at decided
    exact ⟨throttled,built,rfl,decided.1,decided.2,buildSafe (Sim.backend .zero .absent) ran rfl⟩

end Erc4337.Bundle
