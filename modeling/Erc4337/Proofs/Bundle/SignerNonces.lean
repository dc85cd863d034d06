import Erc4337.Proofs.Bundle.Submission
import Erc4337.Proofs.Bundle.Blame
import Erc4337.Proofs.Chain.Nonces
/-! The signer's nonces across sends. Until the transport answers, a send only reads the signer's
nonce cache: claiming, building and making the transaction ready all keep it (`KeepsNonces`), and
the transaction is prepared with the nonce `next` gives from the cache and the node's nonce. The
transport's answer then commits that nonce or resets the cache.

Between two accepted sends with no refused send in between, the second transaction's nonce is
above the first's, as long as the first is below the largest 64-bit nonce: the first send leaves
a cached nonce above its own (`Committed`), every step between keeps it, and the second send reads
it. -/
namespace Erc4337.Bundle
open Erc4337.Service Mempool NonceTracker

section
variable {σ : Type}

def KeepsNonces {α : Type} (x : SvcE (StateM σ) α) : Prop := ∀ s τ, (runIn x s τ).1.2.nonces = s.nonces

namespace KeepsNonces
variable {α β : Type}

theorem bind {x : SvcE (StateM σ) α} {f : α → SvcE (StateM σ) β} (first : KeepsNonces x)
    (rest : ∀ a, KeepsNonces (f a)) : KeepsNonces (x >>= f) := by
  intro s τ
  have kept := first s τ
  rw [runInBind]
  rcases ran : runIn x s τ with ⟨⟨_ | a,s'⟩,τ'⟩ <;> rw [ran] at kept
  · exact kept
  · exact (rest a s' τ').trans kept

theorem peel {x : SvcE (StateM σ) α} {f : α → SvcE (StateM σ) β} {s : Service} {τ : σ} {v : β} {s' : Service}
    {τ' : σ} (keeps : KeepsNonces x) (run : runIn (x >>= f) s τ = ((.ok v,s'),τ')) :
    ∃ a s₁ τ₁, s₁.nonces = s.nonces ∧ runIn (f a) s₁ τ₁ = ((.ok v,s'),τ') := by
  obtain ⟨a,s₁,τ₁,first,rest⟩ := runInBindOk run
  have kept := keeps s τ
  rw [first] at kept
  exact ⟨a,s₁,τ₁,kept,rest⟩

theorem ofPure (a : α) : KeepsNonces (pure a : SvcE (StateM σ) α) := fun _ _ => rfl

theorem ofGet : KeepsNonces (get : SvcE (StateM σ) Service) := fun _ _ => rfl

theorem ofConfig : KeepsNonces (config : SvcE (StateM σ) Config.Bundler) := fun _ _ => rfl

theorem ofFreshBundleId : KeepsNonces (freshBundleId : SvcE (StateM σ) String) := fun _ _ => rfl

theorem ofLog (level : Log.Level) (msg : String) (kv : List String) :
    KeepsNonces (log level msg kv : SvcE (StateM σ) Unit) := fun _ _ => rfl

theorem ofSt {x : SvcM (StateM σ) α} (keeps : ∀ s τ, (runSt x s τ).1.2.nonces = s.nonces) :
    KeepsNonces (liftM x : SvcE (StateM σ) α) := fun s τ => keeps s τ

theorem ofCallAs (pfx : String) (x : StateM σ (Except Fault α)) : KeepsNonces (callAs pfx x) := fun s τ => by
  rw [runInCallAs]

end KeepsNonces

variable (b : Backend (StateM σ))

theorem nextNonceKeeps : KeepsNonces (nextNonce b) := by
  unfold nextNonce
  refine .bind (.ofCallAs _ _) fun onChain => .bind .ofGet fun svc => ?_
  rcases svc.nonces.next b.signerAddress onChain with ⟨nonce,cached⟩
  cases cached
  · exact .ofPure nonce
  · exact .bind (.ofLog _ _ _) fun _ => .ofPure nonce

theorem prepareKeeps (cfg : SubmitterConfig) (built : Built) (beneficiary : Address) :
    KeepsNonces (prepare b cfg built beneficiary) := by
  unfold prepare
  refine .bind (.ofCallAs _ _) fun chainId => .bind (.ofCallAs _ _) fun ⟨maxFee,tip⟩ => ?_
  exact .bind (nextNonceKeeps b) fun nonce => .bind (.ofCallAs _ _) fun signed => .ofPure _

theorem selectBeneficiaryNonces (cfg : SubmitterConfig) (s : Service) (τ : σ) :
    (runSt (selectBeneficiary b cfg) s τ).1.2.nonces = s.nonces := by
  unfold selectBeneficiary
  split
  · rfl
  · simp only [runStBind, runStLift]
    cases (b.signerBalance.run τ).1 with
    | error e => rfl
    | ok balance => dsimp only; split <;> rfl

theorem readyKeeps (built : Built) : KeepsNonces (ready b built) := by
  unfold ready
  refine .bind .ofConfig fun c => .bind .ofFreshBundleId fun bundleId =>
    .bind (.ofSt (selectBeneficiaryNonces b _)) fun beneficiary => .bind (.ofLog _ _ _) fun _ => ?_
  refine .bind (fun s τ => ?_) fun _ => .ofPure _
  have kept := prepareKeeps b c.submitter.effective built beneficiary s τ
  rw [runInTryCatch]
  rcases prepared : runIn (prepare b c.submitter.effective built beneficiary) s τ with ⟨⟨_ | v,s'⟩,τ'⟩ <;>
    rw [prepared] at kept
  · simp only [runInBind, runInRevertAll, runInMetric, runInThrow, noteMetricNonces]
    exact kept
  · exact kept

theorem scanNonces {cfg : BuilderConfig} (l : List Entry) {p : Pass} {s : Service} {τ : σ}
    {r : Except Fault Pass} {s' : Service} {τ' : σ} (run : runSt (scan b cfg p l) s τ = ((r,s'),τ')) :
    s'.nonces = s.nonces := by
  induction l generalizing p s τ with
  | nil =>
    simp only [scan, runStPure, Prod.mk.injEq] at run
    obtain ⟨⟨rfl,rfl⟩,rfl⟩ := run
    rfl
  | cons e rest ih =>
    rcases considered : runIn (consider b cfg p e) s τ with ⟨⟨r1,s1⟩,τ1⟩
    have kept : s1.nonces = s.nonces := by rw [(considerCases b considered).1]
    simp only [scan, runStBind, runStExcept, considered] at run
    cases r1 with
    | error f =>
      simp only [runStRevertAll, runStBind, runStPure, Prod.mk.injEq] at run
      obtain ⟨⟨rfl,rfl⟩,rfl⟩ := run
      exact kept
    | ok out =>
      obtain ⟨d,p'⟩ := out
      cases d with
      | «include» => exact (ih run).trans kept
      | defer => exact (ih run).trans kept
      | remove =>
        simp only [runStBind, removeFromPool, runStModifyPool] at run
        exact (ih run).trans kept
      | stop =>
        simp only [runStPure, Prod.mk.injEq] at run
        obtain ⟨⟨rfl,rfl⟩,rfl⟩ := run
        exact kept

theorem buildNonces {entries : List Entry} {s : Service} {τ : σ} {r : Except Fault Built} {s' : Service} {τ' : σ}
    (run : runSt (build b entries) s τ = ((r,s'),τ')) : s'.nonces = s.nonces := by
  simp only [build, runStBind, runStConfig, runStGet] at run
  rcases scanned : runSt (scan b s.settings.config.builder.withDefaults { knownSenders := s.pool.knownSenders } entries)
    s τ with ⟨⟨r1,s1⟩,τ1⟩
  have kept := scanNonces b entries scanned
  simp only [scanned] at run
  cases r1 with
  | error f =>
    simp only [runStPure, Prod.mk.injEq] at run
    obtain ⟨⟨rfl,rfl⟩,rfl⟩ := run
    exact kept
  | ok p =>
    simp only [runStRevertAll, runStBind, runStLog, runStPure, Prod.mk.injEq] at run
    obtain ⟨⟨rfl,rfl⟩,rfl⟩ := run
    exact kept

theorem nextNonceValue {s : Service} {τ : σ} {nonce : UInt64} {s' : Service} {τ' : σ}
    (run : runIn (nextNonce b) s τ = ((.ok nonce,s'),τ')) :
    ∃ onChain, nonce = (s.nonces.next b.signerAddress onChain).1 := by
  unfold nextNonce at run
  obtain ⟨onChain,s₁,τ₁,kept,run⟩ := (KeepsNonces.ofCallAs _ _).peel run
  obtain ⟨svc,s₂,τ₂,got,run⟩ := runInBindOk run
  simp only [runInGet, Prod.mk.injEq, Except.ok.injEq] at got
  obtain ⟨⟨same,rfl⟩,rfl⟩ := got
  subst same
  refine ⟨onChain,?_⟩
  rw [← kept]
  rcases next : s₁.nonces.next b.signerAddress onChain with ⟨n,cached⟩
  simp only [next] at run
  cases cached
  · simp only [Bool.false_eq_true, if_false, runInPure, Prod.mk.injEq, Except.ok.injEq] at run
    exact run.1.1.symm
  · simp only [if_true, runInBind, runInLog, runInPure, Prod.mk.injEq, Except.ok.injEq] at run
    exact run.1.1.symm

theorem prepareNonce {cfg : SubmitterConfig} {built : Built} {beneficiary : Address} {s : Service} {τ : σ}
    {raw : List UInt8} {nonce : UInt64} {s' : Service} {τ' : σ}
    (run : runIn (prepare b cfg built beneficiary) s τ = ((.ok (raw,nonce),s'),τ')) :
    ∃ (onChain : UInt64) (tx signed : Transaction) (τ₁ : σ), nonce = (s.nonces.next b.signerAddress onChain).1 ∧ tx.nonce = nonce ∧
      ((b.sign tx).run τ₁).1 = .ok signed ∧ raw = signed.encode := by
  unfold prepare at run
  obtain ⟨chainId,s₁,τ₁,kept₁,run⟩ := (KeepsNonces.ofCallAs _ _).peel run
  obtain ⟨⟨maxFee,tip⟩,s₂,τ₂,kept₂,run⟩ := (KeepsNonces.ofCallAs _ _).peel run
  obtain ⟨nonce',s₃,τ₃,third,run⟩ := runInBindOk run
  obtain ⟨signed,s₄,τ₄,signing,run⟩ := runInBindOk run
  simp only [runInPure, Prod.mk.injEq, Except.ok.injEq] at run
  obtain ⟨⟨⟨rfl,rfl⟩,rfl⟩,rfl⟩ := run
  obtain ⟨onChain,fromNext⟩ := nextNonceValue b third
  rw [runInCallAs, Prod.mk.injEq, Prod.mk.injEq] at signing
  refine ⟨onChain,_,signed,τ₃,?_,rfl,mapErrorEqOk.mp signing.1.1,rfl⟩
  rw [fromNext, kept₂, kept₁]

theorem readyNonce {built : Built} {s : Service} {τ : σ} {cfg : SubmitterConfig} {bundleId : String}
    {raw : List UInt8} {nonce : UInt64} {s' : Service} {τ' : σ}
    (run : runIn (ready b built) s τ = ((.ok (cfg,bundleId,raw,nonce),s'),τ')) :
    ∃ (onChain : UInt64) (tx signed : Transaction) (τ₁ : σ), nonce = (s.nonces.next b.signerAddress onChain).1 ∧ tx.nonce = nonce ∧
      ((b.sign tx).run τ₁).1 = .ok signed ∧ raw = signed.encode := by
  unfold ready at run
  obtain ⟨c,s₁,τ₁,kept₁,run⟩ := KeepsNonces.ofConfig.peel run
  obtain ⟨bundleId',s₂,τ₂,kept₂,run⟩ := KeepsNonces.ofFreshBundleId.peel run
  obtain ⟨beneficiary,s₃,τ₃,kept₃,run⟩ := (KeepsNonces.ofSt (selectBeneficiaryNonces b _)).peel run
  obtain ⟨_,s₄,τ₄,kept₄,run⟩ := (KeepsNonces.ofLog _ _ _).peel run
  obtain ⟨⟨raw',nonce'⟩,s₅,τ₅,prepared,run⟩ := runInBindOk run
  simp only [runInPure, Prod.mk.injEq, Except.ok.injEq] at run
  obtain ⟨⟨⟨-,-,rfl,rfl⟩,-⟩,-⟩ := run
  rw [runInTryCatch] at prepared
  rcases ran : runIn (prepare b c.submitter.effective built beneficiary) s₄ τ₄ with ⟨⟨_ | v,sp⟩,τp⟩ <;>
    rw [ran] at prepared
  · simp only [runInBind, runInRevertAll, runInMetric, runInThrow, Prod.mk.injEq, reduceCtorEq, false_and] at prepared
  · cases prepared
    rw [← kept₁, ← kept₂, ← kept₃, ← kept₄]
    exact prepareNonce b ran

theorem settleAcceptedNonces {cfg : SubmitterConfig} {bundleId : String} {built : Built} {nonce : UInt64}
    {txHash : Hash} {s : Service} {τ : σ} {r : Except Fault Submission} {s' : Service} {τ' : σ}
    (run : runIn (settle b cfg bundleId built nonce (.ok txHash)) s τ = ((r,s'),τ')) :
    s'.nonces = s.nonces.commit b.signerAddress nonce := by
  simp only [settle, runInBind, runInModify] at run
  split at run
  · simp only [runInBind, runInLift] at run
    split at run <;> simp only [runInBind, runInMetric, runInLog, runInPure] at run <;>
      obtain ⟨⟨rfl,rfl⟩,rfl⟩ := run <;> simp only [noteMetricNonces]
  · simp only [runInBind, runInMetric, runInLog, runInPure] at run
    obtain ⟨⟨rfl,rfl⟩,rfl⟩ := run
    simp only [noteMetricNonces]

inductive Accepted (drainAll : Bool) (s : Service) (τ : σ) (nonce : UInt64) : Prop
  | mk {pool : Pool} {taken : List Entry} {built : Built} {s2 : Service} {τ2 : σ} {cfg : SubmitterConfig}
      {bundleId : String} {raw : List UInt8} {s3 : Service} {τ3 : σ} {txHash : Hash}
      (claimed : claimFrom s.pool drainAll = .ok (pool,taken)) (someClaimed : taken ≠ [])
      (builds : runSt (build b taken) { s with pool } τ = ((.ok built,s2),τ2)) (someIncluded : built.entries ≠ [])
      (readied : runIn (ready b built) s2 τ2 = ((.ok (cfg,bundleId,raw,nonce),s3),τ3))
      (accepted : ((b.send raw (cfg.assumed built)).run τ3).1 = .ok txHash)

theorem Accepted.replay {drainAll : Bool} {s : Service} {τ : σ} {nonce : UInt64}
    (accepted : Accepted b drainAll s τ nonce) :
    (∃ onChain, nonce = (s.nonces.next b.signerAddress onChain).1) ∧
      ∃ cfg bundleId built txHash s3 τ3, s3.nonces = s.nonces ∧
        runIn (sendNext b drainAll) s τ = runIn (settle b cfg bundleId built nonce (.ok txHash)) s3 τ3 := by
  cases accepted with
  | @mk pool taken built s2 τ2 cfg bundleId raw s3 τ3 txHash claimed someClaimed builds someIncluded readied sent =>
  have kept₂ : s2.nonces = s.nonces := (buildNonces b builds).trans rfl
  have kept₃ := readyKeeps b built s2 τ2
  rw [readied] at kept₃
  obtain ⟨onChain,-,-,-,fromNext,-⟩ := readyNonce b readied
  refine ⟨⟨onChain,kept₂ ▸ fromNext⟩,cfg,bundleId,built,txHash,s3,((b.send raw (cfg.assumed built)).run τ3).2,
    kept₃.trans kept₂,?_⟩
  have nonempty : s.pool.size ≠ 0 := fun empty =>
    someClaimed ((claimedByEq claimed).symm.trans (claimedByEmpty empty drainAll))
  rw [← sent]
  simp [sendNext, nonempty, claimed, someClaimed, builds, Built.isEmpty, someIncluded, readied]

theorem Accepted.commits {drainAll : Bool} {s : Service} {τ : σ} {nonce : UInt64}
    (accepted : Accepted b drainAll s τ nonce) {r : Except Fault Submission} {s' : Service} {τ' : σ}
    (run : runIn (sendNext b drainAll) s τ = ((r,s'),τ')) : s'.nonces = s.nonces.commit b.signerAddress nonce := by
  obtain ⟨-,cfg,bundleId,built,txHash,s3,τ3,kept,replayed⟩ := accepted.replay
  rw [replayed] at run
  rw [settleAcceptedNonces b run, kept]

def ReportsNothing (r : Except Fault Submission) : Prop := ∀ sub, r = .ok sub → sub.entries = []

theorem ReportsNothing.none : ReportsNothing (.ok .none) := fun _ same => by cases same; rfl

theorem ReportsNothing.error (f : Fault) : ReportsNothing (.error f) := fun _ same => by cases same

theorem handleFailureReportsNothing {bundleId : String} {built : Built} {err : Fault} {s : Service} {τ : σ}
    {r : Except Fault Submission} {s' : Service} {τ' : σ}
    (run : runIn (handleFailure bundleId built err) s τ = ((r,s'),τ')) : ReportsNothing r := by
  unfold handleFailure at run
  cases attributed : AttributedFailure.ofFault err with
  | none =>
    simp only [attributed] at run
    split at run
    · simp only [runInBind, runInThrow, Prod.mk.injEq] at run
      exact run.1.1 ▸ .error _
    · simp only [runInBind, runInLog, runInPure, Prod.mk.injEq] at run
      exact run.1.1 ▸ .none
  | some a =>
    simp only [attributed] at run
    cases culprit : built.entries[a.opIndex]? with
    | none =>
      simp only [culprit, runInBind, runInLog, runInRevertAll, runInPure, Prod.mk.injEq] at run
      exact run.1.1 ▸ .none
    | some c =>
      simp only [culprit] at run
      obtain ⟨_,s1,τ1,-,run⟩ := (Quiet.ofSt (blamePool _ _)).peel run
      simp only [runInBind, runInRemoveFromPool, runInLog, runInRevertWhere, runInPure, Prod.mk.injEq] at run
      exact run.1.1 ▸ .none

theorem sendNextCases {drainAll : Bool} {s : Service} {τ : σ} {r : Except Fault Submission} {s' : Service}
    {τ' : σ} (run : runIn (sendNext b drainAll) s τ = ((r,s'),τ')) :
    (s'.nonces = s.nonces ∧ ReportsNothing r) ∨ (∃ built f, Sent b drainAll s τ built (.error f) ∧ ReportsNothing r) ∨
      ∃ n, Accepted b drainAll s τ n ∧ s'.nonces = s.nonces.commit b.signerAddress n := by
  by_cases empty : s.pool.size = 0
  · simp only [sendNext, runInBind, runInGet, empty, beq_self_eq_true, if_true, runInPure] at run
    obtain ⟨⟨rfl,rfl⟩,rfl⟩ := run
    exact .inl ⟨rfl,.none⟩
  cases claimed : claimFrom s.pool drainAll with
  | error f =>
    simp [sendNext, empty, claimed] at run
    obtain ⟨⟨rfl,rfl⟩,rfl⟩ := run
    exact .inl ⟨rfl,.error f⟩
  | ok out =>
    obtain ⟨pool,taken⟩ := out
    by_cases none : taken = []
    · subst none
      simp [sendNext, empty, claimed] at run
      obtain ⟨⟨rfl,rfl⟩,rfl⟩ := run
      exact .inl ⟨rfl,.none⟩
    rcases builds : runSt (build b taken) { s with pool } τ with ⟨⟨attempt,s2⟩,τ2⟩
    have kept₂ : s2.nonces = s.nonces := (buildNonces b builds).trans rfl
    cases attempt with
    | error f =>
      simp [sendNext, empty, claimed, none, builds] at run
      obtain ⟨⟨rfl,rfl⟩,rfl⟩ := run
      exact .inl ⟨(noteMetricNonces _ _).trans kept₂,.error f⟩
    | ok built =>
    by_cases noneIncluded : built.entries = []
    · simp [sendNext, empty, claimed, none, builds, Built.isEmpty, noneIncluded] at run
      obtain ⟨⟨rfl,rfl⟩,rfl⟩ := run
      exact .inl ⟨kept₂,.none⟩
    rcases readied : runIn (ready b built) s2 τ2 with ⟨⟨prepared,s3⟩,τ3⟩
    have kept₃ := readyKeeps b built s2 τ2
    rw [readied] at kept₃
    cases prepared with
    | error f =>
      simp [sendNext, empty, claimed, none, builds, Built.isEmpty, noneIncluded, readied] at run
      obtain ⟨⟨rfl,rfl⟩,rfl⟩ := run
      exact .inl ⟨kept₃.trans kept₂,.error f⟩
    | ok ready =>
    obtain ⟨cfg,bundleId,raw,nonce⟩ := ready
    have sent : Sent b drainAll s τ built ((b.send raw (cfg.assumed built)).run τ3).1 :=
      ⟨claimed,none,builds,noneIncluded,readied⟩
    simp [sendNext, empty, claimed, none, builds, Built.isEmpty, noneIncluded, readied] at run
    cases answer : ((b.send raw (cfg.assumed built)).run τ3).1 with
    | error f =>
      rw [answer] at run
      simp only [settle] at run
      obtain ⟨_,s4,τ4,-,run⟩ := (Quiet.ofSt (resetNoncePool _)).peel run
      obtain ⟨_,s5,τ5,-,run⟩ := (Quiet.ofMetric _).peel run
      exact .inr (.inl ⟨built,f,answer ▸ sent,handleFailureReportsNothing run⟩)
    | ok txHash =>
      rw [answer] at run
      exact .inr (.inr ⟨nonce,⟨claimed,none,builds,noneIncluded,readied,answer⟩,
        (settleAcceptedNonces b run).trans (by rw [kept₃, kept₂])⟩)

theorem acceptedOfReport {drainAll : Bool} {s : Service} {τ : σ} {sub : Submission} {s' : Service} {τ' : σ}
    (run : runIn (sendNext b drainAll) s τ = ((.ok sub,s'),τ')) (named : sub.entries ≠ []) :
    ∃ n, Accepted b drainAll s τ n ∧ s'.nonces = s.nonces.commit b.signerAddress n := by
  rcases sendNextCases b run with ⟨-,nothing⟩ | ⟨-,-,-,nothing⟩ | accepted
  · exact (named (nothing sub rfl)).elim
  · exact (named (nothing sub rfl)).elim
  · exact accepted

inductive Unrefused : Service → Service → Prop
  | refl (s : Service) : Unrefused s s
  | send {s s1 s2 : Service} (drainAll : Bool) (τ : σ) {r : Except Fault Submission} {τ1 : σ}
      (run : runIn (sendNext b drainAll) s τ = ((r,s1),τ1)) (unrefused : ∀ built f, ¬Sent b drainAll s τ built (.error f))
      (rest : Unrefused s1 s2) : Unrefused s s2
  | other {s s1 s2 : Service} (keeps : s1.nonces = s.nonces) (rest : Unrefused s1 s2) : Unrefused s s2

theorem Unrefused.committed {s s2 : Service} {n : UInt64} (between : Unrefused b s s2) :
    Committed n b.signerAddress s.nonces → Committed n b.signerAddress s2.nonces := by
  induction between with
  | refl => exact id
  | send drainAll τ run unrefused rest ih =>
    intro committed
    apply ih
    rcases sendNextCases b run with ⟨same,-⟩ | ⟨built,f,refused,-⟩ | ⟨m,-,commit⟩
    · exact same ▸ committed
    · exact (unrefused built f refused).elim
    · have step : Committed n b.signerAddress (NonceTracker.apply _ (.commit b.signerAddress m)) :=
        committed.apply (by simp)
      exact commit ▸ step
  | other keeps rest ih => exact fun committed => ih (keeps ▸ committed)

end

/-- Signer nonces never go back between resets. On the tracker, over any history of calls: the
nonce `next` gives is at least the node's, and after a commit of `m` below the largest nonce every
`next` for that signer gives more than `m` until a reset of it. In the service: of two accepted
sends with no refused send between them, the second transaction's nonce is above the first's when
the first is below the largest nonce, whatever the collaborators answer. -/
theorem noncesAdvanceAcrossSends (t : NonceTracker) (pre mid : List Call) (a : Address) (m onChain : UInt64)
    {σ : Type} (b : Backend (StateM σ)) (drainAll drainAll' : Bool) (s s1 s2 : Service) (τ τ1 τ2 : σ)
    (r : Except Fault Submission) (n n' : UInt64) :
    onChain ≤ (t.next a onChain).1 ∧
    (m.toNat < 2 ^ 64 - 1 → (∀ x ∈ mid, x ≠ .reset a) → m < ((t.run (pre ++ .commit a m :: mid)).next a onChain).1) ∧
    (Accepted b drainAll s τ n → runIn (sendNext b drainAll) s τ = ((r,s1),τ1) → Unrefused b s1 s2 →
      Accepted b drainAll' s2 τ2 n' → n.toNat < 2 ^ 64 - 1 → n < n') := by
  refine ⟨noncesAdvance.1 t a onChain,noncesAdvance.2 t pre mid a m onChain,fun first run between second room => ?_⟩
  -- the first send leaves a cached nonce above `n`, the steps between keep it, the second reads it
  have committed : Committed n b.signerAddress s1.nonces := by
    rw [first.commits b run]
    exact Committed.ofCommit room
  obtain ⟨⟨onChain',fromNext⟩,-⟩ := second.replay b
  rw [fromNext]
  exact (between.committed b committed).next onChain'

theorem noncesAdvanceOverTwoSends :
    let pool := ((Pool.create { batchLimit := 1 }).step
        (.accept (Reputation.Tracker.create {}) { sender := .ofNat 16 } (.ofNat 1) none none { sender := {} })).step
        (.accept (Reputation.Tracker.create {}) { sender := .ofNat 17 } (.ofNat 2) none none { sender := {} })
    let s : Service := { Service.create { config := default } with pool }
    let b := Sim.backend .zero .absent
    (0 : UInt64) < ((NonceTracker.run {} [.commit .zero 0]).next .zero 0).1 ∧
    ∃ (n n' : UInt64) (r : Except Fault Submission) (s1 : Service) (τ1 : Sim.Script),
      Accepted b false s {} n ∧ runIn (sendNext b false) s {} = ((r,s1),τ1) ∧ Unrefused b s1 s1 ∧
        Accepted b false s1 {} n' ∧ n.toNat < 2 ^ 64 - 1 ∧ n < n' := by
  intro pool s b
  have reported₁ : (match (runIn (sendNext b false) s {}).1.1 with
      | .ok sub => !sub.entries.isEmpty
      | .error _ => false) = true := by decide +kernel
  have cached₁ : (runIn (sendNext b false) s {}).1.2.nonces.pending = [(.zero,1)] := by decide +kernel
  have reported₂ : (match (runIn (sendNext b false) (runIn (sendNext b false) s {}).1.2 {}).1.1 with
      | .ok sub => !sub.entries.isEmpty
      | .error _ => false) = true := by decide +kernel
  generalize ran₁ : runIn (sendNext b false) s {} = out₁ at reported₁ cached₁ reported₂
  obtain ⟨⟨r,s1⟩,τ1⟩ := out₁
  generalize ran₂ : runIn (sendNext b false) s1 {} = out₂ at reported₂
  obtain ⟨⟨r',s2⟩,τ2⟩ := out₂
  cases r with
  | error f => cases reported₁
  | ok sub =>
  cases r' with
  | error f => cases reported₂
  | ok sub' =>
  obtain ⟨n,accepted₁,commit₁⟩ := acceptedOfReport b ran₁ (by simpa using reported₁)
  obtain ⟨n',accepted₂,-⟩ := acceptedOfReport b ran₂ (by simpa using reported₂)
  have first : n = 0 := by
    rw [commit₁] at cached₁
    simp [NonceTracker.commit, NonceTracker.cached?, s, Service.create] at cached₁
    exact cached₁.2
  subst first
  have advance := noncesAdvanceAcrossSends {} [] [] .zero 0 0 b false false s s1 s1 {} τ1 {} (.ok sub) 0 n'
  exact ⟨advance.2.1 (by decide) (by simp),0,n',.ok sub,s1,τ1,accepted₁,rfl,.refl s1,accepted₂,by decide,
    advance.2.2 accepted₁ ran₁ (.refl s1) accepted₂ (by decide)⟩

end Erc4337.Bundle
