import Erc4337.Proofs.Bundle.Settled
/-! Sending a bundle releases its claims. A send claims pending entries, builds a bundle from
them, makes the bundle's transaction ready and hands it to the transport. Whatever the
collaborators answer, an entry the send claimed is still claimed afterwards exactly when the
bundle included it and the transport accepted the transaction or refused it without naming an
operation of it; every other claimed entry is pending or has left the pool, and the entries the
send did not claim are as they were. This holds in every pool whose admissions never reused a
hash of another entry.

Every path of a send ends in a `Settled` state (`sendSettles`). `Sent` names a run that reached
the transport, so that the statement can speak of the transport's answer; such a run replays to
its answer (`Sent.replay`), which decides what stays claimed. -/
namespace Erc4337.Bundle
open Service Mempool

def leavesClaimed : Except Fault Hash → Bool
  | .ok _ => true
  | .error f => (AttributedFailure.ofFault f).isNone

section
variable {σ : Type} (b : Backend (StateM σ))

theorem callAsKeepsPool {α : Type} (pfx : String) (x : StateM σ (Except Fault α)) : KeepsPool (callAs pfx x) := by
  unfold callAs
  exact .bind (Quiet.ofLift x).keepsPool fun r => by cases r <;> exact fun _ _ => rfl

theorem nextNonceKeepsPool : KeepsPool (nextNonce b) := by
  unfold nextNonce
  refine .bind (callAsKeepsPool _ _) fun onChain => .bind Quiet.ofGet.keepsPool fun svc => ?_
  rcases svc.nonces.next b.signerAddress onChain with ⟨nonce,cached⟩
  cases cached
  · exact .ofPure nonce
  · exact .bind (Quiet.ofLog _ _ _).keepsPool fun _ => .ofPure nonce

theorem prepareKeepsPool (cfg : SubmitterConfig) (built : Built) (beneficiary : Address) :
    KeepsPool (prepare b cfg built beneficiary) := by
  unfold prepare
  refine .bind (callAsKeepsPool _ _) fun chainId => .bind (callAsKeepsPool _ _) fun ⟨maxFee,tip⟩ => ?_
  exact .bind (nextNonceKeepsPool b) fun nonce => .bind (callAsKeepsPool _ _) fun signed => .ofPure _

theorem selectBeneficiaryPool (cfg : SubmitterConfig) (s : Service) (τ : σ) :
    (runSt (selectBeneficiary b cfg) s τ).1.2.pool = s.pool := by
  unfold selectBeneficiary
  split
  · rfl
  · simp only [runStBind, runStLift]
    cases (b.signerBalance.run τ).1 with
    | error e => rfl
    | ok balance => dsimp only; split <;> rfl

theorem recordCrashedPool (a : Address) (s : Service) (τ : σ) :
    (runSt (recordCrashed a : SvcM (StateM σ) Unit) s τ).1.2.pool = s.pool := by
  unfold recordCrashed
  split <;> rfl

theorem resetNoncePool (a : Address) (s : Service) (τ : σ) :
    (runSt (resetNonce a : SvcM (StateM σ) Unit) s τ).1.2.pool = s.pool := rfl

theorem blamePool (role : String) (op : UserOperation) (s : Service) (τ : σ) :
    (runSt (blame role op : SvcM (StateM σ) Unit) s τ).1.2.pool = s.pool := by
  unfold blame
  cases blamedEntity role op with
  | none => rfl
  | some a => simp only [runStBind, runStMetric, Service.noteMetricPool, recordCrashedPool]

theorem readyCases {built : Built} {s : Service} {τ : σ}
    {r : Except Fault (SubmitterConfig × String × List UInt8 × UInt64)} {s' : Service} {τ' : σ}
    (run : runIn (ready b built) s τ = ((r,s'),τ')) :
    (∀ v, r = .ok v → s'.pool = s.pool) ∧
      ∀ f, r = .error f → s'.pool = (built.entries.map (·.hash)).foldl (fun q h => q.revert h) s.pool := by
  unfold ready at run
  obtain ⟨config,s1,τ1,pool1,run⟩ := Quiet.ofConfig.peel run
  obtain ⟨bundleId,s2,τ2,pool2,run⟩ := Quiet.ofFreshBundleId.peel run
  obtain ⟨beneficiary,s3,τ3,pool3,run⟩ := (Quiet.ofSt (selectBeneficiaryPool b _)).peel run
  obtain ⟨_,s4,τ4,pool4,run⟩ := (Quiet.ofLog _ _ _).peel run
  have kept := prepareKeepsPool b config.submitter.effective built beneficiary s4 τ4
  rw [runInBind, runInTryCatch] at run
  rcases prepared : runIn (prepare b config.submitter.effective built beneficiary) s4 τ4 with
    ⟨⟨_ | ⟨raw,nonce⟩,sp⟩,τp⟩ <;> rw [prepared] at run kept
  ·
    simp only [runInBind, runInRevertAll, runInMetric, runInThrow] at run
    obtain ⟨⟨rfl,rfl⟩,rfl⟩ := run
    refine ⟨fun v same => (by cases same),fun f _ => ?_⟩
    simp only [Service.noteMetricPool, foldRevertHash]
    rw [kept, pool4, pool3, pool2, pool1]
  · simp only [runInPure] at run
    obtain ⟨⟨rfl,rfl⟩,rfl⟩ := run
    exact ⟨fun _ _ => by rw [kept, pool4, pool3, pool2, pool1],fun f same => (by cases same)⟩

theorem handleFailureSettles {taken : List Entry} {p : Pool} {bundleId : String} {built : Built} {f : Fault}
    {s : Service} (st : Settled taken built.entries p s.pool) (sub : ∀ e ∈ built.entries, e.hash ∈ taken.map (·.hash))
    {τ : σ} {r : Except Fault Submission} {s' : Service} {τ' : σ}
    (run : runIn (handleFailure bundleId built f) s τ = ((r,s'),τ')) :
    Settled taken (if (AttributedFailure.ofFault f).isNone then built.entries else []) p s'.pool := by
  unfold handleFailure at run
  cases attributed : AttributedFailure.ofFault f with
  | none =>
    simp only [attributed] at run
    split at run
    · simp only [runInBind, runInThrow] at run
      obtain ⟨⟨rfl,rfl⟩,rfl⟩ := run
      exact st
    · simp only [runInBind, runInLog, runInPure] at run
      obtain ⟨⟨rfl,rfl⟩,rfl⟩ := run
      exact st
  | some a =>
    simp only [attributed] at run
    simp only [Option.isNone_some, Bool.false_eq_true, if_false]
    cases culprit : built.entries[a.opIndex]? with
    | none =>
      simp only [culprit, runInBind, runInLog, runInRevertAll, runInPure] at run
      obtain ⟨⟨rfl,rfl⟩,rfl⟩ := run
      have released := st.revertAll (built.entries.map (·.hash)) (by simpa using sub)
      rw [List.filter_eq_nil_iff.mpr fun e he => by simpa using ⟨e,he,rfl⟩] at released
      simpa [foldRevertHash] using released
    | some c =>
      simp only [culprit] at run
      obtain ⟨_,s1,τ1,pool1,run⟩ := (Quiet.ofSt (blamePool _ _)).peel run
      simp only [runInBind, runInRemoveFromPool, runInLog, runInRevertWhere, runInPure] at run
      obtain ⟨⟨rfl,rfl⟩,rfl⟩ := run
      have st1 : Settled taken built.entries p s1.pool := pool1 ▸ st
      have fromBundle : ∀ h ∈ (built.entries.zipIdx.filter (·.2 != a.opIndex)).map (·.1.hash),
          h ∈ taken.map (·.hash) := by
        intro h hh
        obtain ⟨⟨e,i⟩,mem,rfl⟩ := List.mem_map.mp hh
        exact sub e (List.mem_of_getElem? (List.mem_zipIdx_iff_getElem?.mp (List.mem_filter.mp mem).1))
      have released := (st1.remove (sub c (List.mem_of_getElem? culprit))).revertAll _ fromBundle
      have none : ((built.entries.filter fun e => e.hash ≠ c.hash).filter
          fun e => e.hash ∉ (built.entries.zipIdx.filter (·.2 != a.opIndex)).map (·.1.hash)) = [] := by
        refine List.filter_eq_nil_iff.mpr fun e he => ?_
        obtain ⟨inBundle,other⟩ := List.mem_filter.mp he
        obtain ⟨i,lt,rfl⟩ := List.getElem_of_mem inBundle
        have notCulprit : i ≠ a.opIndex := by
          rintro rfl
          rw [List.getElem?_eq_getElem lt, Option.some.injEq] at culprit
          simp [culprit] at other
        simp only [decide_not, Bool.not_eq_true', decide_eq_false_iff_not, not_not]
        exact List.mem_map.mpr ⟨(built.entries[i],i),List.mem_filter.mpr
          ⟨List.mem_zipIdx_iff_getElem?.mpr (by simp),by simpa using notCulprit⟩,rfl⟩
      rw [none] at released
      simpa [List.foldl_map] using released

theorem settleAccepted {cfg : SubmitterConfig} {bundleId : String} {built : Built} {nonce : UInt64} {txHash : Hash}
    {s : Service} {τ : σ} {r : Except Fault Submission} {s' : Service} {τ' : σ}
    (run : runIn (settle b cfg bundleId built nonce (.ok txHash)) s τ = ((r,s'),τ')) :
    s'.pool = s.pool ∧ ∃ opHashes, r = .ok { bundleId, txHash, opHashes, entries := built.entries } := by
  simp only [settle, runInBind, runInModify] at run
  split at run
  · simp only [runInBind, runInLift] at run
    split at run <;> simp only [runInBind, runInMetric, runInLog, runInPure] at run <;>
      obtain ⟨⟨rfl,rfl⟩,rfl⟩ := run <;> exact ⟨by simp,_,rfl⟩
  · simp only [runInBind, runInMetric, runInLog, runInPure] at run
    obtain ⟨⟨rfl,rfl⟩,rfl⟩ := run
    exact ⟨by simp,_,rfl⟩

theorem settleSettles {taken : List Entry} {p : Pool} {cfg : SubmitterConfig} {bundleId : String} {built : Built}
    {nonce : UInt64} {answer : Except Fault Hash} {s : Service} (st : Settled taken built.entries p s.pool)
    (sub : ∀ e ∈ built.entries, e.hash ∈ taken.map (·.hash)) {τ : σ} {r : Except Fault Submission} {s' : Service}
    {τ' : σ} (run : runIn (settle b cfg bundleId built nonce answer) s τ = ((r,s'),τ')) :
    Settled taken (if leavesClaimed answer then built.entries else []) p s'.pool := by
  cases answer with
  | error f =>
    simp only [settle] at run
    obtain ⟨_,s1,τ1,pool1,run⟩ := (Quiet.ofSt (resetNoncePool _)).peel run
    obtain ⟨_,s2,τ2,pool2,run⟩ := (Quiet.ofMetric _).peel run
    exact handleFailureSettles (pool2.trans pool1 ▸ st) sub run
  | ok txHash =>
    simp only [leavesClaimed, if_true]
    exact (settleAccepted b run).1 ▸ st

inductive Sent (drainAll : Bool) (s : Service) (τ : σ) : Built → Except Fault Hash → Prop
  | mk {pool : Pool} {taken : List Entry} {built : Built} {s2 : Service} {τ2 : σ} {cfg : SubmitterConfig}
      {bundleId : String} {raw : List UInt8} {nonce : UInt64} {s3 : Service} {τ3 : σ}
      (claimed : claimFrom s.pool drainAll = .ok (pool,taken)) (someClaimed : taken ≠ [])
      (builds : runSt (build b taken) { s with pool } τ = ((.ok built,s2),τ2)) (someIncluded : built.entries ≠ [])
      (readied : runIn (ready b built) s2 τ2 = ((.ok (cfg,bundleId,raw,nonce),s3),τ3)) :
      Sent drainAll s τ built ((b.send raw (cfg.assumed built)).run τ3).1

theorem Sent.replay {drainAll : Bool} {s : Service} {τ : σ} {built : Built} {answer : Except Fault Hash}
    (wf : s.pool.WellFormed) (sent : Sent b drainAll s τ built answer) :
    ∃ cfg bundleId nonce s3 τ3, built.entries.Sublist (claimedBy s.pool drainAll) ∧
      Settled (claimedBy s.pool drainAll) built.entries s.pool s3.pool ∧
      runIn (sendNext b drainAll) s τ = runIn (settle b cfg bundleId built nonce answer) s3 τ3 := by
  cases sent with
  | @mk pool taken built s2 τ2 cfg bundleId raw nonce s3 τ3 claimed someClaimed builds someIncluded readied =>
  rw [claimedByEq claimed]
  obtain ⟨distinct,-⟩ := claimFromEntries wf claimed
  obtain ⟨sub,settled⟩ := (buildSettles b (Settled.claim wf claimed) distinct builds).1 _ rfl
  refine ⟨cfg,bundleId,nonce,s3,((b.send raw (cfg.assumed built)).run τ3).2,sub,
    (readyCases b readied).1 _ rfl ▸ settled,?_⟩
  have nonempty : s.pool.size ≠ 0 := fun empty =>
    someClaimed ((claimedByEq claimed).symm.trans (claimedByEmpty empty drainAll))
  simp [sendNext, nonempty, claimed, someClaimed, builds, Built.isEmpty, someIncluded, readied]

theorem sendSettles {drainAll : Bool} {s : Service} (wf : s.pool.WellFormed) {τ : σ} {r : Except Fault Submission}
    {s' : Service} {τ' : σ} (run : runIn (sendNext b drainAll) s τ = ((r,s'),τ')) :
    ∃ kept, kept.Sublist (claimedBy s.pool drainAll) ∧ Settled (claimedBy s.pool drainAll) kept s.pool s'.pool ∧
      ∀ e ∈ kept, ∃ built answer, Sent b drainAll s τ built answer ∧ e ∈ built.entries ∧
        leavesClaimed answer := by
  by_cases empty : s.pool.size = 0
  ·
    simp only [sendNext, runInBind, runInGet, empty, beq_self_eq_true, if_true, runInPure] at run
    obtain ⟨⟨rfl,rfl⟩,rfl⟩ := run
    rw [claimedByEmpty empty]
    exact ⟨[],.slnil,⟨wf,.refl _ _,by simp,by simp⟩,by simp⟩
  cases claimed : claimFrom s.pool drainAll with
  | error f =>
    simp [sendNext, empty, claimed] at run
    obtain ⟨⟨rfl,rfl⟩,rfl⟩ := run
    simp only [claimedBy, claimed]
    exact ⟨[],.slnil,.nothingClaimed wf,by simp⟩
  | ok out =>
    obtain ⟨pool,taken⟩ := out
    rw [claimedByEq claimed]
    have st := Settled.claim wf claimed
    obtain ⟨distinct,-⟩ := claimFromEntries wf claimed
    by_cases none : taken = []
    ·
      subst none
      simp [sendNext, empty, claimed] at run
      obtain ⟨⟨rfl,rfl⟩,rfl⟩ := run
      exact ⟨[],.slnil,st,by simp⟩
    rcases builds : runSt (build b taken) { s with pool } τ with ⟨⟨attempt,s2⟩,τ2⟩
    obtain ⟨buildOk,buildFailed⟩ := buildSettles b st distinct builds
    cases attempt with
    | error f =>
      simp [sendNext, empty, claimed, none, builds] at run
      obtain ⟨⟨rfl,rfl⟩,rfl⟩ := run
      exact ⟨[],List.nil_sublist _,by simpa using buildFailed f rfl,by simp⟩
    | ok built =>
    obtain ⟨sub,settled⟩ := buildOk built rfl
    by_cases noneIncluded : built.entries = []
    · simp [sendNext, empty, claimed, none, builds, Built.isEmpty, noneIncluded] at run
      obtain ⟨⟨rfl,rfl⟩,rfl⟩ := run
      exact ⟨[],List.nil_sublist _,noneIncluded ▸ settled,by simp⟩
    have fromClaim : ∀ e ∈ built.entries, e.hash ∈ taken.map (·.hash) := fun e he =>
      List.mem_map_of_mem (sub.subset he)
    rcases readied : runIn (ready b built) s2 τ2 with ⟨⟨prepared,s3⟩,τ3⟩
    obtain ⟨readyOk,readyFailed⟩ := readyCases b readied
    cases prepared with
    | error f =>
      simp [sendNext, empty, claimed, none, builds, Built.isEmpty, noneIncluded, readied] at run
      obtain ⟨⟨rfl,rfl⟩,rfl⟩ := run
      have released := settled.revertAll (built.entries.map (·.hash)) (by simpa using fromClaim)
      rw [List.filter_eq_nil_iff.mpr fun e he => by simpa using ⟨e,he,rfl⟩, ← readyFailed f rfl] at released
      exact ⟨[],List.nil_sublist _,released,by simp⟩
    | ok ready =>
    obtain ⟨cfg,bundleId,raw,nonce⟩ := ready
    have sent : Sent b drainAll s τ built ((b.send raw (cfg.assumed built)).run τ3).1 :=
      ⟨claimed,none,builds,noneIncluded,readied⟩
    simp [sendNext, empty, claimed, none, builds, Built.isEmpty, noneIncluded, readied] at run
    have answered := settleSettles b ((readyOk _ rfl).symm ▸ settled) fromClaim run
    refine ⟨_,?_,answered,fun e he => ?_⟩
    · split
      · exact sub
      · exact List.nil_sublist _
    · split at he
      · exact ⟨built,_,sent,he,‹_›⟩
      · cases he

/-- Sending a bundle releases its claims. Of the entries the send claimed, one is still claimed
afterwards exactly when the send reached the transport with a bundle that includes it and the
transport accepted the transaction or refused it without naming an operation; every other one is
pending or gone. An accepted transaction is reported with the bundle's entries in bundle order,
and the entries the send did not claim are as they were. This holds in every pool whose
admissions never reused a hash of another entry, whatever the collaborators answer. -/
theorem sendReleasesClaims {s : Service} (reach : Reachable HashFresh s.pool) (drainAll : Bool) {τ : σ}
    {r : Except Fault Submission} {s' : Service} {τ' : σ} (run : runIn (sendNext b drainAll) s τ = ((r,s'),τ')) :
    (∀ e ∈ claimedBy s.pool drainAll,
      ((∃ x ∈ s'.pool.entries, x.hash = e.hash ∧ x.status = .bundling) ↔
        ∃ built answer, Sent b drainAll s τ built answer ∧ e ∈ built.entries ∧ leavesClaimed answer) ∧
      ((¬∃ built answer, Sent b drainAll s τ built answer ∧ e ∈ built.entries ∧ leavesClaimed answer) →
        ∀ x ∈ s'.pool.entries, x.hash = e.hash → x.status = .pending)) ∧
    (∀ built txHash, Sent b drainAll s τ built (.ok txHash) →
      ∃ sub, r = .ok sub ∧ sub.txHash = txHash ∧ sub.entries = built.entries) ∧
    ∀ x : Entry, x.hash ∉ (claimedBy s.pool drainAll).map (·.hash) →
      (x ∈ s'.pool.entries ↔ x ∈ s.pool.entries) := by
  have wf := reach.wellFormed
  obtain ⟨distinct,bundling⟩ := claimedByEntries wf drainAll
  obtain ⟨kept,sub,st,keptSent⟩ := sendSettles b wf run
  -- a send that reached the transport replays to its answer, which keeps the bundle claimed or not
  have keptIff : ∀ e ∈ claimedBy s.pool drainAll,
      e ∈ kept ↔
        ∃ built answer, Sent b drainAll s τ built answer ∧ e ∈ built.entries ∧ leavesClaimed answer := by
    intro e he
    refine ⟨keptSent e,fun ⟨built,answer,sent,mem,leaves⟩ => ?_⟩
    obtain ⟨cfg,bundleId,nonce,s3,τ3,fromClaim,settled,replayed⟩ := sent.replay b wf
    rw [replayed] at run
    have final := settleSettles b settled (fun x hx => List.mem_map_of_mem (fromClaim.subset hx)) run
    rw [if_pos leaves] at final
    exact (st.stillClaimed distinct sub bundling he).1.mp ⟨e,final.held e mem,rfl,bundling e he⟩
  refine ⟨fun e he => ?_,fun built txHash sent => ?_,st.frame⟩
  · obtain ⟨stays,-,released⟩ := st.stillClaimed distinct sub bundling he
    exact ⟨stays.trans (keptIff e he),fun notSent => released fun keptE => notSent ((keptIff e he).mp keptE)⟩
  · obtain ⟨cfg,bundleId,nonce,s3,τ3,-,-,replayed⟩ := sent.replay b wf
    rw [replayed] at run
    obtain ⟨-,opHashes,rfl⟩ := settleAccepted b run
    exact ⟨_,rfl,rfl,rfl⟩

end

theorem sendReleasesClaimsOnBatch :
    let op := fun (sender : Nat) (n : Int) => ({ sender := .ofNat sender, nonce := some n } : UserOperation)
    let offer := fun (o : UserOperation) (h : Nat) =>
      Op.accept (Reputation.Tracker.create {}) o (.ofNat h) none none { sender := {} }
    let created := Service.create { config := { (default : Config.Bundler) with mempool := { batchLimit := 3 } } }
    let pool := created.pool.step (offer (op 16 0) 1) |>.step (offer (op 16 1) 2) |>.step (offer (op 17 0) 3)
      |>.step (offer (op 18 0) 4)
    let s : Service := { created with pool }
    let b := Sim.backend .zero .absent
    let τ : Sim.Script := { bySender := [(.ofNat 17, .refuse (.plain "AA23 reverted") false)] }
    let run := runIn (sendNext b false) s τ
    Reachable HashFresh s.pool ∧
      ((run.1.1.toOption.any fun sub => sub.entries.map (·.hash) == [.ofNat 1]) &&
        run.1.2.pool.entries.map (fun e => (e.hash, e.status)) ==
          [(.ofNat 1, .bundling), (.ofNat 2, .pending), (.ofNat 4, .pending)]) = true ∧
      (∀ e ∈ claimedBy s.pool false,
        ((∃ x ∈ run.1.2.pool.entries, x.hash = e.hash ∧ x.status = .bundling) ↔
          ∃ built answer, Sent b false s τ built answer ∧ e ∈ built.entries ∧ leavesClaimed answer) ∧
        ((¬∃ built answer, Sent b false s τ built answer ∧ e ∈ built.entries ∧ leavesClaimed answer) →
          ∀ x ∈ run.1.2.pool.entries, x.hash = e.hash → x.status = .pending)) ∧
      (∀ built txHash, Sent b false s τ built (.ok txHash) →
        ∃ sub, run.1.1 = .ok sub ∧ sub.txHash = txHash ∧ sub.entries = built.entries) ∧
      ∀ x : Entry, x.hash ∉ (claimedBy s.pool false).map (·.hash) →
        (x ∈ run.1.2.pool.entries ↔ x ∈ s.pool.entries) := by
  intro op offer created pool s b τ
  have same : s.pool = pool := by dsimp only [s]
  have reach : Reachable HashFresh s.pool := by
    rw [same]
    exact .step (.step (.step (.step (.create _) (by decide +kernel))
      (by decide +kernel)) (by decide +kernel)) (by decide +kernel)
  -- a batch of three is claimed; the bundle carries the first entry and stays claimed, sender 16's
  -- second entry is pending again, sender 17's leaves the pool, and the fourth entry is untouched
  have settled : (((runIn (sendNext b false) s τ).1.1.toOption.any fun sub => sub.entries.map (·.hash) == [.ofNat 1]) &&
      (runIn (sendNext b false) s τ).1.2.pool.entries.map (fun e => (e.hash, e.status)) ==
        [(.ofNat 1, .bundling), (.ofNat 2, .pending), (.ofNat 4, .pending)]) = true := by decide +kernel
  generalize ran : runIn (sendNext b false) s τ = out at settled ⊢
  obtain ⟨⟨r,s'⟩,τ'⟩ := out
  intro run
  exact ⟨reach,settled,sendReleasesClaims b reach false ran⟩

end Erc4337.Bundle
