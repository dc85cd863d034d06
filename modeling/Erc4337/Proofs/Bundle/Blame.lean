import Erc4337.Proofs.Bundle.Submission
/-! A refused bundle blames one operation and one entity. When the transport refuses a bundle's
transaction, the refusal is read for the index of the operation it names; an index inside the
bundle selects the culprit, whose entity is marked as crashed by the code of the reason (`AA1` the
factory, `AA2` the sender, `AA3` the paymaster) and which leaves the pool, while the rest of the
bundle returns to pending. In a pool whose admissions never reused a hash of another entry, the
culprit is the only entry that leaves, and at most one crash is recorded: none for a refusal that
names nothing, names an index past the bundle, or gives a reason of no entity. The culprit is the
operation at the named place of the `handleOps` call the bundle was sent as. -/
namespace Erc4337.Mempool.Pool.WellFormed
variable {p : Pool} (wf : p.WellFormed)
include wf

theorem serialsRevertAll (hs : List Hash) :
    (hs.foldl (fun q h => q.revert h) p).entries.map (·.serial) = p.entries.map (·.serial) := by
  rw [(wf.revertAll hs).2, List.map_map]
  exact List.map_congr_left fun x _ => by by_cases released : x.hash ∈ hs <;> simp [released]

theorem serialsRemove {c : Entry} (mem : c ∈ p.entries) (n : Nat) :
    n ∈ (p.remove c.hash).1.entries.map (·.serial) ↔ n ∈ p.entries.map (·.serial) ∧ n ≠ c.serial := by
  rw [wf.removeEntries]
  simp only [List.mem_map, List.mem_filter, decide_eq_true_iff]
  constructor
  · rintro ⟨x,⟨hx,other⟩,rfl⟩
    exact ⟨⟨x,hx,rfl⟩,fun same => other ((wf.serialIffHash hx mem).mp same)⟩
  · rintro ⟨⟨x,hx,rfl⟩,other⟩
    exact ⟨x,⟨hx,fun same => other ((wf.serialIffHash hx mem).mpr same)⟩,rfl⟩

end Erc4337.Mempool.Pool.WellFormed

namespace Erc4337.Bundle
open Service Mempool

theorem blamedEntityRole (f : AttributedFailure) (op : UserOperation) :
    blamedEntity f.role op =
      if f.codeIs "AA1" then some op.factory
      else if f.codeIs "AA2" then some op.sender
      else if f.codeIs "AA3" then some op.paymaster
      else none := by
  by_cases factory : f.codeIs "AA1"
  · simp [AttributedFailure.role, blamedEntity, factory]
  by_cases sender : f.codeIs "AA2"
  · simp [AttributedFailure.role, blamedEntity, factory, sender]
  by_cases paymaster : f.codeIs "AA3"
  · simp [AttributedFailure.role, blamedEntity, factory, sender, paymaster]
  · simp [AttributedFailure.role, blamedEntity, factory, sender, paymaster]

section
variable {σ : Type}

theorem runInCallAs {α : Type} (pfx : String) (x : StateM σ (Except Fault α)) (s : Service) (τ : σ) :
    runIn (callAs pfx x) s τ = ((((x.run τ).1.mapError (·.wrap pfx)),s),(x.run τ).2) := by
  simp only [callAs, runInBind, runInLift]
  rcases x.run τ with ⟨_ | v,τ'⟩ <;> rfl

theorem recordCrashedRep (a : Address) (s : Service) (τ : σ) :
    (runSt (recordCrashed a : SvcM (StateM σ) Unit) s τ).1.2.rep = s.rep.recordCrashed a := by
  unfold recordCrashed
  by_cases zero : a.isZero
  · simp [zero, Reputation.Tracker.recordCrashed]
  · simp [zero, runStBind, runStModifyRep, runStGet, runStLog]

theorem blameRep (role : String) (op : UserOperation) (s : Service) (τ : σ) :
    (runSt (blame role op : SvcM (StateM σ) Unit) s τ).1.2.rep =
      match blamedEntity role op with
      | some a => s.rep.recordCrashed a
      | none => s.rep := by
  unfold blame
  cases blamedEntity role op with
  | none => rfl
  | some a => simp only [runStBind, runStMetric, noteMetricRep, recordCrashedRep]

variable {bundleId : String} {built : Built} {err : Fault} {s : Service} {τ : σ} {r : Except Fault Submission}
  {s' : Service} {τ' : σ}

theorem handleFailureUnattributed (unnamed : AttributedFailure.ofFault err = none)
    (run : runIn (handleFailure bundleId built err) s τ = ((r,s'),τ')) : s'.pool = s.pool ∧ s'.rep = s.rep := by
  unfold handleFailure at run
  simp only [unnamed] at run
  -- a node that does not know the method fails the send; any other refusal is only logged
  split at run
  · simp only [runInBind, runInThrow] at run
    obtain ⟨⟨rfl,rfl⟩,rfl⟩ := run
    exact ⟨rfl,rfl⟩
  · simp only [runInBind, runInLog, runInPure] at run
    obtain ⟨⟨rfl,rfl⟩,rfl⟩ := run
    exact ⟨rfl,rfl⟩

theorem handleFailureOutside {f : AttributedFailure} (named : AttributedFailure.ofFault err = some f)
    (outside : built.entries[f.opIndex]? = none) (run : runIn (handleFailure bundleId built err) s τ = ((r,s'),τ')) :
    s'.pool = (built.entries.map (·.hash)).foldl (fun q h => q.revert h) s.pool ∧ s'.rep = s.rep := by
  unfold handleFailure at run
  simp only [named, outside, runInBind, runInLog, runInRevertAll, runInPure] at run
  obtain ⟨⟨rfl,rfl⟩,rfl⟩ := run
  exact ⟨by simp [foldRevertHash],rfl⟩

theorem handleFailureBlames {f : AttributedFailure} {c : Entry} (named : AttributedFailure.ofFault err = some f)
    (culprit : built.entries[f.opIndex]? = some c) (run : runIn (handleFailure bundleId built err) s τ = ((r,s'),τ')) :
    s'.pool = ((built.entries.zipIdx.filter (·.2 != f.opIndex)).map (·.1.hash)).foldl (fun q h => q.revert h)
        (s.pool.remove c.hash).1 ∧
      s'.rep = match blamedEntity f.role c.op with
        | some a => s.rep.recordCrashed a
        | none => s.rep := by
  unfold handleFailure at run
  simp only [named, culprit, runInBind, runInLiftSt] at run
  have pool1 := blamePool f.role c.op s τ
  have rep1 := blameRep f.role c.op s τ
  simp only [runInRemoveFromPool, runInLog, runInRevertWhere, runInPure] at run
  obtain ⟨⟨rfl,rfl⟩,rfl⟩ := run
  refine ⟨by simp [List.foldl_map, pool1],rep1⟩

theorem mapErrorEqOk {ε ε' α : Type} {x : Except ε α} {f : ε → ε'} {a : α} : x.mapError f = .ok a ↔ x = .ok a := by
  cases x <;> simp [Except.mapError]

theorem runInBindOk {α β : Type} {x : SvcE (StateM σ) α} {f : α → SvcE (StateM σ) β} {v : β}
    (run : runIn (x >>= f) s τ = ((.ok v,s'),τ')) :
    ∃ a s₁ τ₁, runIn x s τ = ((.ok a,s₁),τ₁) ∧ runIn (f a) s₁ τ₁ = ((.ok v,s'),τ') := by
  rw [runInBind] at run
  rcases first : runIn x s τ with ⟨⟨e | a,s₁⟩,τ₁⟩ <;> rw [first] at run
  · cases run
  · exact ⟨a,s₁,τ₁,rfl,run⟩

theorem prepareSignsHandleOps (b : Backend (StateM σ)) {cfg : SubmitterConfig} {beneficiary : Address}
    {raw : List UInt8} {nonce : UInt64}
    (run : runIn (prepare b cfg built beneficiary) s τ = ((.ok (raw,nonce),s'),τ')) :
    ∃ (tx signed : Transaction) (τ₁ : σ), ((b.sign tx).run τ₁).1 = .ok signed ∧ raw = signed.encode ∧
      tx.data = handleOpsCalldata (built.entries.map (·.op)) beneficiary ∧ tx.recipient = some cfg.entryPoint := by
  unfold prepare at run
  obtain ⟨chainId,s₁,τ₁,-,run⟩ := runInBindOk run
  obtain ⟨⟨maxFee,tip⟩,s₂,τ₂,-,run⟩ := runInBindOk run
  obtain ⟨nonce',s₃,τ₃,-,run⟩ := runInBindOk run
  obtain ⟨signed,s₄,τ₄,signing,run⟩ := runInBindOk run
  simp only [runInPure, Prod.mk.injEq, Except.ok.injEq] at run
  rw [runInCallAs, Prod.mk.injEq, Prod.mk.injEq] at signing
  exact ⟨_,signed,τ₃,mapErrorEqOk.mp signing.1.1,run.1.1.1.symm,rfl,rfl⟩

end

section
variable {σ : Type}

/-- A refused bundle blames exactly one operation and at most one entity. Of a refusal that names an
index inside the bundle, the named entry is the operation at that place of the `handleOps` call that
every prepared transaction of the bundle carries, the entity its reason's code points at (`AA1` the
factory, `AA2` the sender, `AA3` the paymaster) gets one crash and no other does, and the entry is
the only one that leaves the pool; any other refusal records no crash and removes nothing. This
holds for a bundle of entries of a pool whose admissions never reused a hash of another entry. -/
theorem revertBlamesOneEntry {s : Service} (reach : Reachable HashFresh s.pool) {built : Built}
    (inPool : ∀ e ∈ built.entries, e ∈ s.pool.entries) {bundleId : String} {err : Fault} {τ : σ}
    {r : Except Fault Submission} {s' : Service} {τ' : σ}
    (run : runIn (handleFailure bundleId built err) s τ = ((r,s'),τ')) :
    (∀ f c, AttributedFailure.ofFault err = some f → built.entries[f.opIndex]? = some c →
      f.opIndex < built.entries.length ∧
      (∀ (b : Backend (StateM σ)) cfg beneficiary (s₀ : Service) (τ₀ : σ) raw nonce s₁ τ₁,
        runIn (prepare b cfg built beneficiary) s₀ τ₀ = ((.ok (raw,nonce),s₁),τ₁) →
        ∃ (tx signed : Transaction) (τ₂ : σ) (ops : List UserOperation), ((b.sign tx).run τ₂).1 = .ok signed ∧
          raw = signed.encode ∧ tx.data = handleOpsCalldata ops beneficiary ∧ ops[f.opIndex]? = some c.op) ∧
      s'.rep =
        if f.codeIs "AA1" then s.rep.recordCrashed c.op.factory
        else if f.codeIs "AA2" then s.rep.recordCrashed c.op.sender
        else if f.codeIs "AA3" then s.rep.recordCrashed c.op.paymaster
        else s.rep) ∧
    ((¬∃ f c, AttributedFailure.ofFault err = some f ∧ built.entries[f.opIndex]? = some c) → s'.rep = s.rep) ∧
    ∀ n, n ∈ s'.pool.entries.map (·.serial) ↔
      n ∈ s.pool.entries.map (·.serial) ∧
        ¬∃ f c, AttributedFailure.ofFault err = some f ∧ built.entries[f.opIndex]? = some c ∧ c.serial = n := by
  have wf := reach.wellFormed
  cases named : AttributedFailure.ofFault err with
  | none =>
    obtain ⟨pool,rep⟩ := handleFailureUnattributed named run
    refine ⟨fun f c unnamed _ => (by cases unnamed),fun _ => rep,fun n => ?_⟩
    simp [pool]
  | some f =>
    cases culprit : built.entries[f.opIndex]? with
    | none =>
      obtain ⟨pool,rep⟩ := handleFailureOutside named culprit run
      refine ⟨fun f' c same found => ?_,fun _ => rep,fun n => ?_⟩
      · cases same
        rw [culprit] at found
        cases found
      · rw [pool, wf.serialsRevertAll]
        simp [culprit]
    | some c =>
      obtain ⟨pool,rep⟩ := handleFailureBlames named culprit run
      have held : c ∈ s.pool.entries := inPool c (List.mem_of_getElem? culprit)
      refine ⟨fun f' c' same found => ?_,fun unnamed => (unnamed ⟨f,c,rfl,culprit⟩).elim,fun n => ?_⟩
      · cases same
        rw [culprit] at found
        cases found
        refine ⟨(List.getElem?_eq_some_iff.mp culprit).1,fun b cfg beneficiary s₀ τ₀ raw nonce s₁ τ₁ prepared => ?_,?_⟩
        · -- the transaction encodes the bundle's operations in bundle order
          obtain ⟨tx,signed,τ₂,signing,encoded,data,-⟩ := prepareSignsHandleOps b prepared
          exact ⟨tx,signed,τ₂,_,signing,encoded,data,by simp [culprit]⟩
        · rw [rep, blamedEntityRole]
          split_ifs <;> rfl
      · -- the culprit's hash selects the culprit alone, and releasing hashes removes nothing
        rw [pool, (wf.remove c.hash).serialsRevertAll, wf.serialsRemove held]
        simp [culprit, eq_comm]

theorem revertBlamesNamedPaymaster :
    let paymaster : Address := .ofNat 0x80
    let op := fun (sender : Nat) => ({ sender := .ofNat sender, nonce := some 0 } : UserOperation)
    let offer := fun (o : UserOperation) (h : Nat) =>
      Op.accept (Reputation.Tracker.create {}) o (.ofNat h) none none { sender := {} }
    let created := Service.create { config := default }
    let pool := created.pool.step (offer (op 16) 1) |>.step (offer { op 17 with paymaster } 2)
      |>.step (offer (op 18) 3) |>.step .takeAll
    let s : Service := { created with pool }
    let built : Built := { entries := pool.entries }
    let err : Fault := .plain "FailedOp(1, \"AA33 reverted\")"
    let run := runIn (handleFailure "bundle" built err : SvcE (StateM Unit) Submission) s ()
    Reachable HashFresh s.pool ∧ (∀ e ∈ built.entries, e ∈ s.pool.entries) ∧
      ((AttributedFailure.ofFault err).any fun f => f.opIndex == 1 && f.role == "paymaster") = true ∧
      (run.1.2.pool.entries.map (fun e => (e.hash, e.status)) == [(.ofNat 1, .pending), (.ofNat 3, .pending)] &&
        run.1.2.rep.counters? paymaster == some { opsSeen := 10000 }) = true ∧
      (∀ f c, AttributedFailure.ofFault err = some f → built.entries[f.opIndex]? = some c →
        f.opIndex < built.entries.length ∧
        (∀ (b : Backend (StateM Unit)) cfg beneficiary (s₀ : Service) (τ₀ : Unit) raw nonce s₁ τ₁,
          runIn (prepare b cfg built beneficiary) s₀ τ₀ = ((.ok (raw,nonce),s₁),τ₁) →
          ∃ (tx signed : Transaction) (τ₂ : Unit) (ops : List UserOperation), ((b.sign tx).run τ₂).1 = .ok signed ∧
            raw = signed.encode ∧ tx.data = handleOpsCalldata ops beneficiary ∧ ops[f.opIndex]? = some c.op) ∧
        run.1.2.rep =
          if f.codeIs "AA1" then s.rep.recordCrashed c.op.factory
          else if f.codeIs "AA2" then s.rep.recordCrashed c.op.sender
          else if f.codeIs "AA3" then s.rep.recordCrashed c.op.paymaster
          else s.rep) ∧
      ((¬∃ f c, AttributedFailure.ofFault err = some f ∧ built.entries[f.opIndex]? = some c) → run.1.2.rep = s.rep) ∧
      ∀ n, n ∈ run.1.2.pool.entries.map (·.serial) ↔
        n ∈ s.pool.entries.map (·.serial) ∧
          ¬∃ f c, AttributedFailure.ofFault err = some f ∧ built.entries[f.opIndex]? = some c ∧ c.serial = n := by
  intro paymaster op offer created pool s built err
  have same : s.pool = pool := by dsimp only [s]
  have bundled : built.entries = pool.entries := by dsimp only [built]
  have reach : Reachable HashFresh s.pool := by
    rw [same]
    exact .step (.step (.step (.step (.create _) (by decide +kernel))
      (by decide +kernel)) (by decide +kernel)) trivial
  have inPool : ∀ e ∈ built.entries, e ∈ s.pool.entries := by
    rw [same, bundled]
    exact fun e he => he
  -- the refusal names the second operation and blames its paymaster
  have named : ((AttributedFailure.ofFault err).any fun f => f.opIndex == 1 && f.role == "paymaster") = true := by
    decide +kernel
  have blamed : ((runIn (handleFailure "bundle" built err : SvcE (StateM Unit) Submission) s ()).1.2.pool.entries.map
      (fun e => (e.hash, e.status)) == [(.ofNat 1, .pending), (.ofNat 3, .pending)] &&
        (runIn (handleFailure "bundle" built err : SvcE (StateM Unit) Submission) s ()).1.2.rep.counters? paymaster ==
          some { opsSeen := 10000 }) = true := by
    decide +kernel
  generalize ran : runIn (handleFailure "bundle" built err : SvcE (StateM Unit) Submission) s () = out at blamed ⊢
  obtain ⟨⟨r,s'⟩,τ'⟩ := out
  intro run
  exact ⟨reach,inPool,named,blamed,revertBlamesOneEntry reach inPool ran⟩

end

end Erc4337.Bundle
