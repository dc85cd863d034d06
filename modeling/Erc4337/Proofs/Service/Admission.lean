import Erc4337.Proofs.Mempool.Representation
import Erc4337.Proofs.Reputation.Counters
import Erc4337.Proofs.Service.Run
import Erc4337.Service.Admission
/-! Admission into the pool as the service runs it. A refused operation changes nothing; an
accepted one changes the pool, the tracker and the journal and nothing else. In the pool it takes
the place of the entry with its sender and nonce, or goes to the end when there is none, and the
entry counter moves by the entities of the two operations; in the tracker each entity it names is
seen once more. -/
namespace Erc4337

namespace Mempool

theorem Pool.entryCountEq (p : Pool) (a : Address) : p.entryCount a = countOf p.counts a := rfl

theorem recordAdmittedEq (rep : Reputation.Tracker) (op : UserOperation) (stakes : EntityStakes) :
    Pool.recordAdmitted rep op stakes =
      (op.sender :: (stakes.aggregator.map (·.addr)).toList ++ [op.paymaster,op.factory]).foldl
        Reputation.Tracker.recordSeen rep := by
  cases h : stakes.aggregator <;> simp [Pool.recordAdmitted, h]

namespace Pool.Keyed
variable {p : Pool} (kd : p.Keyed)
include kd

theorem acceptEffect {rep : Reputation.Tracker} {op : UserOperation} {hash : Hash} {prefund : Option Int}
    {referenced : Option Validation.Referenced} {stakes : EntityStakes} {p' : Pool}
    {rep' : Reputation.Tracker} {adm : Admission}
    (ok : p.accept rep op hash prefund referenced stakes = .ok (p',rep',adm)) :
    rep' = Pool.recordAdmitted rep op stakes ∧ p'.config = p.config ∧ p'.nextSerial = p.nextSerial + 1 ∧
      ((∃ pre old post, p.entries = pre ++ old :: post ∧ nonceKey old.op = nonceKey op ∧
          checkReplacement old.op op = .ok () ∧
          p'.entries = pre ++ p.admitted op hash prefund referenced stakes :: post ∧
          ∀ a, p'.entryCount a + (entities old.op).count a = p.entryCount a + (entities op).count a) ∨
        ((∀ e ∈ p.entries, nonceKey e.op ≠ nonceKey op) ∧
          p'.entries = p.entries ++ [p.admitted op hash prefund referenced stakes] ∧
          ∀ a, p'.entryCount a = p.entryCount a + (entities op).count a)) := by
  obtain ⟨rfl,⟨old,found,checked,-,rfl⟩ | ⟨absent,-,-,-,rfl⟩⟩ := acceptEqOk.mp ok
  · obtain ⟨mem,key⟩ := kd.withKeyEqSome.mp found
    obtain ⟨pre,post,split,others⟩ := kd.split mem
    refine ⟨rfl,rfl,rfl,.inl ⟨pre,old,post,split,key,checked,?_,fun a => ?_⟩⟩
    · simp only [Pool.replace, split]
      exact mapReplace fun x hx => (others x hx).1
    -- the old operation's entities are still counted in the pool, so taking them off is exact
    · have held : (entities old.op).count a ≤ countOf p.counts a := by
        rw [kd.count, split, tallyAppend, tallyCons]; omega
      simp only [Pool.entryCountEq, Pool.replace, countOfCountIn, countOfCountOut, Pool.admitted]
      omega
  · refine ⟨rfl,rfl,rfl,.inr ⟨kd.withKeyEqNone.mp absent,rfl,fun a => ?_⟩⟩
    simp only [Pool.entryCountEq, Pool.insert, countOfCountIn, Pool.admitted]

end Pool.Keyed

end Mempool

namespace Service
open Mempool
variable {m : Type → Type} [Monad m] [LawfulMonad m]

theorem admitToPoolRefused {s : Service} {op : UserOperation} {hash : Hash} {prefund : Option Int}
    {referenced : Option Validation.Referenced} {stakes : EntityStakes} {e : Fault}
    (refused : s.pool.accept s.rep op hash prefund referenced stakes = .error e) :
    ((admitToPool op hash prefund referenced stakes : SvcE m Unit).run).run s = pure (.error e,s) := by
  simp [admitToPool, refused, ExceptT.run_bind, runGet]

theorem admitToPoolAccepted {s : Service} {op : UserOperation} {hash : Hash} {prefund : Option Int}
    {referenced : Option Validation.Referenced} {stakes : EntityStakes} {pool : Pool}
    {rep : Reputation.Tracker} {adm : Admission}
    (ok : s.pool.accept s.rep op hash prefund referenced stakes = .ok (pool,rep,adm)) :
    ∃ journal, ((admitToPool op hash prefund referenced stakes : SvcE m Unit).run).run s =
      pure (.ok (),{ s with pool, rep, journal }) := by
  cases adm with
  | inserted => exact ⟨_,by simp [admitToPool, ok, ExceptT.run_bind, runGet, runSet, runLog]; rfl⟩
  | replaced old => exact ⟨_,by simp [admitToPool, ok, ExceptT.run_bind, runGet, runSet, runLog]; rfl⟩

theorem admissionAtomic {s : Service} (reach : Reachable (fun _ _ => True) s.pool) (op : UserOperation)
    (hash : Hash) (prefund : Option Int) (referenced : Option Validation.Referenced) (stakes : EntityStakes) :
    let new : Entry :=
      { serial := s.pool.nextSerial, op, hash, prefund := prefund.getD 0, referenced,
        status := .pending, aggregator := (stakes.aggregator.map (·.addr)).getD .zero }
    let seen := op.sender :: (stakes.aggregator.map (·.addr)).toList ++ [op.paymaster,op.factory]
    ∃ r s', ((admitToPool op hash prefund referenced stakes : SvcE m Unit).run).run s = pure (r,s') ∧
      ((∃ e, r = .error e) ∧ s' = s ∨
        r = .ok () ∧ s' = { s with pool := s'.pool, rep := s'.rep, journal := s'.journal } ∧
          s'.rep = seen.foldl Reputation.Tracker.recordSeen s.rep ∧
          (∀ a, s'.rep.counters? a =
            if (a.isZero ∨ s.rep.isWhitelisted a) ∨ seen.count a = 0 then s.rep.counters? a
            else some { (s.rep.counters? a).getD {} with
              opsSeen := ((s.rep.counters? a).getD {}).opsSeen + (seen.count a).toUInt64 }) ∧
          s'.pool.config = s.pool.config ∧ s'.pool.nextSerial = s.pool.nextSerial + 1 ∧
          ((∃ pre old post, s.pool.entries = pre ++ old :: post ∧ nonceKey old.op = nonceKey op ∧
              checkReplacement old.op op = .ok () ∧ s'.pool.entries = pre ++ new :: post ∧
              ∀ a, s'.pool.entryCount a + (entities old.op).count a = s.pool.entryCount a + (entities op).count a) ∨
            ((∀ e ∈ s.pool.entries, nonceKey e.op ≠ nonceKey op) ∧ s'.pool.entries = s.pool.entries ++ [new] ∧
              ∀ a, s'.pool.entryCount a = s.pool.entryCount a + (entities op).count a))) := by
  intro new seen
  cases h : s.pool.accept s.rep op hash prefund referenced stakes with
  | error e => exact ⟨_,_,admitToPoolRefused h,.inl ⟨⟨e,rfl⟩,rfl⟩⟩
  | ok r =>
    obtain ⟨pool,rep,adm⟩ := r
    obtain ⟨journal,run⟩ : ∃ journal, ((admitToPool op hash prefund referenced stakes : SvcE m Unit).run).run s =
        pure (.ok (),{ s with pool, rep, journal }) := admitToPoolAccepted h
    obtain ⟨recorded,config,next,effect⟩ := reach.keyed.acceptEffect h
    rw [recordAdmittedEq] at recorded
    refine ⟨_,_,run,.inr ⟨rfl,rfl,recorded,fun a => ?_,config,next,effect⟩⟩
    rw [recorded]
    exact Reputation.Tracker.countersFoldSeen seen s.rep a

theorem admissionReplacesInPlace :
    let rep := Reputation.Tracker.create {}
    let first : UserOperation :=
      { sender := .ofNat 16, maxFeePerGas := some 2000000000, maxPriorityFeePerGas := some 1000000000 }
    let offer := fun (op : UserOperation) (h : Nat) => Op.accept rep op (.ofNat h) none none { sender := {} }
    let created := Service.create { config := default }
    let pool := created.pool.step (offer first 1) |>.step (offer { first with sender := .ofNat 17 } 2)
      |>.step (offer { first with sender := .ofNat 18 } 3)
    let s := { created with pool }
    let op : UserOperation :=
      { first with sender := .ofNat 17, paymaster := .ofNat 80, maxFeePerGas := some 3000000000, maxPriorityFeePerGas := some 2000000000 }
    let stakes : EntityStakes := { sender := {} }
    let new : Entry :=
      { serial := s.pool.nextSerial, op, hash := .ofNat 4, prefund := (none : Option Int).getD 0,
        referenced := none, status := .pending, aggregator := (stakes.aggregator.map (·.addr)).getD .zero }
    let seen := op.sender :: (stakes.aggregator.map (·.addr)).toList ++ [op.paymaster,op.factory]
    Reachable (fun _ _ => True) s.pool ∧
      (((admitToPool op (.ofNat 4) none none stakes : SvcE Id Unit).run).run s).2.pool.entries.map (·.hash) =
        [.ofNat 1, .ofNat 4, .ofNat 3] ∧
      ∃ r s', ((admitToPool op (.ofNat 4) none none stakes : SvcE Id Unit).run).run s = pure (r,s') ∧
        ((∃ e, r = .error e) ∧ s' = s ∨
          r = .ok () ∧ s' = { s with pool := s'.pool, rep := s'.rep, journal := s'.journal } ∧
            s'.rep = seen.foldl Reputation.Tracker.recordSeen s.rep ∧
            (∀ a, s'.rep.counters? a =
              if (a.isZero ∨ s.rep.isWhitelisted a) ∨ seen.count a = 0 then s.rep.counters? a
              else some { (s.rep.counters? a).getD {} with
                opsSeen := ((s.rep.counters? a).getD {}).opsSeen + (seen.count a).toUInt64 }) ∧
            s'.pool.config = s.pool.config ∧ s'.pool.nextSerial = s.pool.nextSerial + 1 ∧
            ((∃ pre old post, s.pool.entries = pre ++ old :: post ∧ nonceKey old.op = nonceKey op ∧
                checkReplacement old.op op = .ok () ∧ s'.pool.entries = pre ++ new :: post ∧
                ∀ a, s'.pool.entryCount a + (entities old.op).count a =
                  s.pool.entryCount a + (entities op).count a) ∨
              ((∀ e ∈ s.pool.entries, nonceKey e.op ≠ nonceKey op) ∧ s'.pool.entries = s.pool.entries ++ [new] ∧
                ∀ a, s'.pool.entryCount a = s.pool.entryCount a + (entities op).count a))) := by
  intro rep first offer created pool s op stakes new seen
  have reach : Reachable (fun _ _ => True) pool := .step (.step (.step (.create _) trivial) trivial) trivial
  -- the middle entry, sender 17 at nonce 0, is replaced where it stands
  have inPlace : (((admitToPool op (.ofNat 4) none none stakes : SvcE Id Unit).run).run s).2.pool.entries.map (·.hash) =
      [.ofNat 1, .ofNat 4, .ofNat 3] := by decide +kernel
  exact ⟨reach,inPlace,admissionAtomic reach op (.ofNat 4) none none stakes⟩

end Service

end Erc4337
