import Erc4337.Proofs.Mempool.Representation
/-! The cap on unstaked senders. An insertion asks the sender for a stake once the entry counter
already holds more than `maxOpsPerSender` entries naming it. The counter counts an address in every
role, so it never falls below the number of entries the address sends. A sender whose every
admission reports too little stake or too short an unstake delay, to a tracker that does not
whitelist it, therefore never has more than `maxOpsPerSender + 1` entries in the pool: the cap is
checked only on insertion, but a replacement keeps the sender of the entry it replaces, and every
other call removes entries or changes their statuses. -/
namespace Erc4337.Mempool
open Reputation

def UnstakedSender (s : Address) (_ : Pool) : Op → Prop
  | .accept rep op _ _ _ stakes => op.sender = s →
      stakes.sender.addr = s ∧ rep.isWhitelisted s = false ∧
        (stakes.sender.stake.getD 0 < rep.config.minStake ∨ stakes.sender.unstakeDelaySec < rep.config.minUnstakeDelay)
  | _ => True

def Pool.SenderCapped (s : Address) (p : Pool) : Prop :=
  p.knownSenders.count s ≤ p.config.maxOpsPerSender.toNat + 1

theorem Address.isZeroEqFalse {a : Address} (nonzero : a ≠ .zero) : a.isZero = false := by
  have : a.toNat ≠ 0 := fun zero => nonzero (by cases a; simp_all [Address.zero, Address.ofNat])
  simpa [Address.isZero] using this

theorem Tracker.requireStakedRefused {t : Tracker} {role : String} {info : StakeInfo}
    (nonzero : info.addr.isZero = false) (listed : t.isWhitelisted info.addr = false)
    (short : info.stake.getD 0 < t.config.minStake ∨ info.unstakeDelaySec < t.config.minUnstakeDelay) :
    t.requireStaked role info ≠ .ok () := by
  unfold Tracker.requireStaked
  -- past the exemptions, a ban refuses first and the stake and delay checks after it
  cases banned : t.requireNotBanned role info.addr with
  | error f => simp [nonzero, listed, bind, Except.bind]
  | ok u =>
    simp only [nonzero, listed, Bool.false_eq_true, or_self, if_false, bind, Except.bind]
    by_cases stake : info.stake.getD 0 < t.config.minStake
    · -- an unstaked entity and one with too little stake are refused with different texts
      simp only [if_pos stake]
      split <;> simp [throw, throwThe, MonadExceptOf.throw]
    · have delay := short.resolve_left stake
      simp [stake, delay, throw, throwThe, MonadExceptOf.throw]

theorem Pool.entryCountLeOfCheckEntity {p : Pool} {rep : Tracker} {role : String} {info : StakeInfo}
    {maxAllowed : Nat} (ok : p.checkEntity rep role info maxAllowed = .ok ())
    (refused : rep.requireStaked role info ≠ .ok ()) : p.entryCount info.addr ≤ maxAllowed := by
  refine Nat.le_of_not_lt fun exceeded => refused ?_
  unfold Pool.checkEntity at ok
  simp only [bind, Except.bind, gt_iff_lt, if_pos exceeded] at ok
  split at ok
  · cases ok
  · split at ok
    · split at ok
      · cases ok
      · exact ok
    · exact ok

theorem Pool.checkSenderOfCheckReputation {p : Pool} {rep : Tracker} {stakes : EntityStakes}
    (ok : p.checkReputation rep stakes = .ok ()) :
    p.checkEntity rep "account" stakes.sender p.config.maxOpsPerSender.toNat = .ok () := by
  unfold Pool.checkReputation at ok
  cases sender : p.checkEntity rep "account" stakes.sender p.config.maxOpsPerSender.toNat with
  | error f => simp [sender, bind, Except.bind] at ok
  | ok u => rfl

theorem sendersLeTally (es : List Entry) (s : Address) : (es.map (·.op.sender)).count s ≤ tally es s := by
  induction es with
  | nil => simp
  | cons e es ih =>
    have own : (if e.op.sender = s then 1 else 0) ≤ (entities e.op).count s := by
      split
      · rename_i same
        exact List.count_pos_iff.mpr (by simp [entities, same])
      · exact Nat.zero_le _
    simp only [List.map_cons, List.count_cons, beq_iff_eq, tallyCons]
    omega

theorem Pool.stepConfig (p : Pool) (o : Op) : (p.step o).config = p.config := by
  cases o with
  | accept rep op hash prefund referenced stakes =>
    cases ok : p.accept rep op hash prefund referenced stakes with
    | error f => simp [Pool.step, ok]
    | ok out =>
      obtain ⟨p',rep',adm⟩ := out
      simp only [Pool.step, ok]
      obtain ⟨-,⟨old,-,-,-,rfl⟩ | ⟨-,-,-,-,rfl⟩⟩ := acceptEqOk.mp ok <;> rfl
  | remove h => simp only [Pool.step, Pool.remove]; split <;> rfl
  | removeOp op => simp only [Pool.step, Pool.removeOp]; split <;> rfl
  | takeBatch limit => by_cases negative : limit < 0 <;> simp [Pool.step, Pool.takeBatch, negative]
  | takeAll => rfl
  | revert h => simp only [Pool.step, Pool.revert]; split <;> rfl
  | clear => rfl

namespace Pool.SenderCapped
variable {s : Address} {p : Pool} (capped : p.SenderCapped s)
include capped

theorem drop (e : Entry) : (p.drop e).SenderCapped s :=
  Nat.le_trans ((List.filter_sublist.map _).count_le s) capped

theorem ofSameShape {p' : Pool} (same : p.SameShape p') (config : p'.config = p.config) : p'.SenderCapped s := by
  have senders : p'.knownSenders = p.knownSenders := same.through fun t => t.2.2.sender
  rw [SenderCapped, senders, config]
  exact capped

theorem replace (kd : p.Keyed) {p' : Pool} {old e : Entry} (mem : old ∈ p.entries) (key : nonceKey e.op = nonceKey old.op)
    (config : p'.config = p.config) (entries : p'.entries = (p.replace old e).entries) : p'.SenderCapped s := by
  have senders : p'.knownSenders = p.knownSenders := by
    rw [knownSenders, entries, Pool.replace, List.map_map, knownSenders]
    refine List.map_congr_left fun x hx => ?_
    by_cases same : x.serial = old.serial
    · have sender : e.op.sender = old.op.sender := congrArg Prod.fst key
      rw [kd.eqOfSerial hx mem same]
      simp [sender]
    · simp [same]
  rw [SenderCapped, senders, config]
  exact capped

end Pool.SenderCapped

theorem Pool.SenderCapped.accept {s : Address} {p : Pool} (capped : p.SenderCapped s) (kd : p.Keyed)
    (nonzero : s ≠ .zero) {rep : Tracker} {op : UserOperation} {hash : Hash} {prefund : Option Int}
    {referenced : Option Validation.Referenced} {stakes : EntityStakes} {p' : Pool} {rep' : Tracker}
    {adm : Admission} (unstaked : UnstakedSender s p (.accept rep op hash prefund referenced stakes))
    (ok : p.accept rep op hash prefund referenced stakes = .ok (p',rep',adm)) : p'.SenderCapped s := by
  obtain ⟨-,⟨old,found,-,-,rfl⟩ | ⟨-,checked,-,-,rfl⟩⟩ := acceptEqOk.mp ok
  · obtain ⟨mem,key⟩ := kd.withKeyEqSome.mp found
    exact capped.replace kd mem key.symm rfl rfl
  · have senders : (p.insert (p.admitted op hash prefund referenced stakes)).knownSenders =
        p.knownSenders ++ [op.sender] := by simp [Pool.knownSenders, Pool.insert, Pool.admitted]
    show ((p.insert (p.admitted op hash prefund referenced stakes)).knownSenders).count s ≤
      p.config.maxOpsPerSender.toNat + 1
    rw [senders, List.count_append]
    by_cases fromS : op.sender = s
    · -- an insertion from `s` passed the stake check only because the counter was at most the cap
      obtain ⟨addr,listed,short⟩ := unstaked fromS
      have refused : rep.requireStaked "account" stakes.sender ≠ .ok () :=
        Tracker.requireStakedRefused (addr ▸ Address.isZeroEqFalse nonzero) (addr ▸ listed) short
      have counted := Pool.entryCountLeOfCheckEntity (Pool.checkSenderOfCheckReputation checked) refused
      rw [addr] at counted
      have tallied : p.entryCount s = tally p.entries s := kd.count s
      have held := sendersLeTally p.entries s
      simp only [Pool.knownSenders, fromS, List.count_singleton_self]
      omega
    · have other : [op.sender].count s = 0 := List.count_eq_zero.mpr (by simpa using Ne.symm fromS)
      rw [other, Nat.add_zero]
      exact capped

theorem Pool.SenderCapped.step {s : Address} {p : Pool} (capped : p.SenderCapped s) (kd : p.Keyed)
    (nonzero : s ≠ .zero) {o : Op} (unstaked : UnstakedSender s p o) : (p.step o).SenderCapped s := by
  have config := p.stepConfig o
  rcases p.stepCases o with same | ⟨e,-,dropped⟩ | shape | cleared | ⟨_,_,_,_,_,_,_,_,rfl,ok⟩
  · rw [same]; exact capped
  · rw [dropped]; exact capped.drop e
  · exact capped.ofSameShape shape config
  · rw [cleared]; simp [Pool.SenderCapped, Pool.knownSenders, Pool.clear]
  · exact capped.accept kd nonzero unstaked ok

/-- An unstaked sender is capped: in every pool reached from an empty one by calls whose every
admission of an operation from the non-zero address `s` reports `s` as an unstaked sender that the
tracker does not whitelist, at most `maxOpsPerSender + 1` entries are sent from `s`. -/
theorem unstakedSenderCapped {s : Address} (nonzero : s ≠ .zero) {p : Pool} (reach : Reachable (UnstakedSender s) p) :
    p.knownSenders.count s ≤ p.config.maxOpsPerSender.toNat + 1 := by
  induction reach with
  | create c => simp [Pool.knownSenders, Pool.create]
  | step reached unstaked ih => exact Pool.SenderCapped.step ih reached.keyed nonzero unstaked

theorem unstakedSenderReachesCap :
    let s : Address := .ofNat 16
    let rep := Tracker.create { minStake := 1 }
    let op := fun (n : Int) => ({ sender := s, nonce := some n } : UserOperation)
    let offer := fun (n : Int) (h : Nat) => Op.accept rep (op n) (.ofNat h) none none { sender := { addr := s } }
    let full := (Pool.create { maxOpsPerSender := 1 }).step (offer 0 1) |>.step (offer 1 2)
    let p := full.step (offer 2 3)
    s ≠ .zero ∧ Reachable (UnstakedSender s) p ∧
      (full.accept rep (op 2) (.ofNat 3) none none { sender := { addr := s } }).toBool = false ∧
      p.knownSenders.count s = p.config.maxOpsPerSender.toNat + 1 ∧
      p.knownSenders.count s ≤ p.config.maxOpsPerSender.toNat + 1 := by
  intro s rep op offer full p
  have nonzero : s ≠ .zero := by decide
  have unstaked : ∀ q n h, UnstakedSender s q (offer n h) := fun _ _ _ _ => ⟨rfl,rfl,.inl (by decide)⟩
  have reach : Reachable (UnstakedSender s) p := .step (.step (.step (.create _) (unstaked _ _ _)) (unstaked _ _ _)) (unstaked _ _ _)
  -- two entries of `s` fill the cap of one plus one, so the third admission asks for a stake
  have refused : (full.accept rep (op 2) (.ofNat 3) none none { sender := { addr := s } }).toBool = false := by
    decide +kernel
  have atCap : p.knownSenders.count s = p.config.maxOpsPerSender.toNat + 1 := by decide +kernel
  exact ⟨nonzero,reach,refused,atCap,unstakedSenderCapped nonzero reach⟩

end Erc4337.Mempool
