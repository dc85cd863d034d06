import Erc4337.Proofs.Bundle.Consider
import Erc4337.Sim.Scripted
/-! The paymasters' deposits across a build. A pass reads a paymaster's deposit the first time one
of its operations reaches the ledger, keeps it in `Pass.deposits`, and takes from it the prefund of
each operation of that paymaster it includes; an operation whose prefund is above what remains is
deferred. `Pass.Ledger` ties the ledger to the deposit reads of the build and to the entries
included so far: every consideration keeps it (`considerLedger`), hence every scan. The reads
are observed through `Backend.recordingDeposits`, the same collaborators with a log of every
deposit read beside their state. -/
namespace Erc4337.Service

variable {σ : Type} (b : Backend (StateM σ))

inductive Backend.OtherCalls : σ → σ → Prop where
  | refl (τ : σ) : Backend.OtherCalls τ τ
  | validate {τ τ' : σ} (op : UserOperation) (skip : Bool) (seen : Option Validation.Referenced) :
      Backend.OtherCalls ((b.validate op skip seen).run τ).2 τ' → Backend.OtherCalls τ τ'
  | cancelled {τ τ' : σ} : Backend.OtherCalls (b.cancelled.run τ).2 τ' → Backend.OtherCalls τ τ'
  | storageRoot {τ τ' : σ} (a : Address) :
      Backend.OtherCalls ((b.storageRoot a).run τ).2 τ' → Backend.OtherCalls τ τ'

def onFirst {ρ α : Type} (x : StateM σ α) : StateM (σ × ρ) α := fun st =>
  let out := x.run st.1
  (out.1,(out.2,st.2))

abbrev DepositLog := List (Address × Except Fault Int)

def Backend.recordingDeposits : Backend (StateM (σ × DepositLog)) where
  validate op skip seen := onFirst (b.validate op skip seen)
  cancelled := onFirst b.cancelled
  chainId := onFirst b.chainId
  deposit a := fun st =>
    let out := (b.deposit a).run st.1
    (out.1,(out.2,st.2 ++ [(a,out.1)]))
  storageRoot a := onFirst (b.storageRoot a)
  fee := onFirst b.fee
  pendingNonce a := onFirst (b.pendingNonce a)
  receipt h := onFirst (b.receipt h)
  signerAddress := b.signerAddress
  signerBalance := onFirst b.signerBalance
  sign tx := onFirst (b.sign tx)
  send raw known := onFirst (b.send raw known)
  opHashes := b.opHashes.map fun hashes helper ops => onFirst (hashes helper ops)

theorem Backend.OtherCalls.keepsLog {st st' : σ × DepositLog} (calls : b.recordingDeposits.OtherCalls st st') :
    st'.2 = st.2 := by
  induction calls with
  | refl => rfl
  | validate _ _ _ _ ih => exact ih
  | cancelled _ ih => exact ih
  | storageRoot _ _ ih => exact ih

theorem validateKeepsLog {op : UserOperation} {skip : Bool} {seen : Option Validation.Referenced}
    {st st' : σ × DepositLog} {ans : Except Fault Validation.Result}
    (run : (b.recordingDeposits.validate op skip seen).run st = (ans,st')) : st'.2 = st.2 :=
  (congrArg (·.2.2) run).symm.trans rfl

theorem depositLogs {a : Address} {st st' : σ × DepositLog} {ans : Except Fault Int}
    (run : (b.recordingDeposits.deposit a).run st = (ans,st')) :
    ((b.deposit a).run st.1).1 = ans ∧ st'.2 = st.2 ++ [(a,ans)] := by
  have answer : ((b.deposit a).run st.1).1 = ans := congrArg (·.1) run
  have logged : st.2 ++ [(a,((b.deposit a).run st.1).1)] = st'.2 := congrArg (·.2.2) run
  rw [answer] at logged
  exact ⟨answer,logged.symm⟩

end Erc4337.Service

namespace Erc4337.Bundle
open Service Mempool

def sponsoredBy (a : Address) (e : Entry) : Bool := e.op.hasPaymaster && e.op.paymaster == a

def prefundsOf (a : Address) (l : List (Entry × Validation.Result)) : Int :=
  ((l.filter (sponsoredBy a ·.1)).map (·.2.returnInfo.prefund)).sum

@[simp] theorem prefundsOfNil (a : Address) : prefundsOf a [] = 0 := rfl

theorem prefundsOfSnoc (a : Address) (l : List (Entry × Validation.Result)) (x : Entry × Validation.Result) :
    prefundsOf a (l ++ [x]) = prefundsOf a l + if sponsoredBy a x.1 then x.2.returnInfo.prefund else 0 := by
  unfold prefundsOf
  by_cases sponsored : sponsoredBy a x.1 <;> simp [List.filter_append, sponsored]

theorem prefundsOfNone {a : Address} {l : List (Entry × Validation.Result)}
    (none : ∀ x ∈ l, sponsoredBy a x.1 = false) : prefundsOf a l = 0 := by
  unfold prefundsOf
  rw [List.filter_eq_nil_iff.mpr fun x mem => by simp [none x mem]]
  rfl

theorem sponsoredBySelf {e : Entry} (has : e.op.hasPaymaster = true) : sponsoredBy e.op.paymaster e = true := by
  simp [sponsoredBy, has]

def FitsDeposit (a : Address) (d : Int) (l : List (Entry × Validation.Result)) : Prop :=
  ∀ i x, l[i]? = some x → sponsoredBy a x.1 = true → x.2.returnInfo.prefund ≤ d - prefundsOf a (l.take i)

theorem FitsDeposit.snoc {a : Address} {d : Int} {l : List (Entry × Validation.Result)}
    {x : Entry × Validation.Result} (fits : FitsDeposit a d l)
    (last : sponsoredBy a x.1 = true → x.2.returnInfo.prefund ≤ d - prefundsOf a l) : FitsDeposit a d (l ++ [x]) := by
  intro i y found sponsored
  rcases Nat.lt_or_ge i l.length with before | after
  · rw [List.getElem?_append_left before] at found
    rw [List.take_append_of_le_length (Nat.le_of_lt before)]
    exact fits i y found sponsored
  · rw [List.getElem?_append_right after] at found
    have at_end : i = l.length := by
      have := (List.getElem?_eq_some_iff.mp found).1
      simp only [List.length_singleton] at this
      omega
    subst at_end
    rw [List.take_left']
    · simp at found
      exact found ▸ last (found ▸ sponsored)
    · rfl

theorem fitsOfNone {a : Address} {d : Int} {l : List (Entry × Validation.Result)}
    (none : ∀ x ∈ l, sponsoredBy a x.1 = false) : FitsDeposit a d l := by
  intro i x found sponsored
  rw [none x (List.mem_of_getElem? found)] at sponsored
  cases sponsored

theorem Pass.lookupSetDeposit (p : Pass) (a c : Address) (v : Int) :
    (p.setDeposit a v).deposits.lookup c = if c = a then some v else p.deposits.lookup c := by
  by_cases same : c = a
  · simp [Pass.setDeposit, same]
  · simp only [Pass.setDeposit, same, if_false]
    exact Mempool.lookupSetNe p.deposits v same

structure Pass.Ledger (p : Pass) (included : List (Entry × Validation.Result)) (reads : DepositLog) : Prop where
  entries : included.map (·.1) = p.built.entries
  unread : ∀ a, p.deposits.lookup a = none → (∀ x ∈ reads, x.1 ≠ a) ∧ ∀ x ∈ included, sponsoredBy a x.1 = false
  read : ∀ a rem, p.deposits.lookup a = some rem → ∃ d, reads.filter (·.1 == a) = [(a,.ok d)] ∧
    0 ≤ rem ∧ rem = d - prefundsOf a included ∧ FitsDeposit a d included

namespace Pass.Ledger
variable {p q : Pass} {included : List (Entry × Validation.Result)} {reads : DepositLog}

theorem start (knownSenders : List Address) : ({ knownSenders } : Pass).Ledger [] [] :=
  ⟨rfl,fun _ _ => ⟨fun _ mem => (nomatch mem),fun _ mem => (nomatch mem)⟩,fun _ _ found => (nomatch found)⟩

theorem congr (ledger : p.Ledger included reads) (entries : q.built.entries = p.built.entries)
    (deposits : ∀ a, q.deposits.lookup a = p.deposits.lookup a) : q.Ledger included reads :=
  ⟨entries ▸ ledger.entries,fun a none => ledger.unread a ((deposits a).symm.trans none),
    fun a rem found => ledger.read a rem ((deposits a).symm.trans found)⟩

theorem firstRead (ledger : p.Ledger included reads) {a : Address} (unknown : p.deposits.lookup a = none)
    {d : Int} (nonneg : 0 ≤ d) : (p.setDeposit a d).Ledger included (reads ++ [(a,.ok d)]) := by
  obtain ⟨unread,none⟩ := ledger.unread a unknown
  refine ⟨ledger.entries,fun c found => ?_,fun c rem found => ?_⟩
  · rw [Pass.lookupSetDeposit] at found
    split at found
    · cases found
    · rename_i other
      obtain ⟨unread',none'⟩ := ledger.unread c found
      refine ⟨fun x mem => ?_,none'⟩
      rcases List.mem_append.mp mem with old | new
      · exact unread' x old
      · rw [List.mem_singleton.mp new]
        exact Ne.symm other
  · rw [Pass.lookupSetDeposit] at found
    split at found
    · rename_i same
      subst same
      cases found
      have fresh : reads.filter (·.1 == c) = [] := List.filter_eq_nil_iff.mpr fun x mem => by simp [unread x mem]
      refine ⟨d,by simp [List.filter_append, fresh],nonneg,by rw [prefundsOfNone none]; omega,fitsOfNone none⟩
    · rename_i other
      obtain ⟨d',filtered,rest⟩ := ledger.read c rem found
      refine ⟨d',?_,rest⟩
      simp [List.filter_append, filtered, Ne.symm other]

theorem reread (ledger : p.Ledger included reads) {a : Address} {d : Int} (known : p.deposits.lookup a = some d) :
    (p.setDeposit a d).Ledger included reads :=
  ledger.congr rfl fun c => by
    rw [Pass.lookupSetDeposit]
    split
    · rename_i same
      rw [same, known]
    · rfl

theorem addEntry (ledger : p.Ledger included reads) {e : Entry} {res : Validation.Result}
    (entries : q.built.entries = p.built.entries ++ [e])
    (charged : ∀ a, (sponsoredBy a e = true → ∃ rem, p.deposits.lookup a = some rem ∧
        res.returnInfo.prefund ≤ rem ∧ q.deposits.lookup a = some (rem - res.returnInfo.prefund)) ∧
      (sponsoredBy a e = false → q.deposits.lookup a = p.deposits.lookup a)) :
    q.Ledger (included ++ [(e,res)]) reads := by
  refine ⟨by rw [List.map_append, ledger.entries, entries]; rfl,fun a found => ?_,fun a rem found => ?_⟩
  · cases sponsored : sponsoredBy a e
    · rw [(charged a).2 sponsored] at found
      obtain ⟨unread,none⟩ := ledger.unread a found
      refine ⟨unread,fun x mem => ?_⟩
      rcases List.mem_append.mp mem with old | new
      · exact none x old
      · rw [List.mem_singleton.mp new]
        exact sponsored
    · obtain ⟨rem,-,-,found'⟩ := (charged a).1 sponsored
      rw [found'] at found
      cases found
  · cases sponsored : sponsoredBy a e
    · rw [(charged a).2 sponsored] at found
      obtain ⟨d,filtered,nonneg,remaining,fits⟩ := ledger.read a rem found
      refine ⟨d,filtered,nonneg,by simp [prefundsOfSnoc, sponsored, remaining],fits.snoc fun h => ?_⟩
      rw [sponsored] at h
      cases h
    · obtain ⟨rem',known,covered,found'⟩ := (charged a).1 sponsored
      rw [found'] at found
      cases found
      obtain ⟨d,filtered,nonneg,remaining,fits⟩ := ledger.read a rem' known
      refine ⟨d,filtered,by omega,by simp only [prefundsOfSnoc, sponsored, if_true]; omega,
        fits.snoc fun _ => show res.returnInfo.prefund ≤ _ by omega⟩

end Pass.Ledger

section
variable {σ : Type} (b : Backend (StateM σ))

theorem Pass.depositOfOk {p : Pass} {a : Address} {s s' : Service} {τ τ' : σ} {d : Int}
    (run : runIn (p.depositOf b a) s τ = ((.ok d,s'),τ')) :
    s' = s ∧ (p.deposits.lookup a = some d ∧ τ' = τ ∨ p.deposits.lookup a = none ∧ (b.deposit a).run τ = (.ok d,τ')) := by
  cases cached : p.deposits.lookup a with
  | some d' =>
    simp [Pass.depositOf, cached] at run
    obtain ⟨⟨rfl,rfl⟩,rfl⟩ := run
    exact ⟨rfl,.inl ⟨rfl,rfl⟩⟩
  | none =>
    simp [Pass.depositOf, cached] at run
    obtain ⟨⟨answer,rfl⟩,rfl⟩ := run
    exact ⟨rfl,.inr ⟨rfl,Prod.ext answer rfl⟩⟩

theorem Pass.chargeLedger {p : Pass} {op : UserOperation} {prefund : Int} {s s' : Service} {τ τ' : σ}
    {c : Bool} {q : Pass} (run : runIn (p.charge b op prefund) s τ = ((.ok (c,q),s'),τ')) :
    s' = s ∧
      ((op.hasPaymaster = false ∧ c = true ∧ q = p ∧ τ' = τ) ∨
        ∃ rem, op.hasPaymaster = true ∧ runIn (p.depositOf b op.paymaster) s τ = ((.ok rem,s),τ') ∧
          (c = true ↔ prefund ≤ rem) ∧ ∀ a, q.deposits.lookup a =
            if a = op.paymaster then some (if c then rem - prefund else rem) else p.deposits.lookup a) := by
  by_cases has : op.hasPaymaster
  · obtain ⟨ans,τ1,-,deposit⟩ := p.depositOfRun b op.paymaster s τ
    cases ans with
    | error f => simp [Pass.charge, has, deposit] at run
    | ok d =>
      by_cases low : d < prefund
      · simp [Pass.charge, has, deposit, low] at run
        obtain ⟨⟨⟨rfl,rfl⟩,rfl⟩,rfl⟩ := run
        refine ⟨rfl,.inr ⟨d,has,deposit,by simp only [Bool.false_eq_true, false_iff, Int.not_le]; exact low,fun a => ?_⟩⟩
        rw [Pass.lookupSetDeposit]
        rfl
      · simp [Pass.charge, has, deposit, low] at run
        obtain ⟨⟨⟨rfl,rfl⟩,rfl⟩,rfl⟩ := run
        refine ⟨rfl,.inr ⟨d,has,deposit,by simp only [true_iff]; exact Int.not_lt.mp low,fun a => ?_⟩⟩
        show ((p.setDeposit op.paymaster d).setDeposit op.paymaster (d - prefund)).deposits.lookup a = _
        rw [Pass.lookupSetDeposit, Pass.lookupSetDeposit]
        split <;> rfl
  · simp [Pass.charge, has] at run
    obtain ⟨⟨⟨rfl,rfl⟩,rfl⟩,rfl⟩ := run
    exact ⟨rfl,.inl ⟨by simpa using has,rfl,rfl,rfl⟩⟩

theorem considerCharge {cfg : BuilderConfig} {p p' : Pass} {e : Entry} {s s' : Service} {τ τ' : σ}
    {d : Decision} (run : runIn (consider b cfg p e) s τ = ((.ok (d,p'),s'),τ')) :
    (d ≠ .include ∧ p'.deposits = p.deposits ∧ b.OtherCalls τ τ') ∨
      ∃ (res : Validation.Result) (τ1 : σ) (c : Bool) (q : Pass) (τ2 : σ),
        (b.validate e.op true e.referenced).run τ = (.ok res,τ1) ∧
        runIn (p.charge b e.op res.returnInfo.prefund) s τ1 = ((.ok (c,q),s),τ2) ∧
        p'.deposits = q.deposits ∧ (d = .include ↔ c = true) ∧ b.OtherCalls τ2 τ' := by
  cases screened : p.screen s.rep cfg.throttledEntityBundleCount e.op with
  | some d0 =>
    rcases Pass.screenEqSome screened with rfl | rfl
    · simp [consider, screened] at run
      obtain ⟨⟨⟨rfl,rfl⟩,rfl⟩,rfl⟩ := run
      exact .inl ⟨by decide,rfl,.refl τ⟩
    · simp [consider, screened] at run
      obtain ⟨⟨⟨rfl,rfl⟩,rfl⟩,rfl⟩ := run
      exact .inl ⟨by decide,rfl,.refl τ⟩
  | none =>
    cases valid : (b.validate e.op true e.referenced).run τ with
    | mk ans τ1 =>
    have validated : ∀ {τ'}, b.OtherCalls τ1 τ' → b.OtherCalls τ τ' := fun rest =>
      .validate e.op true e.referenced (by rw [valid]; exact rest)
    cases ans with
    | error err =>
      cases cancel : b.cancelled.run τ1 with
      | mk c τ2 =>
      cases c
      · simp [consider, screened, valid, cancel] at run
        obtain ⟨⟨⟨rfl,rfl⟩,rfl⟩,rfl⟩ := run
        exact .inl ⟨by decide,rfl,validated (.cancelled (by rw [cancel]; exact .refl τ2))⟩
      · simp [consider, screened, valid, cancel] at run
    | ok res =>
    cases foreign : p.foreignStorage e.op res with
    | some a =>
      simp [consider, screened, valid, foreign] at run
      obtain ⟨⟨⟨rfl,rfl⟩,rfl⟩,rfl⟩ := run
      exact .inl ⟨by decide,rfl,validated (.refl τ1)⟩
    | none =>
    by_cases overBudget : (cfg.maxBundleGas.toNat : Int) < p.totalGas + opGas e.op res
    · simp [consider, screened, valid, foreign, overBudget] at run
      obtain ⟨⟨⟨rfl,rfl⟩,rfl⟩,rfl⟩ := run
      exact .inl ⟨by decide,rfl,validated (.refl τ1)⟩
    cases charged : runIn (p.charge b e.op res.returnInfo.prefund) s τ1 with
    | mk out τ2 =>
    obtain ⟨rc,sc⟩ := out
    obtain ⟨rfl,-,-⟩ := Pass.chargeCases b charged
    cases rc with
    | error f => simp [consider, screened, valid, foreign, overBudget, charged] at run
    | ok out =>
    obtain ⟨c,q⟩ := out
    cases c
    · simp [consider, screened, valid, foreign, overBudget, charged] at run
      obtain ⟨⟨⟨rfl,rfl⟩,rfl⟩,rfl⟩ := run
      exact .inr ⟨res,τ1,false,q,τ2,rfl,charged,rfl,by decide,.refl τ2⟩
    have deposits : ∀ storage, ((if e.op.hasFactory = true then q.bump e.op.factory else q).add e storage
        (opGas e.op res)).deposits = q.deposits := fun _ => by split <;> rfl
    by_cases conditional : cfg.conditionalRpc = true ∧ e.op.hasFactory = false
    · cases rooted : (b.storageRoot e.op.sender).run τ2 with
      | mk ans' τ3 =>
      cases ans' with
      | error f => simp [consider, screened, valid, foreign, overBudget, charged, conditional, rooted] at run
      | ok root =>
        simp [consider, screened, valid, foreign, overBudget, charged, conditional, rooted] at run
        obtain ⟨⟨⟨rfl,rfl⟩,rfl⟩,rfl⟩ := run
        exact .inr ⟨res,τ1,true,q,τ2,rfl,charged,rfl,by decide,
          .storageRoot e.op.sender (by rw [rooted]; exact .refl τ3)⟩
    · simp [consider, screened, valid, foreign, overBudget, charged, conditional] at run
      obtain ⟨⟨⟨rfl,rfl⟩,rfl⟩,rfl⟩ := run
      exact .inr ⟨res,τ1,true,q,τ2,rfl,charged,deposits _,by decide,.refl τ2⟩

theorem considerDefersShortfall {cfg : BuilderConfig} {p : Pass} {e : Entry} {s : Service} {τ τ1 τ2 : σ}
    {res : Validation.Result} {rem : Int}
    (screened : p.screen s.rep cfg.throttledEntityBundleCount e.op = none)
    (valid : (b.validate e.op true e.referenced).run τ = (.ok res,τ1))
    (foreign : p.foreignStorage e.op res = none)
    (budget : p.totalGas + opGas e.op res ≤ cfg.maxBundleGas.toNat)
    (sponsored : e.op.hasPaymaster = true)
    (remaining : runIn (p.depositOf b e.op.paymaster) s τ1 = ((.ok rem,s),τ2))
    (short : rem < res.returnInfo.prefund) :
    runIn (consider b cfg p e) s τ = ((.ok (.defer,p.setDeposit e.op.paymaster rem),s),τ2) := by
  have within : ¬(cfg.maxBundleGas.toNat : Int) < p.totalGas + opGas e.op res := Int.not_lt.mpr budget
  simp [consider, screened, valid, foreign, within, Pass.charge, sponsored, remaining, short]

end

section
variable {σ : Type} (b : Backend (StateM σ)) (nonneg : ∀ a τ d, ((b.deposit a).run τ).1 = .ok d → 0 ≤ d)
include nonneg

theorem Pass.Ledger.readDeposit {p : Pass} {included : List (Entry × Validation.Result)} {reads log : DepositLog}
    {a : Address} {s s' : Service} {st st' : σ × DepositLog} {rem : Int} (ledger : p.Ledger included reads)
    (logged : st.2 = log ++ reads) (run : runIn (p.depositOf b.recordingDeposits a) s st = ((.ok rem,s'),st')) :
    ∃ reads', st'.2 = log ++ reads' ∧ (p.setDeposit a rem).Ledger included reads' := by
  obtain ⟨-,⟨known,rfl⟩ | ⟨unknown,read⟩⟩ := Pass.depositOfOk _ run
  · exact ⟨reads,logged,ledger.reread known⟩
  · obtain ⟨answer,appended⟩ := depositLogs b read
    exact ⟨reads ++ [(a,.ok rem)],by rw [appended, logged, List.append_assoc],
      ledger.firstRead unknown (nonneg a st.1 rem answer)⟩

theorem considerLedger {cfg : BuilderConfig} {p p' : Pass} {e : Entry} {s s' : Service}
    {st st' : σ × DepositLog} {d : Decision} {included : List (Entry × Validation.Result)} {reads log : DepositLog}
    (run : runIn (consider b.recordingDeposits cfg p e) s st = ((.ok (d,p'),s'),st'))
    (ledger : p.Ledger included reads) (logged : st.2 = log ++ reads) :
    ∃ reads', st'.2 = log ++ reads' ∧ (d ≠ .include → p'.Ledger included reads') ∧
      ∀ res st1, (b.recordingDeposits.validate e.op true e.referenced).run st = (.ok res,st1) → d = .include →
        p'.Ledger (included ++ [(e,res)]) reads' := by
  rcases considerCharge _ run with ⟨other,kept,calls⟩ | ⟨res,st1,c,q,st2,valid,charged,deposits,decided,calls⟩
  · obtain ⟨-,⟨deposits,rfl⟩,-⟩ := considerOther _ run other
    exact ⟨reads,by rw [calls.keepsLog, logged],fun _ => ledger.congr rfl fun a => congrArg (·.lookup a) kept,
      fun _ _ _ inc => absurd inc other⟩
  have logged1 : st1.2 = log ++ reads := (validateKeepsLog b valid).trans logged
  have answered : ∀ {res' st'}, (b.recordingDeposits.validate e.op true e.referenced).run st = (.ok res',st') →
      res' = res := fun valid' => by
    rw [valid, Prod.mk.injEq, Except.ok.injEq] at valid'
    exact valid'.1.symm
  obtain ⟨-,⟨unsponsored,rfl,rfl,rfl⟩ | ⟨rem,has,deposit,covers,lookups⟩⟩ := Pass.chargeLedger _ charged
  ·
    obtain rfl : d = .include := decided.mpr rfl
    obtain ⟨-,res',st1',deposits',entityCount,storage,-,-,-,-,-,-,rfl⟩ := considerInclude _ run
    refine ⟨reads,by rw [calls.keepsLog, logged1],fun other => absurd rfl other,fun res'' st'' valid'' _ => ?_⟩
    obtain rfl := answered valid''
    refine ledger.addEntry rfl fun a => ⟨fun sponsored => ?_,fun _ => congrArg (·.lookup a) deposits⟩
    simp [sponsoredBy, unsponsored] at sponsored
  obtain ⟨reads1,logged2,ledger1⟩ := ledger.readDeposit b nonneg logged1 deposit
  cases c
  · -- not covered: the entry is deferred and the deposit read stays in the ledger
    have other : d ≠ .include := fun inc => by cases decided.mp inc
    obtain ⟨-,⟨deposits',rfl⟩,-⟩ := considerOther _ run other
    refine ⟨reads1,by rw [calls.keepsLog, logged2],fun _ => ledger1.congr rfl fun a => ?_,
      fun _ _ _ inc => absurd inc other⟩
    rw [deposits, lookups a, Pass.lookupSetDeposit]
    rfl
  · obtain rfl : d = .include := decided.mpr rfl
    obtain ⟨-,res',st1',deposits',entityCount,storage,-,-,-,-,-,-,rfl⟩ := considerInclude _ run
    refine ⟨reads1,by rw [calls.keepsLog, logged2],fun other => absurd rfl other,fun res'' st'' valid'' _ => ?_⟩
    obtain rfl := answered valid''
    refine ledger1.addEntry rfl fun a => ⟨fun sponsored => ?_,fun sponsored => ?_⟩
    · obtain rfl : e.op.paymaster = a := by
        simp only [sponsoredBy, Bool.and_eq_true, beq_iff_eq] at sponsored
        exact sponsored.2
      refine ⟨rem,by rw [Pass.lookupSetDeposit, if_pos rfl],covers.mp rfl,?_⟩
      rw [deposits, lookups, if_pos rfl, if_pos rfl]
    · have other : a ≠ e.op.paymaster := fun same => by rw [same, sponsoredBySelf has] at sponsored; cases sponsored
      rw [deposits, lookups, if_neg other, Pass.lookupSetDeposit, if_neg other]

theorem scanLedger {cfg : BuilderConfig} (l : List Entry) {p : Pass} {s : Service} {st : σ × DepositLog}
    {r : Except Fault Pass} {s' : Service} {st' : σ × DepositLog}
    (run : runSt (scan b.recordingDeposits cfg p l) s st = ((r,s'),st'))
    {included : List (Entry × Validation.Result)} {reads log : DepositLog} (ledger : p.Ledger included reads)
    (logged : st.2 = log ++ reads) {p'' : Pass} (ok : r = .ok p'') :
    ∃ answered more reads', b.recordingDeposits.Validations st answered st' ∧ more.Sublist answered ∧
      st'.2 = log ++ reads' ∧ p''.Ledger (included ++ more) reads' := by
  obtain ⟨answered,more,trace,sub,reads',logged',ledger'⟩ :=
    scanKeeps b.recordingDeposits (fun _ p included st => ∃ reads, st.2 = log ++ reads ∧ p.Ledger included reads)
      (fun ⟨reads,logged,ledger⟩ considered => by
        obtain ⟨reads1,logged1,other,added⟩ := considerLedger b nonneg considered ledger logged
        exact ⟨fun ne _ _ _ => ⟨reads1,logged1,(other ne).congr rfl fun _ => rfl⟩,
          fun res st1 valid inc => ⟨reads1,logged1,added res st1 valid inc⟩⟩)
      l run ⟨reads,logged,ledger⟩ ok
  exact ⟨answered,more,reads',trace,sub,logged',ledger'⟩

end

theorem Pass.Ledger.bounds {p : Pass} {included : List (Entry × Validation.Result)} {reads : DepositLog}
    (ledger : p.Ledger included reads) (a : Address) :
    (reads.filter (·.1 == a)).length ≤ 1 ∧
      ((∃ x ∈ included, sponsoredBy a x.1 = true) → ∃ d, (a,.ok d) ∈ reads) ∧
      ∀ d, (a,.ok d) ∈ reads → prefundsOf a included ≤ d ∧ FitsDeposit a d included := by
  cases found : p.deposits.lookup a with
  | none =>
    obtain ⟨unread,none⟩ := ledger.unread a found
    have fresh : reads.filter (·.1 == a) = [] := List.filter_eq_nil_iff.mpr fun x mem => by simp [unread x mem]
    refine ⟨by simp [fresh],fun ⟨x,mem,sponsored⟩ => ?_,fun d mem => absurd rfl (unread _ mem)⟩
    rw [none x mem] at sponsored
    cases sponsored
  | some rem =>
    obtain ⟨d,filtered,nonneg,remaining,fits⟩ := ledger.read a rem found
    have once : ∀ d', (a,.ok d') ∈ reads → d' = d := fun d' mem => by
      have kept : (a,.ok d') ∈ reads.filter (·.1 == a) := List.mem_filter.mpr ⟨mem,by simp⟩
      rw [filtered] at kept
      simpa using kept
    refine ⟨by simp [filtered],fun _ => ⟨d,?_⟩,fun d' mem => ?_⟩
    · have kept : (a,.ok d) ∈ reads.filter (·.1 == a) := by simp [filtered]
      exact (List.mem_filter.mp kept).1
    · obtain rfl := once d' mem
      exact ⟨by omega,fits⟩

/-- The paymasters' deposits across a build. Against collaborators whose deposit reads are logged, a
build that returns a bundle read each paymaster's deposit at most once, and once when the bundle
has an operation it sponsors; when the chain reports no negative deposit, the prefunds the validator
reported for the included operations a paymaster sponsors add up to at most the deposit read for it,
each fitting what remained after those before it in the bundle. An entry that reaches the ledger
with a prefund above what remains of its paymaster's deposit is deferred. -/
theorem paymasterDepositsCoverPrefunds {σ : Type} (b : Backend (StateM σ))
    (nonneg : ∀ a τ d, ((b.deposit a).run τ).1 = .ok d → 0 ≤ d) (s : Service) (entries : List Entry) (τ : σ)
    (log : DepositLog) (s' : Service) (τ' : σ) (log' : DepositLog) (built : Built)
    (run : runSt (build b.recordingDeposits entries) s (τ,log) = ((.ok built,s'),(τ',log'))) :
    (∃ answered included reads, b.recordingDeposits.Validations (τ,log) answered (τ',log') ∧
      included.Sublist answered ∧ included.map (·.1) = built.entries ∧ log' = log ++ reads ∧
      ∀ a, (reads.filter (·.1 == a)).length ≤ 1 ∧
        ((∃ x ∈ included, sponsoredBy a x.1 = true) → ∃ d, (a,.ok d) ∈ reads) ∧
        ∀ d, (a,.ok d) ∈ reads → prefundsOf a included ≤ d ∧ FitsDeposit a d included) ∧
    ∀ (cfg : BuilderConfig) (p : Pass) (e : Entry) (s0 : Service) (τ0 τ1 τ2 : σ) (res : Validation.Result)
      (rem : Int), p.screen s0.rep cfg.throttledEntityBundleCount e.op = none →
      (b.validate e.op true e.referenced).run τ0 = (.ok res,τ1) → p.foreignStorage e.op res = none →
      p.totalGas + opGas e.op res ≤ cfg.maxBundleGas.toNat → e.op.hasPaymaster = true →
      runIn (p.depositOf b e.op.paymaster) s0 τ1 = ((.ok rem,s0),τ2) → rem < res.returnInfo.prefund →
      runIn (consider b cfg p e) s0 τ0 = ((.ok (.defer,p.setDeposit e.op.paymaster rem),s0),τ2) := by
  refine ⟨?_,fun cfg p e s0 τ0 τ1 τ2 res rem screened valid foreign budget has remaining short =>
    considerDefersShortfall b screened valid foreign budget has remaining short⟩
  simp only [build, runStBind, runStConfig, runStGet] at run
  rcases scanned : runSt (scan b.recordingDeposits s.settings.config.builder.withDefaults
    { knownSenders := s.pool.knownSenders } entries) s (τ,log) with ⟨⟨r1,s1⟩,st1⟩
  simp only [scanned] at run
  cases r1 with
  | error f =>
    simp only [runStPure, Prod.mk.injEq] at run
    cases run.1.1
  | ok p =>
    simp only [runStRevertAll, runStBind, runStLog, runStPure, Prod.mk.injEq, Except.ok.injEq] at run
    obtain ⟨⟨rfl,rfl⟩,rfl⟩ := run
    obtain ⟨answered,included,reads,trace,sub,logged,ledger⟩ :=
      scanLedger b nonneg entries scanned (Pass.Ledger.start _) (List.append_nil log).symm rfl
    rw [List.nil_append] at ledger
    exact ⟨answered,included,reads,trace,sub,ledger.entries,logged,ledger.bounds⟩

theorem paymasterDepositsCoverTwoPrefunds :
    let b : Backend Sim.ScriptM := { Sim.backend .zero .absent with deposit := fun _ => pure (.ok 1500) }
    let first : Entry := { serial := 0, op := { sender := .ofNat 16, paymaster := .ofNat 80 }, hash := .ofNat 1 }
    let second : Entry := { serial := 1, op := { sender := .ofNat 17, paymaster := .ofNat 80 }, hash := .ofNat 2 }
    let run := runSt (build b.recordingDeposits [first,second]) (Service.create { config := default }) ({},[])
    (∀ a τ d, ((b.deposit a).run τ).1 = .ok d → 0 ≤ d) ∧
      ∃ built : Built, run.1.1 = .ok built ∧ built.entries.map (·.hash) = [first.hash] ∧
        built.deferred = [second.hash] ∧ ∃ included reads, included.map (·.1) = built.entries ∧
          run.2.2 = [] ++ reads ∧ (reads.filter (·.1 == .ofNat 80)).length ≤ 1 ∧
          ∀ d, (.ofNat 80,.ok d) ∈ reads → prefundsOf (.ofNat 80) included ≤ d := by
  intro b first second
  have nonneg : ∀ a τ d, ((b.deposit a).run τ).1 = .ok d → 0 ≤ d := fun a τ d read => by
    cases read
    decide
  have decided : ((runSt (build b.recordingDeposits [first,second]) (Service.create { config := default })
      ({},[])).1.1.toOption.any
      fun built => built.entries.map (·.hash) == [first.hash] && built.deferred == [second.hash]) = true := by
    decide +kernel
  generalize ran : runSt (build b.recordingDeposits [first,second]) (Service.create { config := default }) ({},[]) =
    out at decided ⊢
  obtain ⟨⟨r,s'⟩,τ',log'⟩ := out
  cases r with
  | error f => cases decided
  | ok built =>
    change (built.entries.map (·.hash) == [first.hash] && built.deferred == [second.hash]) = true at decided
    simp only [Bool.and_eq_true, beq_iff_eq] at decided
    obtain ⟨⟨answered,included,reads,-,-,entries,logged,bounds⟩,-⟩ :=
      paymasterDepositsCoverPrefunds b nonneg _ _ _ _ _ _ _ _ ran
    exact ⟨nonneg,built,rfl,decided.1,decided.2,included,reads,entries,logged,(bounds _).1,
      fun d mem => ((bounds _).2.2 d mem).1⟩

end Erc4337.Bundle
