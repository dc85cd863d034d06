import Erc4337.Bundle.Builder
import Erc4337.Proofs.Service.Run
import Erc4337.Proofs.Mempool.Representation
/-! Considering one entry during a build, against collaborators that keep a state of their own. The
inversion lemma `considerCases` says everything one consideration can do: it writes only the
journal; an entry it does not include leaves the pass as it was but for the deposits read; and an
entry it includes passed the reputation, sender, storage and gas checks on the answer the
validator gave in the state the entry was reached in, and adds its gas, its sender and its
paymaster and factory to the pass. `scanKeeps` lifts what every consideration keeps to a whole
scan. -/
namespace Erc4337.Service

variable {σ : Type} (b : Backend (StateM σ))

inductive Backend.Reads : σ → σ → Prop where
  | refl (τ : σ) : Backend.Reads τ τ
  | cancelled {τ τ' : σ} : Backend.Reads (b.cancelled.run τ).2 τ' → Backend.Reads τ τ'
  | deposit {τ τ' : σ} (a : Address) : Backend.Reads ((b.deposit a).run τ).2 τ' → Backend.Reads τ τ'
  | storageRoot {τ τ' : σ} (a : Address) : Backend.Reads ((b.storageRoot a).run τ).2 τ' → Backend.Reads τ τ'

theorem Backend.Reads.trans {b : Backend (StateM σ)} {τ τ1 τ2 : σ} (first : b.Reads τ τ1) (second : b.Reads τ1 τ2) :
    b.Reads τ τ2 := by
  induction first with
  | refl => exact second
  | cancelled _ ih => exact .cancelled (ih second)
  | deposit a _ ih => exact .deposit a (ih second)
  | storageRoot a _ ih => exact .storageRoot a (ih second)

inductive Backend.Validations : σ → List (Mempool.Entry × Validation.Result) → σ → Prop where
  | refl (τ : σ) : Backend.Validations τ [] τ
  | read {τ τ1 τ' : σ} {l : List (Mempool.Entry × Validation.Result)} :
      b.Reads τ τ1 → Backend.Validations τ1 l τ' → Backend.Validations τ l τ'
  | refused {τ τ1 τ' : σ} {l : List (Mempool.Entry × Validation.Result)} (e : Mempool.Entry) (f : Fault) :
      (b.validate e.op true e.referenced).run τ = (.error f,τ1) → Backend.Validations τ1 l τ' →
        Backend.Validations τ l τ'
  | answered {τ τ1 τ' : σ} {l : List (Mempool.Entry × Validation.Result)} (e : Mempool.Entry)
      (res : Validation.Result) :
      (b.validate e.op true e.referenced).run τ = (.ok res,τ1) → Backend.Validations τ1 l τ' →
        Backend.Validations τ ((e,res) :: l) τ'

theorem Backend.Validations.trans {b : Backend (StateM σ)} {τ τ1 τ2 : σ}
    {l1 l2 : List (Mempool.Entry × Validation.Result)} (first : b.Validations τ l1 τ1)
    (second : b.Validations τ1 l2 τ2) : b.Validations τ (l1 ++ l2) τ2 := by
  induction first with
  | refl => exact second
  | read reads _ ih => exact .read reads (ih second)
  | refused e f valid _ ih => exact .refused e f valid (ih second)
  | answered e res valid _ ih => exact .answered e res valid (ih second)

end Erc4337.Service

namespace Erc4337.Bundle
open Service

def sponsors (op : UserOperation) : List Address :=
  (if op.hasPaymaster then [op.paymaster] else []) ++ (if op.hasFactory then [op.factory] else [])

theorem countSponsors (op : UserOperation) (a : Address) :
    (sponsors op).count a =
      (if op.hasPaymaster ∧ op.paymaster = a then 1 else 0) + (if op.hasFactory ∧ op.factory = a then 1 else 0) := by
  by_cases paymaster : op.hasPaymaster <;> by_cases factory : op.hasFactory <;>
    simp [sponsors, paymaster, factory, List.count_cons, Nat.add_comm]

theorem Pass.countBump (p : Pass) (a x : Address) : (p.bump a).count x = p.count x + if a = x then 1 else 0 := by
  by_cases same : a = x
  · subst same; simp [Pass.bump, Pass.count]
  · simp only [Pass.bump, Pass.count, if_neg same, Nat.add_zero]
    rw [Mempool.lookupSetNe _ _ (Ne.symm same)]

theorem Pass.screenEqSome {p : Pass} {rep : Reputation.Tracker} {limit : Int} {op : UserOperation} {d : Decision}
    (screened : p.screen rep limit op = some d) : d = .remove ∨ d = .defer := by
  simp only [Pass.screen] at screened
  split at screened
  · cases screened; simp
  split at screened
  · cases screened; simp
  split at screened
  · cases screened; simp
  split at screened
  · cases screened; simp
  · cases screened

theorem Pass.screenEqNone {p : Pass} {rep : Reputation.Tracker} {limit : Int} {op : UserOperation} :
    p.screen rep limit op = none ↔
      rep.status op.paymaster ≠ .banned ∧ rep.status op.factory ≠ .banned ∧
        (rep.status op.paymaster = .throttled → (p.count op.paymaster : Int) < limit) ∧
        (rep.status op.factory = .throttled → (p.count op.factory : Int) < limit) ∧ op.sender ∉ p.senders := by
  simp only [Pass.screen]
  split
  · rename_i banned
    simp only [Bool.or_eq_true, decide_eq_true_eq] at banned
    simp only [reduceCtorEq, false_iff, not_and]
    intro paymaster factory
    rcases banned with banned | banned <;> contradiction
  split
  · rename_i throttled
    simp only [Bool.and_eq_true, decide_eq_true_eq] at throttled
    simp only [reduceCtorEq, false_iff, not_and]
    intro _ _ paymaster
    have := paymaster throttled.1
    omega
  split
  · rename_i throttled
    simp only [Bool.and_eq_true, decide_eq_true_eq] at throttled
    simp only [reduceCtorEq, false_iff, not_and]
    intro _ _ _ factory
    have := factory throttled.1
    omega
  split
  · rename_i known
    simp only [List.contains_iff_mem] at known
    simp [known]
  · rename_i banned throttled throttledFactory known
    simp only [Bool.or_eq_true, Bool.and_eq_true, decide_eq_true_eq, not_or, not_and, Int.not_le] at *
    simp only [true_iff]
    exact ⟨banned.1,banned.2,throttled,throttledFactory,by simpa using known⟩

section
variable {σ : Type} (b : Backend (StateM σ))

theorem Pass.depositOfRun (p : Pass) (a : Address) (s : Service) (τ : σ) :
    ∃ ans τ1, b.Reads τ τ1 ∧ runIn (p.depositOf b a) s τ = ((ans,s),τ1) := by
  cases cached : p.deposits.lookup a with
  | some d => exact ⟨.ok d,τ,.refl τ,by simp [Pass.depositOf, cached]⟩
  | none =>
    refine ⟨((b.deposit a).run τ).1,((b.deposit a).run τ).2,.deposit a (.refl _),?_⟩
    simp [Pass.depositOf, cached]

theorem Pass.chargeCases {p : Pass} {op : UserOperation} {prefund : Int} {s : Service} {τ : σ}
    {r : Except Fault (Bool × Pass)} {s' : Service} {τ' : σ}
    (run : runIn (p.charge b op prefund) s τ = ((r,s'),τ')) :
    s' = s ∧ b.Reads τ τ' ∧ ∀ c q, r = .ok (c,q) →
      (c = false → q = { p with deposits := q.deposits }) ∧
      (c = true → q = { p with deposits := q.deposits, entityCount := q.entityCount } ∧
        ∀ a, q.count a = p.count a + if op.hasPaymaster ∧ op.paymaster = a then 1 else 0) := by
  by_cases has : op.hasPaymaster
  · obtain ⟨ans,τ1,reads,deposit⟩ := p.depositOfRun b op.paymaster s τ
    cases ans with
    | error f =>
      simp [Pass.charge, has, deposit] at run
      obtain ⟨⟨rfl,rfl⟩,rfl⟩ := run
      exact ⟨rfl,reads,fun c q same => by cases same⟩
    | ok d =>
      by_cases low : d < prefund
      · simp [Pass.charge, has, deposit, low] at run
        obtain ⟨⟨rfl,rfl⟩,rfl⟩ := run
        refine ⟨rfl,reads,fun c q same => ?_⟩
        cases same
        exact ⟨fun _ => rfl,fun h => by cases h⟩
      · simp [Pass.charge, has, deposit, low] at run
        obtain ⟨⟨rfl,rfl⟩,rfl⟩ := run
        refine ⟨rfl,reads,fun c q same => ?_⟩
        cases same
        refine ⟨fun h => (by cases h),fun _ => ⟨rfl,fun a => ?_⟩⟩
        rw [Pass.countBump]
        simp [Pass.count, Pass.setDeposit, has]
  · simp [Pass.charge, has] at run
    obtain ⟨⟨rfl,rfl⟩,rfl⟩ := run
    refine ⟨rfl,.refl τ,fun c q same => ?_⟩
    cases same
    simp [has]

theorem considerCases {cfg : BuilderConfig} {p : Pass} {e : Mempool.Entry} {s : Service} {τ : σ}
    {r : Except Fault (Decision × Pass)} {s' : Service} {τ' : σ}
    (run : runIn (consider b cfg p e) s τ = ((r,s'),τ')) :
    s' = { s with journal := s'.journal } ∧
      (((b.Reads τ τ' ∨ ∃ ans τ1, (b.validate e.op true e.referenced).run τ = (ans,τ1) ∧ b.Reads τ1 τ') ∧
          ∀ d p', r = .ok (d,p') → d ≠ .include ∧ p' = { p with deposits := p'.deposits }) ∨
        ∃ (res : Validation.Result) (τ1 : σ) (q : Pass) (storage : StorageMap),
          (b.validate e.op true e.referenced).run τ = (.ok res,τ1) ∧ b.Reads τ1 τ' ∧
          p.screen s.rep cfg.throttledEntityBundleCount e.op = none ∧ p.foreignStorage e.op res = none ∧
          p.totalGas + opGas e.op res ≤ cfg.maxBundleGas.toNat ∧
          q = { p with deposits := q.deposits, entityCount := q.entityCount } ∧
          (∀ a, q.count a = p.count a + (sponsors e.op).count a) ∧
          (cfg.conditionalRpc = true ∧ e.op.hasFactory = false →
            ∃ root, storage = p.built.storageMap.set e.op.sender (.root root)) ∧
          (¬(cfg.conditionalRpc = true ∧ e.op.hasFactory = false) → storage = p.built.storageMap.merge res.storageMap) ∧
          r = .ok (.include,q.add e storage (opGas e.op res))) := by
  cases screened : p.screen s.rep cfg.throttledEntityBundleCount e.op with
  | some d =>
    rcases Pass.screenEqSome screened with rfl | rfl
    · simp [consider, screened] at run
      obtain ⟨⟨rfl,rfl⟩,rfl⟩ := run
      exact ⟨rfl,.inl ⟨.inl (.refl τ),fun d p' same => by cases same; exact ⟨by decide,rfl⟩⟩⟩
    · simp [consider, screened] at run
      obtain ⟨⟨rfl,rfl⟩,rfl⟩ := run
      exact ⟨rfl,.inl ⟨.inl (.refl τ),fun d p' same => by cases same; exact ⟨by decide,rfl⟩⟩⟩
  | none =>
    cases valid : (b.validate e.op true e.referenced).run τ with
    | mk ans τ1 =>
    cases ans with
    | error err =>
      cases cancel : b.cancelled.run τ1 with
      | mk c τ2 =>
      have reads : b.Reads τ1 τ2 := .cancelled (by rw [cancel]; exact .refl τ2)
      cases c
      · simp [consider, screened, valid, cancel] at run
        obtain ⟨⟨rfl,rfl⟩,rfl⟩ := run
        exact ⟨rfl,.inl ⟨.inr ⟨_,τ1,rfl,reads⟩,fun d p' same => by cases same; exact ⟨by decide,rfl⟩⟩⟩
      · simp [consider, screened, valid, cancel] at run
        obtain ⟨⟨rfl,rfl⟩,rfl⟩ := run
        exact ⟨rfl,.inl ⟨.inr ⟨_,τ1,rfl,reads⟩,fun d p' same => by cases same⟩⟩
    | ok res =>
    cases foreign : p.foreignStorage e.op res with
    | some a =>
      simp [consider, screened, valid, foreign] at run
      obtain ⟨⟨rfl,rfl⟩,rfl⟩ := run
      exact ⟨rfl,.inl ⟨.inr ⟨_,τ1,rfl,.refl τ1⟩,fun d p' same => by cases same; exact ⟨by decide,rfl⟩⟩⟩
    | none =>
    by_cases overBudget : (cfg.maxBundleGas.toNat : Int) < p.totalGas + opGas e.op res
    · simp [consider, screened, valid, foreign, overBudget] at run
      obtain ⟨⟨rfl,rfl⟩,rfl⟩ := run
      exact ⟨rfl,.inl ⟨.inr ⟨_,τ1,rfl,.refl τ1⟩,fun d p' same => by cases same; exact ⟨by decide,rfl⟩⟩⟩
    cases charged : runIn (p.charge b e.op res.returnInfo.prefund) s τ1 with
    | mk out τ2 =>
    obtain ⟨rc,sc⟩ := out
    obtain ⟨rfl,reads,shape⟩ := Pass.chargeCases b charged
    cases rc with
    | error f =>
      simp [consider, screened, valid, foreign, overBudget, charged] at run
      obtain ⟨⟨rfl,rfl⟩,rfl⟩ := run
      exact ⟨rfl,.inl ⟨.inr ⟨_,τ1,rfl,reads⟩,fun d p' same => by cases same⟩⟩
    | ok out =>
    obtain ⟨c,q⟩ := out
    cases c
    · simp [consider, screened, valid, foreign, overBudget, charged] at run
      obtain ⟨⟨rfl,rfl⟩,rfl⟩ := run
      exact ⟨rfl,.inl ⟨.inr ⟨_,τ1,rfl,reads⟩,fun d p' same => by
        cases same; exact ⟨by decide,(shape false q rfl).1 rfl⟩⟩⟩
    obtain ⟨covered,counted⟩ := (shape true q rfl).2 rfl
    let q' := if e.op.hasFactory then q.bump e.op.factory else q
    have shaped : q' = { p with deposits := q'.deposits, entityCount := q'.entityCount } := by
      by_cases factory : e.op.hasFactory
      · simp only [q', factory, if_true]
        conv_lhs => rw [covered]
        rfl
      · simp only [q', factory]
        exact covered
    have sponsored : ∀ a, q'.count a = p.count a + (sponsors e.op).count a := by
      intro a
      rw [countSponsors]
      by_cases factory : e.op.hasFactory
      · simp only [q', factory, if_true, Pass.countBump, counted]
        by_cases same : e.op.factory = a <;> simp [same, Nat.add_assoc]
      · simp [q', factory, counted]
    by_cases conditional : cfg.conditionalRpc = true ∧ e.op.hasFactory = false
    · cases rooted : (b.storageRoot e.op.sender).run τ2 with
      | mk ans' τ3 =>
      have reads' : b.Reads τ1 τ3 := reads.trans (.storageRoot e.op.sender (by rw [rooted]; exact .refl τ3))
      cases ans' with
      | error f =>
        simp [consider, screened, valid, foreign, overBudget, charged, conditional, rooted] at run
        obtain ⟨⟨rfl,rfl⟩,rfl⟩ := run
        exact ⟨rfl,.inl ⟨.inr ⟨_,τ1,rfl,reads'⟩,fun d p' same => by cases same⟩⟩
      | ok root =>
        simp [consider, screened, valid, foreign, overBudget, charged, conditional, rooted] at run
        obtain ⟨⟨rfl,rfl⟩,rfl⟩ := run
        have plain : q' = q := by simp [q', conditional.2]
        rw [plain] at shaped sponsored
        exact ⟨rfl,.inr ⟨res,τ1,q,_,rfl,reads',rfl,foreign,Int.not_lt.mp overBudget,shaped,sponsored,
          fun _ => ⟨root,by rw [covered]⟩,fun other => absurd conditional other,rfl⟩⟩
    · simp [consider, screened, valid, foreign, overBudget, charged, conditional] at run
      obtain ⟨⟨rfl,rfl⟩,rfl⟩ := run
      exact ⟨rfl,.inr ⟨res,τ1,q',_,rfl,reads,rfl,foreign,Int.not_lt.mp overBudget,shaped,sponsored,
        fun pinned => absurd pinned conditional,fun _ =>
          (congrArg (fun x : Pass => x.built.storageMap.merge res.storageMap) shaped).trans rfl,rfl⟩⟩

theorem considerKeeps {cfg : BuilderConfig} {p : Pass} {e : Mempool.Entry} {s s' : Service} {τ τ' : σ}
    {r : Except Fault (Decision × Pass)} (run : runIn (consider b cfg p e) s τ = ((r,s'),τ')) :
    s'.pool = s.pool ∧ s'.rep = s.rep := by
  have frame := (considerCases b run).1
  exact ⟨by rw [frame],by rw [frame]⟩

theorem considerOther {cfg : BuilderConfig} {p p' : Pass} {e : Mempool.Entry} {s s' : Service} {τ τ' : σ}
    {d : Decision} (run : runIn (consider b cfg p e) s τ = ((.ok (d,p'),s'),τ')) (other : d ≠ .include) :
    s' = { s with journal := s'.journal } ∧ (∃ deposits, p' = { p with deposits }) ∧
      ∃ l, b.Validations τ l τ' := by
  obtain ⟨frame,⟨reads,kept⟩ | ⟨res,τ1,q,storage,-,-,-,-,-,-,-,-,-,same⟩⟩ := considerCases b run
  · refine ⟨frame,⟨p'.deposits,(kept d p' rfl).2⟩,?_⟩
    rcases reads with reads | ⟨ans,τ1,valid,reads⟩
    · exact ⟨[],.read reads (.refl τ')⟩
    · cases ans with
      | error f => exact ⟨[],.refused e f valid (.read reads (.refl τ'))⟩
      | ok res => exact ⟨[(e,res)],.answered e res valid (.read reads (.refl τ'))⟩
  · cases same
    exact absurd rfl other

theorem considerInclude {cfg : BuilderConfig} {p p' : Pass} {e : Mempool.Entry} {s s' : Service} {τ τ' : σ}
    (run : runIn (consider b cfg p e) s τ = ((.ok (.include,p'),s'),τ')) :
    s' = { s with journal := s'.journal } ∧
      ∃ (res : Validation.Result) (τ1 : σ) (deposits : List (Address × Int)) (entityCount : List (Address × Nat))
        (storage : StorageMap),
        (b.validate e.op true e.referenced).run τ = (.ok res,τ1) ∧ b.Reads τ1 τ' ∧
        p.screen s.rep cfg.throttledEntityBundleCount e.op = none ∧ p.foreignStorage e.op res = none ∧
        p.totalGas + opGas e.op res ≤ cfg.maxBundleGas.toNat ∧
        (∀ a, ({ p with deposits, entityCount } : Pass).count a = p.count a + (sponsors e.op).count a) ∧
        p' = ({ p with deposits, entityCount } : Pass).add e storage (opGas e.op res) := by
  obtain ⟨frame,⟨-,kept⟩ | ⟨res,τ1,q,storage,valid,reads,screened,foreign,budget,shape,counted,-,-,same⟩⟩ :=
    considerCases b run
  · exact absurd rfl (kept .include p' rfl).1
  · cases same
    rw [shape] at counted
    exact ⟨frame,res,τ1,q.deposits,q.entityCount,storage,valid,reads,screened,foreign,budget,counted,by rw [← shape]⟩

theorem considerIncludeStorage {cfg : BuilderConfig} {p p' : Pass} {e : Mempool.Entry} {s s' : Service} {τ τ' : σ}
    (run : runIn (consider b cfg p e) s τ = ((.ok (.include,p'),s'),τ')) :
    ∃ (res : Validation.Result) (τ1 : σ), (b.validate e.op true e.referenced).run τ = (.ok res,τ1) ∧
      p'.built.entries = p.built.entries ++ [e] ∧
      (cfg.conditionalRpc = true ∧ e.op.hasFactory = false →
        ∃ root, p'.built.storageMap = p.built.storageMap.set e.op.sender (.root root)) ∧
      (¬(cfg.conditionalRpc = true ∧ e.op.hasFactory = false) →
        p'.built.storageMap = p.built.storageMap.merge res.storageMap) := by
  obtain ⟨-,⟨-,kept⟩ | ⟨res,τ1,q,storage,valid,-,-,-,-,shape,-,pinned,merged,same⟩⟩ := considerCases b run
  · exact absurd rfl (kept .include p' rfl).1
  · cases same
    have built : q.built = p.built := by rw [shape]
    exact ⟨res,τ1,valid,by simp [Pass.add, built],pinned,merged⟩

theorem scanKeeps {cfg : BuilderConfig} (Inv : Service → Pass → List (Mempool.Entry × Validation.Result) → σ → Prop)
    (step : ∀ {p p' : Pass} {e : Mempool.Entry} {s s' : Service} {τ τ' : σ} {d : Decision}
      {included : List (Mempool.Entry × Validation.Result)}, Inv s p included τ →
      runIn (consider b cfg p e) s τ = ((.ok (d,p'),s'),τ') →
      (d ≠ .include → ∀ (pool : Mempool.Pool) (deferred removed : List Hash),
        Inv { s' with pool } { p' with built := { p'.built with deferred, removed } } included τ') ∧
      ∀ res τ1, (b.validate e.op true e.referenced).run τ = (.ok res,τ1) → d = .include →
        Inv s' p' (included ++ [(e,res)]) τ')
    (l : List Mempool.Entry) {p : Pass} {s : Service} {τ : σ} {r : Except Fault Pass} {s' : Service} {τ' : σ}
    (run : runSt (scan b cfg p l) s τ = ((r,s'),τ')) {included : List (Mempool.Entry × Validation.Result)}
    (holds : Inv s p included τ) {p'' : Pass} (ok : r = .ok p'') :
    ∃ answered more, b.Validations τ answered τ' ∧ more.Sublist answered ∧ Inv s' p'' (included ++ more) τ' := by
  induction l generalizing p s τ included with
  | nil =>
    simp only [scan, runStPure, Prod.mk.injEq] at run
    obtain ⟨⟨rfl,rfl⟩,rfl⟩ := run
    cases ok
    exact ⟨[],[],.refl τ,.slnil,by simpa using holds⟩
  | cons e rest ih =>
    rcases considered : runIn (consider b cfg p e) s τ with ⟨⟨r1,s1⟩,τ1⟩
    simp only [scan, runStBind, runStExcept, considered] at run
    cases r1 with
    | error f =>
      simp only [runStRevertAll, runStBind, runStPure, Prod.mk.injEq] at run
      obtain ⟨⟨rfl,rfl⟩,rfl⟩ := run
      cases ok
    | ok out =>
    obtain ⟨d,p'⟩ := out
    obtain ⟨other,added⟩ := step holds considered
    cases d with
    | «include» =>
      obtain ⟨-,res,τ2,-,-,-,valid,reads,-⟩ := considerInclude b considered
      obtain ⟨answered,more,trace,sub,holds''⟩ := ih run (added res τ2 valid rfl)
      rw [List.append_assoc] at holds''
      exact ⟨(e,res) :: answered,(e,res) :: more,.answered e res valid (.read reads trace),sub.cons_cons _,holds''⟩
    | defer =>
      obtain ⟨-,-,l0,trace0⟩ := considerOther b considered (by decide)
      obtain ⟨answered,more,trace,sub,holds''⟩ :=
        ih run (other (by decide) s1.pool (p'.built.deferred ++ [e.hash]) p'.built.removed)
      exact ⟨l0 ++ answered,more,trace0.trans trace,sub.trans (List.sublist_append_right l0 answered),holds''⟩
    | remove =>
      obtain ⟨-,-,l0,trace0⟩ := considerOther b considered (by decide)
      simp only [runStBind, removeFromPool, runStModifyPool] at run
      obtain ⟨answered,more,trace,sub,holds''⟩ :=
        ih run (other (by decide) _ p'.built.deferred (p'.built.removed ++ [e.hash]))
      exact ⟨l0 ++ answered,more,trace0.trans trace,sub.trans (List.sublist_append_right l0 answered),holds''⟩
    | stop =>
      obtain ⟨-,-,l0,trace0⟩ := considerOther b considered (by decide)
      simp only [runStPure, Prod.mk.injEq] at run
      obtain ⟨⟨rfl,rfl⟩,rfl⟩ := run
      cases ok
      exact ⟨l0,[],trace0,List.nil_sublist _,by
        rw [List.append_nil]
        exact other (by decide) _ (p'.built.deferred ++ (e :: rest).map (·.hash)) p'.built.removed⟩

end

end Erc4337.Bundle
