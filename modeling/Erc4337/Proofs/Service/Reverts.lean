import Mathlib.Logic.Function.Iterate
import Erc4337.Proofs.Mempool.Release
import Erc4337.Proofs.Reputation.Severity
import Erc4337.Proofs.Service.Run
import Erc4337.Service.Inclusion
/-! The inclusion tracker's counts of reverted bundles. A sent bundle ends in one of three ways
(`Outcome`, read off its receipt lookup by `conclude`): mined, and its operations leave the pool and credit their entities; mined but
reverted, and each operation's count goes up, the operation being dropped instead when the count
would reach three; or not found in time, and its operations go back to pending.

A count is kept only while it is one or two. Read over a history of outcomes (`Handles`), the
count of a hash is the number of reverted bundles carrying it since the last included one, modulo
three, so a reverted bundle drops an operation exactly at the third failure since its count was
last cleared, by an inclusion or by the drop before. The counts are keyed by hash: what is said
of one hash holds where it names one entry of each bundle and of the pool. -/
namespace Erc4337.Mempool

def Pool.carrying (p : Pool) (h : Hash) : List Entry := p.entries.filter (·.hash = h)

theorem carryingMap (l : List Entry) (h : Hash) {f : Entry → Entry} (g : Entry → Entry)
    (keeps : ∀ x, (f x).hash = x.hash) (acts : ∀ x, x.hash = h → f x = g x) :
    (l.map f).filter (·.hash = h) = (l.filter (·.hash = h)).map g := by
  rw [List.filter_map]
  have selects : ((fun x : Entry => decide (x.hash = h)) ∘ f) = fun x => decide (x.hash = h) := by
    funext x
    simp [keeps]
  rw [selects]
  exact List.map_congr_left fun x mem => acts x (by simpa using (List.mem_filter.mp mem).2)

namespace Pool.WellFormed
variable {p : Pool} (wf : p.WellFormed)
include wf

theorem carryingRevert (h' h : Hash) :
    (p.revert h').carrying h =
      if h' = h then (p.carrying h).map fun x => { x with status := .pending } else p.carrying h := by
  unfold Pool.carrying
  rw [wf.revertEntries]
  by_cases same : h' = h
  · rw [if_pos same, carryingMap _ h fun x => { x with status := .pending }]
    · intro x; split <;> rfl
    · intro x carries; simp [carries, same]
  · rw [if_neg same, carryingMap _ h id, List.map_id]
    · intro x; split <;> rfl
    · intro x carries; simp [carries, Ne.symm same]

theorem carryingRemove (h' h : Hash) : (p.remove h').1.carrying h = if h' = h then [] else p.carrying h := by
  unfold Pool.carrying
  rw [wf.removeEntries, List.filter_filter]
  by_cases same : h' = h
  · subst same
    simp
  · rw [if_neg same]
    refine List.filter_congr fun x _ => ?_
    by_cases carries : x.hash = h
    · simp [carries, Ne.symm same]
    · simp [carries]

theorem removeAll (hs : List Hash) (h : Hash) :
    (hs.foldl (fun q h => (q.remove h).1) p).WellFormed ∧
      (hs.foldl (fun q h => (q.remove h).1) p).carrying h = if h ∈ hs then [] else p.carrying h := by
  induction hs generalizing p with
  | nil => exact ⟨wf,by simp⟩
  | cons h' rest ih =>
    obtain ⟨wf',carrying⟩ := ih (wf.remove h')
    refine ⟨wf',?_⟩
    rw [List.foldl_cons, carrying, wf.carryingRemove]
    by_cases same : h' = h
    · simp [same]
    · simp [same, Ne.symm same]

theorem carryingRevertAll (hs : List Hash) (h : Hash) :
    (hs.foldl (fun q h => q.revert h) p).carrying h =
      if h ∈ hs then (p.carrying h).map fun x => { x with status := .pending } else p.carrying h := by
  unfold Pool.carrying
  rw [(wf.revertAll hs).2]
  by_cases released : h ∈ hs
  · rw [if_pos released, carryingMap _ h fun x => { x with status := .pending }]
    · intro x; split <;> rfl
    · intro x carries; simp [carries, released]
  · rw [if_neg released, carryingMap _ h id, List.map_id]
    · intro x; split <;> rfl
    · intro x carries; simp [carries, released]

end Pool.WellFormed

end Erc4337.Mempool

namespace Erc4337.Service
open Mempool

inductive Outcome where
  | included
  | reverted
  | missing
  deriving DecidableEq

def Outcome.handle {n : Type → Type} [Monad n] [MonadStateOf Service n] (sub : Submission) : Outcome → n Unit
  | .included => settle sub
  | .reverted => releaseReverted sub
  | .missing => release sub

def credited (e : Entry) : List Address := [e.op.sender, e.op.paymaster, e.op.factory, e.aggregator]

def Outcome.ofReceipt : Except Fault (Option Node.Receipt) → Outcome
  | .ok (some r) => if r.status == 1 then .included else .reverted
  | _ => .missing

def revertOne (x : Pool × List (Hash × Nat)) (e : Entry) : Pool × List (Hash × Nat) :=
  let count := (x.2.lookup e.hash).getD 0 + 1
  if count < maxOnChainReverts then (x.1.revert e.hash,(e.hash,count) :: x.2.filter (·.1 != e.hash))
  else ((x.1.remove e.hash).1,x.2.filter (·.1 != e.hash))

section Runs
variable {σ : Type}

@[simp] theorem runStGetThe (s : Service) (τ : σ) : runSt (getThe Service : SvcM (StateM σ) Service) s τ = ((s,s),τ) :=
  rfl

@[simp] theorem runStSetReverts (h : Hash) (v : Option Nat) (s : Service) (τ : σ) :
    runSt (setReverts h v : SvcM (StateM σ) Unit) s τ =
      (((),{ s with reverts := match v with
        | some k => (h,k) :: s.reverts.filter (·.1 != h)
        | none => s.reverts.filter (·.1 != h) }),τ) := rfl

@[simp] theorem runStRevertToPending (h : Hash) (s : Service) (τ : σ) :
    runSt (revertToPending h : SvcM (StateM σ) Unit) s τ = (((),{ s with pool := s.pool.revert h }),τ) := rfl

@[simp] theorem runStRemoveFromPool (h : Hash) (s : Service) (τ : σ) :
    runSt (removeFromPool h : SvcM (StateM σ) Unit) s τ = (((),{ s with pool := (s.pool.remove h).1 }),τ) := rfl

theorem runStReleaseReverted (sub : Submission) (s : Service) (τ : σ) :
    ((runSt (releaseReverted sub) s τ).1.2.pool,(runSt (releaseReverted sub) s τ).1.2.reverts) =
      sub.entries.foldl revertOne (s.pool,s.reverts) ∧ (runSt (releaseReverted sub) s τ).1.2.rep = s.rep := by
  unfold releaseReverted
  simp only [bind_pure_unit]
  generalize sub.entries = l
  induction l generalizing s with
  | nil => exact ⟨rfl,rfl⟩
  | cons e rest ih =>
    simp only [List.forIn_cons, runStBind, runStGetThe, List.foldl_cons]
    by_cases below : revertCount s e.hash + 1 < maxOnChainReverts
    · simp only [below, if_true, runStBind, runStSetReverts, runStRevertToPending, runStPure]
      refine ⟨?_,(ih _).2⟩
      rw [(ih _).1]
      simp [revertOne, revertCount, show (s.reverts.lookup e.hash).getD 0 + 1 < maxOnChainReverts from below]
    · simp only [below, if_false, runStBind, runStSetReverts, runStRemoveFromPool, runStLog, runStPure]
      refine ⟨?_,(ih _).2⟩
      rw [(ih _).1]
      simp [revertOne, show ¬(s.reverts.lookup e.hash).getD 0 + 1 < maxOnChainReverts from below]

theorem poolReleaseReverted (sub : Submission) (s : Service) (τ : σ) :
    (runSt (releaseReverted sub) s τ).1.2.pool = (sub.entries.foldl revertOne (s.pool,s.reverts)).1 := by
  rw [← (runStReleaseReverted sub s τ).1]

theorem revertsReleaseReverted (sub : Submission) (s : Service) (τ : σ) :
    (runSt (releaseReverted sub) s τ).1.2.reverts = (sub.entries.foldl revertOne (s.pool,s.reverts)).2 := by
  rw [← (runStReleaseReverted sub s τ).1]

theorem repReleaseReverted (sub : Submission) (s : Service) (τ : σ) :
    (runSt (releaseReverted sub) s τ).1.2.rep = s.rep := (runStReleaseReverted sub s τ).2

theorem runStClearCounts (l : List Entry) (s : Service) (τ : σ) :
    runSt (forIn l PUnit.unit fun e _ => do
        setReverts e.hash none
        pure (ForInStep.yield PUnit.unit) : SvcM (StateM σ) PUnit) s τ =
      ((PUnit.unit,{ s with reverts := l.foldl (fun r e => r.filter (·.1 != e.hash)) s.reverts }),τ) := by
  induction l generalizing s with
  | nil => rfl
  | cons e rest ih =>
    simp only [List.forIn_cons, runStBind, runStSetReverts, runStPure]
    exact ih _

theorem runStCreditAll (l : List Entry) (s : Service) (τ : σ) :
    runSt (forIn l PUnit.unit fun e _ => do
        removeFromPool e.hash
        modifyRep fun r => (((r.recordIncluded e.op.sender).recordIncluded e.op.paymaster).recordIncluded
          e.op.factory).recordIncluded e.aggregator
        pure (ForInStep.yield PUnit.unit) : SvcM (StateM σ) PUnit) s τ =
      ((PUnit.unit,{ s with
        pool := l.foldl (fun q e => (q.remove e.hash).1) s.pool
        rep := l.foldl (fun r e => (credited e).foldl Reputation.Tracker.recordIncluded r) s.rep }),τ) := by
  induction l generalizing s with
  | nil => rfl
  | cons e rest ih =>
    simp only [List.forIn_cons, runStBind, runStRemoveFromPool, runStModifyRep, runStPure]
    exact ih _

theorem runStSettle (sub : Submission) (s : Service) (τ : σ) :
    (runSt (settle sub) s τ).1.2.reverts = sub.entries.foldl (fun r e => r.filter (·.1 != e.hash)) s.reverts ∧
      (runSt (settle sub) s τ).1.2.pool = sub.entries.foldl (fun q e => (q.remove e.hash).1) s.pool ∧
      (runSt (settle sub) s τ).1.2.rep = (sub.entries.flatMap credited).foldl Reputation.Tracker.recordIncluded s.rep := by
  unfold settle
  simp only [runStBind, runStClearCounts, runStCreditAll, runStMetric, noteMetricReverts, noteMetricRep,
    noteMetricPool, List.foldl_flatMap, and_self]

theorem runStRelease (sub : Submission) (s : Service) (τ : σ) :
    runSt (release sub) s τ = (((),{ s with pool := sub.entries.foldl (fun q e => q.revert e.hash) s.pool }),τ) := by
  unfold release
  simp only [runStBind, runStRevertAll, runStPure]

theorem countersSettle (sub : Submission) (s : Service) (τ : σ) (a : Address) :
    (runSt (settle sub) s τ).1.2.rep.counters? a =
      if (a.isZero ∨ s.rep.isWhitelisted a) ∨ (sub.entries.flatMap credited).count a = 0 then s.rep.counters? a
      else some { (s.rep.counters? a).getD {} with
        opsIncluded := ((s.rep.counters? a).getD {}).opsIncluded + ((sub.entries.flatMap credited).count a).toUInt64 } := by
  rw [(runStSettle sub s τ).2.2, Reputation.Tracker.countersFoldIncluded]

theorem concludeHandles (b : Backend (StateM σ)) (sub : Submission) (s : Service) (τ : σ) :
    let looked := (b.receipt sub.txHash).run τ
    let handled := (runSt ((Outcome.ofReceipt looked.1).handle sub) s looked.2).1.2
    (runSt (conclude b sub) s τ).1.2.pool = handled.pool ∧ (runSt (conclude b sub) s τ).1.2.reverts = handled.reverts ∧
      (runSt (conclude b sub) s τ).1.2.rep = handled.rep := by
  unfold conclude
  simp only [runStBind, runStLift]
  generalize (b.receipt sub.txHash).run τ = looked
  obtain ⟨r,τ'⟩ := looked
  rcases r with e | _ | r
  · simp [Outcome.ofReceipt, Outcome.handle, notIncluded, runStRelease]
  · simp [Outcome.ofReceipt, Outcome.handle, notIncluded, runStRelease]
  · by_cases ok : r.status == 1
    · simp [ok, Outcome.ofReceipt, Outcome.handle]
    · simp [ok, Outcome.ofReceipt, Outcome.handle, poolReleaseReverted, revertsReleaseReverted, repReleaseReverted]

end Runs

section Counts

def OneOrTwo (reverts : List (Hash × Nat)) : Prop := ∀ x ∈ reverts, x.2 = 1 ∨ x.2 = 2

theorem OneOrTwo.filter {r : List (Hash × Nat)} (low : OneOrTwo r) (p : Hash × Nat → Bool) : OneOrTwo (r.filter p) :=
  fun x mem => low x (List.mem_of_mem_filter mem)

theorem OneOrTwo.revertStep {x : Pool × List (Hash × Nat)} (low : OneOrTwo x.2) (e : Entry) :
    OneOrTwo (revertOne x e).2 := by
  unfold revertOne
  by_cases below : (x.2.lookup e.hash).getD 0 + 1 < maxOnChainReverts
  · simp only [below, if_true]
    rintro y (_ | ⟨_,mem⟩)
    ·
      simp only [maxOnChainReverts] at below
      omega
    · exact low.filter _ y mem
  · simp only [below, if_false]
    exact low.filter _

theorem OneOrTwo.reverted {x : Pool × List (Hash × Nat)} (low : OneOrTwo x.2) (l : List Entry) :
    OneOrTwo (l.foldl revertOne x).2 := by
  induction l generalizing x with
  | nil => exact low
  | cons e rest ih => exact ih (low.revertStep e)

theorem OneOrTwo.cleared {r : List (Hash × Nat)} (low : OneOrTwo r) (l : List Entry) :
    OneOrTwo (l.foldl (fun r e => r.filter (·.1 != e.hash)) r) := by
  induction l generalizing r with
  | nil => exact low
  | cons e rest ih => exact ih (low.filter _)

def bump (c : Option Nat) : Option Nat := if c.getD 0 + 1 < maxOnChainReverts then some (c.getD 0 + 1) else none

theorem lookupRevertOne (x : Pool × List (Hash × Nat)) (e : Entry) (h : Hash) :
    (revertOne x e).2.lookup h = if e.hash = h then bump (x.2.lookup h) else x.2.lookup h := by
  unfold revertOne bump
  by_cases same : e.hash = h
  · subst same
    by_cases below : (x.2.lookup e.hash).getD 0 + 1 < maxOnChainReverts <;> simp [below, lookupFilterSelf]
  · by_cases below : (x.2.lookup e.hash).getD 0 + 1 < maxOnChainReverts <;>
      simp [below, same, lookupSetNe _ _ (Ne.symm same), lookupFilterNe _ (Ne.symm same)]

theorem lookupFoldRevertOne (l : List Entry) (x : Pool × List (Hash × Nat)) (h : Hash) :
    (l.foldl revertOne x).2.lookup h = bump^[(l.map (·.hash)).count h] (x.2.lookup h) := by
  induction l generalizing x with
  | nil => rfl
  | cons e rest ih =>
    rw [List.foldl_cons, ih, lookupRevertOne, List.map_cons, List.count_cons]
    by_cases same : e.hash = h
    · simp [same, Function.iterate_succ_apply]
    · simp [same]

theorem lookupFoldClear (l : List Entry) (r : List (Hash × Nat)) (h : Hash) :
    (l.foldl (fun r e => r.filter (·.1 != e.hash)) r).lookup h = if h ∈ l.map (·.hash) then none else r.lookup h := by
  induction l generalizing r with
  | nil => simp
  | cons e rest ih =>
    rw [List.foldl_cons, ih]
    by_cases same : e.hash = h
    · subst same; simp [lookupFilterSelf]
    · by_cases later : h ∈ rest.map (·.hash)
      · simp [later]
      · simp [later, Ne.symm same, lookupFilterNe _ (Ne.symm same)]

end Counts

section Pool

theorem revertOneWellFormed {x : Pool × List (Hash × Nat)} (wf : x.1.WellFormed) (e : Entry) :
    (revertOne x e).1.WellFormed := by
  unfold revertOne
  by_cases below : (x.2.lookup e.hash).getD 0 + 1 < maxOnChainReverts
  · simpa [below] using wf.revert e.hash
  · simpa [below] using wf.remove e.hash

theorem carryingRevertOne {x : Pool × List (Hash × Nat)} (wf : x.1.WellFormed) (e : Entry) (h : Hash) :
    (revertOne x e).1.carrying h =
      if e.hash = h then
        (if bump (x.2.lookup h) = none then [] else (x.1.carrying h).map fun x => { x with status := .pending })
      else x.1.carrying h := by
  unfold revertOne bump
  by_cases same : e.hash = h
  · subst same
    by_cases below : (x.2.lookup e.hash).getD 0 + 1 < maxOnChainReverts <;>
      simp [below, wf.carryingRevert, wf.carryingRemove]
  · by_cases below : (x.2.lookup e.hash).getD 0 + 1 < maxOnChainReverts <;>
      simp [below, same, wf.carryingRevert, wf.carryingRemove]

theorem carryingFoldRevertOne (l : List Entry) {x : Pool × List (Hash × Nat)} (wf : x.1.WellFormed) {h : Hash}
    (once : (l.map (·.hash)).count h ≤ 1) :
    (l.foldl revertOne x).1.WellFormed ∧
      (l.foldl revertOne x).1.carrying h =
        if h ∈ l.map (·.hash) then
          (if bump (x.2.lookup h) = none then [] else (x.1.carrying h).map fun x => { x with status := .pending })
        else x.1.carrying h := by
  induction l generalizing x with
  | nil => exact ⟨wf,by simp⟩
  | cons e rest ih =>
    rw [List.map_cons, List.count_cons] at once
    obtain ⟨wf',carrying⟩ := ih (revertOneWellFormed wf e) (by omega)
    refine ⟨wf',?_⟩
    rw [List.foldl_cons, carrying, carryingRevertOne wf, lookupRevertOne]
    by_cases same : e.hash = h
    ·
      have later : h ∉ rest.map (·.hash) := by
        rw [← List.count_pos_iff]
        simp only [same, beq_self_eq_true, if_true] at once
        omega
      simp [same, later]
    · simp [same, Ne.symm same]

end Pool

section Handling
variable {σ : Type}

theorem lookupHandle (o : Outcome) (sub : Submission) (s : Service) (τ : σ) (h : Hash) :
    (runSt (o.handle sub) s τ).1.2.reverts.lookup h =
      match o with
      | .included => if h ∈ sub.entries.map (·.hash) then none else s.reverts.lookup h
      | .reverted => bump^[(sub.entries.map (·.hash)).count h] (s.reverts.lookup h)
      | .missing => s.reverts.lookup h := by
  cases o with
  | included =>
    simp only [Outcome.handle]
    rw [(runStSettle sub s τ).1, lookupFoldClear]
  | reverted =>
    simp only [Outcome.handle]
    rw [revertsReleaseReverted, lookupFoldRevertOne]
  | missing => simp only [Outcome.handle, runStRelease]

theorem OneOrTwo.handle {s : Service} (low : OneOrTwo s.reverts) (o : Outcome) (sub : Submission) (τ : σ) :
    OneOrTwo (runSt (o.handle sub) s τ).1.2.reverts := by
  cases o with
  | included =>
    simp only [Outcome.handle]
    rw [(runStSettle sub s τ).1]
    exact low.cleared _
  | reverted =>
    simp only [Outcome.handle]
    rw [revertsReleaseReverted]
    exact OneOrTwo.reverted low _
  | missing => simpa only [Outcome.handle, runStRelease] using low

theorem carryingHandle (o : Outcome) (sub : Submission) {s : Service} (τ : σ) (wf : s.pool.WellFormed) {h : Hash}
    (once : (sub.entries.map (·.hash)).count h ≤ 1) :
    (runSt (o.handle sub) s τ).1.2.pool.WellFormed ∧
      (runSt (o.handle sub) s τ).1.2.pool.carrying h =
        if h ∈ sub.entries.map (·.hash) then
          match o with
          | .included => []
          | .reverted =>
            if bump (s.reverts.lookup h) = none then [] else (s.pool.carrying h).map fun x => { x with status := .pending }
          | .missing => (s.pool.carrying h).map fun x => { x with status := .pending }
        else s.pool.carrying h := by
  cases o with
  | included =>
    simp only [Outcome.handle]
    rw [(runStSettle sub s τ).2.1]
    simpa only [List.foldl_map] using wf.removeAll (sub.entries.map (·.hash)) h
  | reverted =>
    simp only [Outcome.handle]
    rw [poolReleaseReverted]
    exact carryingFoldRevertOne sub.entries wf once
  | missing =>
    simp only [Outcome.handle, runStRelease]
    simpa only [List.foldl_map] using And.intro (wf.revertAll (sub.entries.map (·.hash))).1
      (wf.carryingRevertAll (sub.entries.map (·.hash)) h)

end Handling

section History

def failureStep (h : Hash) (k : Nat) (x : Submission × Outcome) : Nat :=
  if h ∈ x.1.entries.map (·.hash) then
    match x.2 with
    | .included => 0
    | .reverted => k + 1
    | .missing => k
  else k

def failuresSince (h : Hash) (hist : List (Submission × Outcome)) : Nat := hist.foldl (failureStep h) 0

theorem failuresSinceSnoc (h : Hash) (hist : List (Submission × Outcome)) (x : Submission × Outcome) :
    failuresSince h (hist ++ [x]) = failureStep h (failuresSince h hist) x := by
  simp [failuresSince]

def stored (k : Nat) : Option Nat := if k % maxOnChainReverts = 0 then none else some (k % maxOnChainReverts)

theorem bumpStored (k : Nat) : bump (stored k) = stored (k + 1) := by
  unfold bump stored maxOnChainReverts
  obtain zero | one | two : k % 3 = 0 ∨ k % 3 = 1 ∨ k % 3 = 2 := by omega
  · have next : (k + 1) % 3 = 1 := by omega
    simp [zero, next]
  · have next : (k + 1) % 3 = 2 := by omega
    simp [one, next]
  · have next : (k + 1) % 3 = 0 := by omega
    simp [two, next]

theorem storedGetD (k : Nat) : (stored k).getD 0 = k % maxOnChainReverts := by
  unfold stored
  split <;> simp [*]

inductive Handles (s0 : Service) : List (Submission × Outcome) → Service → Prop
  | start : Handles s0 [] s0
  | other {hist s s'} (run : Handles s0 hist s) (keeps : s'.reverts = s.reverts) : Handles s0 hist s'
  | handle {σ : Type} {hist s} (run : Handles s0 hist s) (sub : Submission) (o : Outcome) (τ : σ) :
      Handles s0 (hist ++ [(sub,o)]) (runSt (o.handle sub) s τ).1.2

variable {s0 s : Service} {hist : List (Submission × Outcome)}

theorem Handles.oneOrTwo (run : Handles s0 hist s) (low : OneOrTwo s0.reverts) : OneOrTwo s.reverts := by
  induction run with
  | start => exact low
  | other _ keeps ih => rw [keeps]; exact ih
  | handle _ sub o τ ih => exact ih.handle o sub τ

theorem Handles.concludeStep {σ : Type} (run : Handles s0 hist s) (b : Backend (StateM σ)) (sub : Submission) (τ : σ) :
    Handles s0 (hist ++ [(sub,Outcome.ofReceipt ((b.receipt sub.txHash).run τ).1)]) (runSt (conclude b sub) s τ).1.2 :=
  (run.handle sub _ ((b.receipt sub.txHash).run τ).2).other (concludeHandles b sub s τ).2.1

theorem Handles.lookup (run : Handles s0 hist s) {h : Hash} (fresh : s0.reverts.lookup h = none)
    (once : ∀ x ∈ hist, (x.1.entries.map (·.hash)).count h ≤ 1) : s.reverts.lookup h = stored (failuresSince h hist) := by
  induction run with
  | start => simpa [failuresSince, stored] using fresh
  | other _ keeps ih => rw [keeps]; exact ih once
  | @handle σ hist s _ sub o τ ih =>
    have earlier := ih fun x mem => once x (List.mem_append_left _ mem)
    have atMostOnce : (sub.entries.map (·.hash)).count h ≤ 1 :=
      once (sub,o) (List.mem_append_right _ (List.mem_singleton_self _))
    rw [lookupHandle, failuresSinceSnoc, failureStep]
    by_cases carries : h ∈ sub.entries.map (·.hash)
    ·
      have one : (sub.entries.map (·.hash)).count h = 1 := by
        have := List.count_pos_iff.mpr carries
        omega
      cases o with
      | included => simp [carries, stored]
      | reverted =>
        simp only [carries, one, if_true, Function.iterate_one, earlier]
        exact bumpStored _
      | missing => simp [carries, earlier]
    · have zero : (sub.entries.map (·.hash)).count h = 0 := List.count_eq_zero.mpr carries
      cases o <;> simp [carries, zero, earlier]

/-- The inclusion tracker over any run of handled bundles, for a hash `h` that each of them
carries at most once. The stored counts are one or two, and the count of `h` is the number of
reverted bundles carrying it since the last included one, modulo the limit. A bundle carrying
`h` once, handled next on a well-formed pool: reverted, it drops the entries carrying `h` exactly
when its failure makes that number a multiple of the limit, and returns them to pending
otherwise; with no receipt, it returns them to pending; included, it removes them and records one
inclusion for each address each of its entries credits. -/
theorem dropsAtThirdRevert {σ : Type} (run : Handles s0 hist s) (low : OneOrTwo s0.reverts) (h : Hash)
    (fresh : s0.reverts.lookup h = none) (once : ∀ x ∈ hist, (x.1.entries.map (·.hash)).count h ≤ 1)
    (wf : s.pool.WellFormed) (sub : Submission) (carries : (sub.entries.map (·.hash)).count h = 1) (τ : σ) :
    OneOrTwo s.reverts ∧ revertCount s h = failuresSince h hist % maxOnChainReverts ∧
      (runSt (releaseReverted sub) s τ).1.2.pool.carrying h =
        (if failuresSince h (hist ++ [(sub,.reverted)]) % maxOnChainReverts = 0 then []
        else (s.pool.carrying h).map fun x => { x with status := .pending }) ∧
      (runSt (release sub) s τ).1.2.pool.carrying h = (s.pool.carrying h).map (fun x => { x with status := .pending }) ∧
      (runSt (settle sub) s τ).1.2.pool.carrying h = [] ∧
      (runSt (settle sub) s τ).1.2.rep = (sub.entries.flatMap credited).foldl Reputation.Tracker.recordIncluded s.rep := by
  have count := run.lookup fresh once
  have mem : h ∈ sub.entries.map (·.hash) := List.count_pos_iff.mp (by omega)
  have atMostOnce : (sub.entries.map (·.hash)).count h ≤ 1 := by omega
  have reverted := (carryingHandle .reverted sub τ wf atMostOnce).2
  have missing := (carryingHandle .missing sub τ wf atMostOnce).2
  have included := (carryingHandle .included sub τ wf atMostOnce).2
  simp only [Outcome.handle, if_pos mem] at reverted missing included
  refine ⟨run.oneOrTwo low,by rw [revertCount, count, storedGetD],?_,missing,included,(runStSettle sub s τ).2.2⟩
  -- the failure makes the count stored for one more failure, absent at a multiple of the limit
  rw [reverted, count, bumpStored, failuresSinceSnoc]
  simp [failureStep, mem, stored]

theorem dropsAtThirdRevertAfterTwo :
    let pool := (Pool.create {}).step (.accept (Reputation.Tracker.create {}) {} .zero none none { sender := {} })
    let s0 : Service := { Service.create { config := default } with pool }
    let sub : Submission := { Submission.none with entries := pool.entries }
    let hist : List (Submission × Outcome) := [(sub,.reverted),(sub,.reverted)]
    let s := (runSt (releaseReverted sub : SvcM (StateM Unit) Unit) (runSt (releaseReverted sub) s0 ()).1.2 ()).1.2
    Handles s0 hist s ∧ s.pool.WellFormed ∧ (sub.entries.map (·.hash)).count .zero = 1 ∧
      OneOrTwo s.reverts ∧ revertCount s .zero = failuresSince .zero hist % maxOnChainReverts ∧
      (runSt (releaseReverted sub) s ()).1.2.pool.carrying .zero =
        (if failuresSince .zero (hist ++ [(sub,.reverted)]) % maxOnChainReverts = 0 then []
        else (s.pool.carrying .zero).map fun x => { x with status := .pending }) ∧
      (runSt (release sub) s ()).1.2.pool.carrying .zero =
        (s.pool.carrying .zero).map (fun x => { x with status := .pending }) ∧
      (runSt (settle sub) s ()).1.2.pool.carrying .zero = [] ∧
      (runSt (settle sub) s ()).1.2.rep = (sub.entries.flatMap credited).foldl Reputation.Tracker.recordIncluded s.rep := by
  intro pool s0 sub hist s
  have reach : Reachable HashFresh pool := by
    apply Reachable.step (.create {})
    simp [HashFresh, Pool.create]
  have carries : (sub.entries.map (·.hash)).count .zero = 1 := by decide
  have atMostOnce : (sub.entries.map (·.hash)).count .zero ≤ 1 := by omega
  have run : Handles s0 hist s := (Handles.start.handle sub .reverted ()).handle sub .reverted ()
  have wf : s.pool.WellFormed :=
    (carryingHandle .reverted sub () (carryingHandle .reverted sub () reach.wellFormed atMostOnce).1 atMostOnce).1
  have low : OneOrTwo s0.reverts := fun x mem => by cases mem
  have once : ∀ x ∈ hist, (x.1.entries.map (·.hash)).count .zero ≤ 1 := by simp [hist, atMostOnce]
  exact ⟨run,wf,carries,dropsAtThirdRevert run low .zero rfl once wf sub carries ()⟩

end History

end Erc4337.Service
