import Erc4337.Proofs.Bundle.Consider
import Erc4337.Proofs.Mempool.Release
import Erc4337.Sim.Scripted
/-! Building a bundle partitions the claimed entries it is given. Each entry the scan reaches is
included, deferred or removed, and a stop defers it and every entry after it, so the hashes of the
bundle's three lists are the input's, each list in input order. In a pool where no two entries share
a hash, the included entries stay claimed, the deferred ones are pending again and the removed ones
have left the pool; a build that fails leaves every claimed entry pending or gone.

The invariant of the scan is `Pass.Placed`: where the entries the pass has decided on stand in
the pool. `Pass.Decides` says how a pass grows by deciding entries; it composes, so the scan is one
decision (`ScanPost.cons`) followed by the scan of the rest. -/
namespace Erc4337.Bundle
open Service Mempool

def Pass.ledger (p : Pass) : List Hash := p.built.entries.map (·.hash) ++ p.built.deferred ++ p.built.removed

structure Pass.Placed (p : Pass) (pool : Pool) : Prop where
  included : ∀ e ∈ p.built.entries, e ∈ pool.entries
  deferred : ∀ h ∈ p.built.deferred, ∃ e ∈ pool.entries, e.hash = h
  removed : ∀ h ∈ p.built.removed, ∀ e ∈ pool.entries, e.hash ≠ h

theorem foldRevertHash (l : List Entry) (p : Pool) :
    l.foldl (fun q x => q.revert x.hash) p = (l.map (·.hash)).foldl (fun q h => q.revert h) p := by
  rw [List.foldl_map]

structure Pass.Decides (p p' : Pass) (l : List Entry) : Prop where
  ledger : p'.ledger.Perm (p.ledger ++ l.map (·.hash))
  entries : ∃ inc, p'.built.entries = p.built.entries ++ inc ∧ inc.Sublist l
  deferred : ∃ dfr, p'.built.deferred = p.built.deferred ++ dfr ∧ dfr.Sublist (l.map (·.hash))
  removed : ∃ rem, p'.built.removed = p.built.removed ++ rem ∧ rem.Sublist (l.map (·.hash))

namespace Pass.Decides
variable {p p' p'' : Pass}

theorem ofLists {l : List Entry} (inc : List Entry) (dfr rem : List Hash)
    (entries : p'.built.entries = p.built.entries ++ inc) (deferred : p'.built.deferred = p.built.deferred ++ dfr)
    (removed : p'.built.removed = p.built.removed ++ rem) (incSub : inc.Sublist l)
    (dfrSub : dfr.Sublist (l.map (·.hash))) (remSub : rem.Sublist (l.map (·.hash)))
    (split : (l.map (·.hash)).Perm (inc.map (·.hash) ++ dfr ++ rem)) : p.Decides p' l := by
  refine ⟨?_,⟨inc,entries,incSub⟩,⟨dfr,deferred,dfrSub⟩,⟨rem,removed,remSub⟩⟩
  rw [Pass.ledger, Pass.ledger, entries, deferred, removed]
  refine List.perm_iff_count.mpr fun a => ?_
  simp only [List.map_append, List.count_append, split.count_eq]
  omega

theorem trans {l1 l2 : List Entry} (first : p.Decides p' l1) (second : p'.Decides p'' l2) :
    p.Decides p'' (l1 ++ l2) := by
  obtain ⟨ledger1,⟨inc1,e1,s1⟩,⟨dfr1,d1,t1⟩,⟨rem1,r1,u1⟩⟩ := first
  obtain ⟨ledger2,⟨inc2,e2,s2⟩,⟨dfr2,d2,t2⟩,⟨rem2,r2,u2⟩⟩ := second
  refine ⟨?_,⟨inc1 ++ inc2,by rw [e2, e1, List.append_assoc],s1.append s2⟩,
    ⟨dfr1 ++ dfr2,by rw [d2, d1, List.append_assoc],by simpa using t1.append t2⟩,
    ⟨rem1 ++ rem2,by rw [r2, r1, List.append_assoc],by simpa using u1.append u2⟩⟩
  simpa using ledger2.trans (ledger1.append_right (l2.map (·.hash)))

theorem appendPerm {e : Entry} (step : p.Decides p' [e]) (rest : List Entry) :
    (p'.ledger ++ rest.map (·.hash)).Perm (p.ledger ++ (e :: rest).map (·.hash)) := by
  simpa using step.ledger.append_right (rest.map (·.hash))

end Pass.Decides

namespace Pass.Placed
variable {p p' : Pass} {pool : Pool}

theorem grow (placed : p.Placed pool) (inc : List Entry) (dfr rem : List Hash)
    (entries : p'.built.entries = p.built.entries ++ inc) (deferred : p'.built.deferred = p.built.deferred ++ dfr)
    (removed : p'.built.removed = p.built.removed ++ rem) (incIn : ∀ x ∈ inc, x ∈ pool.entries)
    (dfrIn : ∀ h ∈ dfr, ∃ x ∈ pool.entries, x.hash = h) (remOut : ∀ h ∈ rem, ∀ x ∈ pool.entries, x.hash ≠ h) :
    p'.Placed pool := by
  refine ⟨fun x hx => ?_,fun h hh => ?_,fun h hh => ?_⟩
  · rw [entries, List.mem_append] at hx
    exact hx.elim (placed.included x) (incIn x)
  · rw [deferred, List.mem_append] at hh
    exact hh.elim (placed.deferred h) (dfrIn h)
  · rw [removed, List.mem_append] at hh
    exact hh.elim (placed.removed h) (remOut h)

theorem remove (placed : p.Placed pool) (wf : pool.WellFormed) {h : Hash} (fresh : h ∉ p.ledger) :
    p.Placed (pool.remove h).1 := by
  have others : ∀ h' ∈ p.ledger, h' ≠ h := fun h' mem same => fresh (same ▸ mem)
  refine ⟨fun x hx => wf.memRemove.mpr ⟨placed.included x hx,others _ ?_⟩,fun h' hh => ?_,
    fun h' hh x hx => placed.removed h' hh x (wf.memRemove.mp hx).1⟩
  · simp [Pass.ledger, List.mem_map_of_mem hx]
  · obtain ⟨y,hy,rfl⟩ := placed.deferred h' hh
    exact ⟨y,wf.memRemove.mpr ⟨hy,others _ (by simp [Pass.ledger, hh])⟩,rfl⟩

theorem releasedPending (placed : p.Placed pool) (wf : pool.WellFormed) (l : List Entry) {x : Entry}
    (hx : x ∈ (p.built.entries.foldl (fun q x => q.revert x.hash)
      (p.built.deferred.foldl (fun q h => q.revert h) (l.foldl (fun q x => q.revert x.hash) pool))).entries)
    (hh : x.hash ∈ p.ledger ++ l.map (·.hash)) : x.status = .pending := by
  rw [foldRevertHash, foldRevertHash] at hx
  have wf1 := (wf.revertAll (l.map (·.hash))).1
  have wf2 := (wf1.revertAll p.built.deferred).1
  obtain ⟨pending3,kept3,-⟩ := wf2.memRevertAll hx
  by_cases h3 : x.hash ∈ p.built.entries.map (·.hash)
  · exact pending3 h3
  obtain ⟨pending2,kept2,-⟩ := wf1.memRevertAll (kept3 h3)
  by_cases h2 : x.hash ∈ p.built.deferred
  · exact pending2 h2
  obtain ⟨pending1,kept1,-⟩ := wf.memRevertAll (kept2 h2)
  by_cases h1 : x.hash ∈ l.map (·.hash)
  · exact pending1 h1
  have removedHash : x.hash ∈ p.built.removed := by
    simp only [Pass.ledger, List.mem_append] at hh
    rcases hh with ((hh | hh) | hh) | hh
    · exact absurd hh h3
    · exact absurd hh h2
    · exact hh
    · exact absurd hh h1
  exact (placed.removed x.hash removedHash x (kept1 h1) rfl).elim

end Pass.Placed

def ScanPost (p : Pass) (l : List Entry) (r : Except Fault Pass) (pool : Pool) : Prop :=
  (∀ p'', r = .ok p'' → pool.WellFormed ∧ p''.Placed pool ∧ p.Decides p'' l) ∧
    ∀ f, r = .error f → ∀ h ∈ p.ledger ++ l.map (·.hash), ∀ x ∈ pool.entries, x.hash = h → x.status = .pending

theorem ScanPost.cons {p p' : Pass} {e : Entry} {rest : List Entry} {r : Except Fault Pass} {pool : Pool}
    (step : p.Decides p' [e]) (post : ScanPost p' rest r pool) : ScanPost p (e :: rest) r pool := by
  refine ⟨fun p'' same => ?_,fun f same h hh => post.2 f same h ((step.appendPerm rest).mem_iff.mpr hh)⟩
  obtain ⟨wf,placed,decided⟩ := post.1 p'' same
  exact ⟨wf,placed,step.trans decided⟩

section
variable {σ : Type} (b : Backend (StateM σ))

theorem considerBuilt {cfg : BuilderConfig} {p p' : Pass} {e : Entry} {s s' : Service} {τ τ' : σ}
    {d : Decision} (run : runIn (consider b cfg p e) s τ = ((.ok (d,p'),s'),τ')) :
    p'.built.entries = p.built.entries ++ (if d = .include then [e] else []) ∧
      p'.built.deferred = p.built.deferred ∧ p'.built.removed = p.built.removed := by
  by_cases included : d = .include
  · subst included
    obtain ⟨-,res,τ1,deposits,entityCount,storage,-,-,-,-,-,-,rfl⟩ := considerInclude b run
    simp [Pass.add]
  · obtain ⟨-,⟨deposits,rfl⟩,-⟩ := considerOther b run included
    simp [included]

theorem scanPlaces {cfg : BuilderConfig} (l : List Entry) {p : Pass} {s : Service} {τ : σ}
    {r : Except Fault Pass} {s' : Service} {τ' : σ}
    (run : runSt (scan b cfg p l) s τ = ((r,s'),τ')) (wf : s.pool.WellFormed)
    (distinct : (p.ledger ++ l.map (·.hash)).Nodup) (claimed : ∀ e ∈ l, e ∈ s.pool.entries)
    (placed : p.Placed s.pool) : ScanPost p l r s'.pool := by
  induction l generalizing p s τ with
  | nil =>
    simp only [scan, runStPure, Prod.mk.injEq] at run
    obtain ⟨⟨rfl,rfl⟩,rfl⟩ := run
    refine ⟨fun p'' same => ?_,fun f same => (by cases same)⟩
    cases same
    exact ⟨wf,placed,.ofLists [] [] [] (by simp) (by simp) (by simp) .slnil .slnil .slnil (by simp)⟩
  | cons e rest ih =>
    have split : (p.ledger ++ (e :: rest).map (·.hash)).Nodup := distinct
    rw [List.map_cons, List.nodup_middle, List.nodup_cons] at split
    have fresh : e.hash ∉ p.ledger := fun mem => split.1 (List.mem_append_left _ mem)
    have freshRest : e.hash ∉ rest.map (·.hash) := fun mem => split.1 (List.mem_append_right _ mem)
    have inPool : e ∈ s.pool.entries := claimed e (List.mem_cons_self ..)
    have restInPool : ∀ x ∈ rest, x ∈ s.pool.entries := fun x hx => claimed x (List.mem_cons_of_mem _ hx)
    rcases considered : runIn (consider b cfg p e) s τ with ⟨⟨r1,s1⟩,τ1⟩
    have pool1 := (considerKeeps b considered).1
    simp only [scan, runStBind, runStExcept, considered] at run
    cases r1 with
    | error f =>
      simp only [runStRevertAll, runStBind, runStPure, Prod.mk.injEq] at run
      obtain ⟨⟨rfl,rfl⟩,rfl⟩ := run
      refine ⟨fun p'' same => (by cases same),fun f' _ h hh x hx same => ?_⟩
      rw [pool1] at hx
      exact placed.releasedPending wf (e :: rest) hx (same ▸ hh)
    | ok out =>
    obtain ⟨d,p'⟩ := out
    obtain ⟨entries,deferred,removed⟩ := considerBuilt b considered
    have wf1 : s1.pool.WellFormed := pool1 ▸ wf
    have placed1 : p.Placed s1.pool := pool1 ▸ placed
    have restIn1 : ∀ x ∈ rest, x ∈ s1.pool.entries := fun x hx => pool1 ▸ restInPool x hx
    cases d with
    | «include» =>
      have step : p.Decides p' [e] :=
        .ofLists [e] [] [] (by simpa using entries) (by simpa using deferred) (by simpa using removed) (.refl _)
          (List.nil_sublist _) (List.nil_sublist _) (by simp)
      have placed' : p'.Placed s1.pool :=
        placed1.grow [e] [] [] (by simpa using entries) (by simpa using deferred) (by simpa using removed)
          (by simpa [pool1] using inPool) (by simp) (by simp)
      exact (ih run wf1 ((step.appendPerm rest).nodup_iff.mpr distinct) restIn1 placed').cons step
    | defer =>
      let pn : Pass := { p' with built := { p'.built with deferred := p'.built.deferred ++ [e.hash] } }
      have step : p.Decides pn [e] :=
        .ofLists [] [e.hash] [] (by simpa [pn] using entries) (by simp [pn, deferred]) (by simpa [pn] using removed)
          (List.nil_sublist _) (.refl _) (List.nil_sublist _) (by simp)
      have placed' : pn.Placed s1.pool :=
        placed1.grow [] [e.hash] [] (by simpa [pn] using entries) (by simp [pn, deferred])
          (by simpa [pn] using removed) (by simp) (by simpa [pool1] using ⟨e,inPool,rfl⟩) (by simp)
      exact (ih run wf1 ((step.appendPerm rest).nodup_iff.mpr distinct) restIn1 placed').cons step
    | remove =>
      let pn : Pass := { p' with built := { p'.built with removed := p'.built.removed ++ [e.hash] } }
      have step : p.Decides pn [e] :=
        .ofLists [] [] [e.hash] (by simpa [pn] using entries) (by simpa [pn] using deferred) (by simp [pn, removed])
          (List.nil_sublist _) (List.nil_sublist _) (.refl _) (by simp)
      have placed' : pn.Placed (s1.pool.remove e.hash).1 :=
        (placed1.remove wf1 fresh).grow [] [] [e.hash] (by simpa [pn] using entries) (by simpa [pn] using deferred)
          (by simp [pn, removed]) (by simp) (by simp) (by simpa using fun x hx => (wf1.memRemove.mp hx).2)
      have restKept : ∀ x ∈ rest, x ∈ (s1.pool.remove e.hash).1.entries := fun x hx =>
        wf1.memRemove.mpr ⟨restIn1 x hx,fun same => freshRest (same ▸ List.mem_map_of_mem hx)⟩
      simp only [runStBind, removeFromPool, runStModifyPool] at run
      exact (ih run (wf1.remove e.hash) ((step.appendPerm rest).nodup_iff.mpr distinct) restKept placed').cons step
    | stop =>
      simp only [runStPure, Prod.mk.injEq] at run
      obtain ⟨⟨rfl,rfl⟩,rfl⟩ := run
      refine ⟨fun p'' same => ?_,fun f same => (by cases same)⟩
      cases same
      have restIn : ∀ h ∈ (e :: rest).map (·.hash), ∃ x ∈ s1.pool.entries, x.hash = h := by
        intro h hh
        obtain ⟨y,hy,rfl⟩ := List.mem_map.mp hh
        exact ⟨y,pool1 ▸ claimed y hy,rfl⟩
      exact ⟨wf1,placed1.grow [] _ [] (by simpa using entries) (by simp [deferred]) (by simpa using removed)
          (by simp) restIn (by simp),
        .ofLists [] _ [] (by simpa using entries) (by simp [deferred]) (by simpa using removed)
          (List.nil_sublist _) (.refl _) (List.nil_sublist _) (by simp)⟩

/-- A build partitions its claimed entries. Their hashes are split, each exactly once and in input
order, among the included, deferred and removed entries; the included entries are still claimed,
the deferred ones are pending and the removed ones are gone. A build that fails leaves none of
them claimed. This holds in every pool whose admissions never reused a hash of another entry,
whatever the collaborators answer. -/
theorem buildPartitions {s : Service} (reach : Reachable HashFresh s.pool) {entries : List Entry}
    (distinct : (entries.map (·.hash)).Nodup) (claimed : ∀ e ∈ entries, e ∈ s.pool.entries ∧ e.status = .bundling)
    {τ : σ} {r : Except Fault Built} {s' : Service} {τ' : σ} (run : runSt (build b entries) s τ = ((r,s'),τ')) :
    (∀ built, r = .ok built →
      (built.entries.map (·.hash) ++ built.deferred ++ built.removed).Perm (entries.map (·.hash)) ∧
      built.entries.Sublist entries ∧ built.deferred.Sublist (entries.map (·.hash)) ∧
      built.removed.Sublist (entries.map (·.hash)) ∧
      (∀ h ∈ built.deferred, ∃ e, s'.pool.find? h = some e ∧ e.status = .pending) ∧
      (∀ h ∈ built.removed, ∀ e ∈ s'.pool.entries, e.hash ≠ h) ∧
      ∀ e ∈ built.entries, s'.pool.find? e.hash = some e ∧ e.status = .bundling) ∧
    ∀ f, r = .error f → ∀ e ∈ entries, ∀ x ∈ s'.pool.entries, x.hash = e.hash → x.status = .pending := by
  have wf := reach.wellFormed
  let start : Pass := { knownSenders := s.pool.knownSenders }
  have placed : start.Placed s.pool := ⟨by simp [start],by simp [start],by simp [start]⟩
  simp only [build, runStBind, runStConfig, runStGet] at run
  rcases scanned : runSt (scan b s.settings.config.builder.withDefaults start entries) s τ with ⟨⟨r1,s1⟩,τ1⟩
  obtain ⟨ok,err⟩ := scanPlaces b entries scanned wf (by simpa [Pass.ledger, start] using distinct)
    (fun e he => (claimed e he).1) placed
  simp only [start] at scanned
  simp only [scanned] at run
  cases r1 with
  | error f =>
    simp only [runStPure, Prod.mk.injEq] at run
    obtain ⟨⟨rfl,rfl⟩,rfl⟩ := run
    refine ⟨fun built same => (by cases same),fun f' _ e he x hx same => ?_⟩
    exact err f rfl e.hash (by simp [Pass.ledger, start, List.mem_map_of_mem he]) x hx same
  | ok p =>
    simp only [runStRevertAll, runStBind, runStLog, runStPure, Prod.mk.injEq] at run
    obtain ⟨⟨rfl,rfl⟩,rfl⟩ := run
    obtain ⟨wf1,placed,ledger,⟨inc,e1,s1'⟩,⟨dfr,e2,s2'⟩,⟨rem,e3,s3'⟩⟩ := ok p rfl
    refine ⟨fun built same => ?_,fun f same => (by cases same)⟩
    cases same
    have ledger : p.ledger.Perm (entries.map (·.hash)) := by simpa [Pass.ledger, start] using ledger
    have e1 : p.built.entries = inc := by simpa [start] using e1
    have e2 : p.built.deferred = dfr := by simpa [start] using e2
    have e3 : p.built.removed = rem := by simpa [start] using e3
    have wf2 := (wf1.revertAll p.built.deferred).1
    -- the hashes the pass decided on are distinct, so no included entry is released again
    have apart : ∀ a ∈ p.built.entries.map (·.hash), ∀ h ∈ p.built.deferred, a ≠ h := by
      have nodup := ledger.nodup_iff.mpr distinct
      rw [Pass.ledger, List.nodup_append, List.nodup_append] at nodup
      exact nodup.1.2.2
    refine ⟨ledger,e1 ▸ s1',e2 ▸ s2',e3 ▸ s3',fun h hh => ?_,fun h hh x hx => ?_,fun e he => ?_⟩
    · obtain ⟨y,hy,rfl⟩ := placed.deferred h hh
      exact ⟨_,wf2.findEqSome.mpr ⟨wf1.pendingRevertAll hy hh,rfl⟩,rfl⟩
    · obtain ⟨-,-,y,hy,same⟩ := wf1.memRevertAll hx
      exact same ▸ placed.removed h hh y hy
    · have kept : e.hash ∉ p.built.deferred := fun hh => apart _ (List.mem_map_of_mem he) _ hh rfl
      exact ⟨wf2.findEqSome.mpr ⟨wf1.keptRevertAll (placed.included e he) kept,rfl⟩,
        (claimed e ((e1 ▸ s1').subset he)).2⟩

end

theorem buildPartitionsOnMixedBatch :
    let rep := Reputation.Tracker.create {}
    let op := fun (sender : Nat) (n : Int) => ({ sender := .ofNat sender, nonce := some n } : UserOperation)
    let offer := fun (o : UserOperation) (h : Nat) => Op.accept rep o (.ofNat h) none none { sender := {} }
    let pool := (Pool.create {}).step (offer (op 16 0) 1) |>.step (offer (op 16 1) 2) |>.step (offer (op 17 0) 3)
      |>.step (offer (op 18 0) 4) |>.step .takeAll
    let s : Service := { Service.create { config := default } with pool }
    let τ : Sim.Script := { bySender := [(.ofNat 17, .refuse (.plain "AA23 reverted") false)] }
    let run := runSt (build (Sim.backend .zero .absent) pool.entries) s τ
    Reachable HashFresh s.pool ∧ (pool.entries.map (·.hash)).Nodup ∧
      (∀ e ∈ pool.entries, e ∈ s.pool.entries ∧ e.status = .bundling) ∧
      (run.1.1.toOption.any fun built => built.entries.map (·.hash) == [.ofNat 1, .ofNat 4] &&
        built.deferred == [.ofNat 2] && built.removed == [.ofNat 3]) ∧
      (∀ built, run.1.1 = .ok built →
        (built.entries.map (·.hash) ++ built.deferred ++ built.removed).Perm (pool.entries.map (·.hash)) ∧
        built.entries.Sublist pool.entries ∧ built.deferred.Sublist (pool.entries.map (·.hash)) ∧
        built.removed.Sublist (pool.entries.map (·.hash)) ∧
        (∀ h ∈ built.deferred, ∃ e, run.1.2.pool.find? h = some e ∧ e.status = .pending) ∧
        (∀ h ∈ built.removed, ∀ e ∈ run.1.2.pool.entries, e.hash ≠ h) ∧
        ∀ e ∈ built.entries, run.1.2.pool.find? e.hash = some e ∧ e.status = .bundling) ∧
      ∀ f, run.1.1 = .error f → ∀ e ∈ pool.entries, ∀ x ∈ run.1.2.pool.entries, x.hash = e.hash →
        x.status = .pending := by
  intro rep op offer pool s τ
  -- the service's pool is read off by `dsimp`: unification would evaluate the run of the pool
  have same : s.pool = pool := by dsimp only [s]
  have reach : Reachable HashFresh s.pool := by
    rw [same]
    exact .step (.step (.step (.step (.step (.create {}) (by decide +kernel))
      (by decide +kernel)) (by decide +kernel)) (by decide +kernel)) trivial
  have claimed : ∀ e ∈ pool.entries, e ∈ s.pool.entries ∧ e.status = .bundling := by
    rw [same]
    exact fun e he => ⟨he,by revert e; decide +kernel⟩
  have distinct : (pool.entries.map (·.hash)).Nodup := by decide +kernel
  -- sender 16's second operation waits for a later bundle, sender 17 no longer validates
  have split : ((runSt (build (Sim.backend .zero .absent) pool.entries) s τ).1.1.toOption.any
      fun built => built.entries.map (·.hash) == [.ofNat 1, .ofNat 4] &&
        built.deferred == [.ofNat 2] && built.removed == [.ofNat 3]) = true := by decide +kernel
  generalize ran : runSt (build (Sim.backend .zero .absent) pool.entries) s τ = out at split ⊢
  obtain ⟨⟨r,s'⟩,τ'⟩ := out
  intro run
  exact ⟨reach,distinct,claimed,split,buildPartitions (Sim.backend .zero .absent) reach distinct claimed ran⟩

end Erc4337.Bundle
