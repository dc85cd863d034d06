import Erc4337.Proofs.Bundle.Partition
import Erc4337.Bundle.Submitter
/-! Where a send leaves the entries it claimed. A send claims pending entries, builds a bundle
from them and releases what it does not send; `Settled taken kept p p'` says that the pool `p'`
differs from the pool `p` the send started from only at the claimed hashes, that the entries of
`kept` are still claimed and that every other claimed entry is pending or gone. A claim settles
every entry it takes as kept; returning hashes to pending and removing one take a `Settled` to
the next, and so does a build, which keeps exactly the entries it includes. -/
namespace Erc4337.Bundle
open Service Mempool

def claimedBy (pool : Pool) (drainAll : Bool) : List Entry :=
  match claimFrom pool drainAll with
  | .ok (_,taken) => taken
  | .error _ => []

theorem claimFromClaims {pool pool' : Pool} {drainAll : Bool} {taken : List Entry}
    (claimed : claimFrom pool drainAll = .ok (pool',taken)) :
    pool.SameShape pool' ∧ Claims pool.entries pool'.entries taken := by
  unfold claimFrom at claimed
  split at claimed
  · cases claimed
    exact ⟨⟨claimShape _ _,rfl,rfl,rfl,rfl⟩,claimClaims _ _⟩
  · refine ⟨Pool.takeBatchShape claimed,?_⟩
    unfold Pool.takeBatch at claimed
    split at claimed
    · cases claimed
    · cases claimed
      exact claimClaims _ _

theorem claimedByEmpty {pool : Pool} (empty : pool.size = 0) (drainAll : Bool) : claimedBy pool drainAll = [] := by
  have nil : pool.entries = [] := List.eq_nil_of_length_eq_zero empty
  cases drainAll
  · by_cases negative : pool.batchLimit < 0 <;> simp [claimedBy, claimFrom, Pool.takeBatch, nil, Pool.claim, negative]
  · simp [claimedBy, claimFrom, Pool.takeAll, nil, Pool.claim]

theorem claimedByEq {pool pool' : Pool} {drainAll : Bool} {taken : List Entry}
    (claimed : claimFrom pool drainAll = .ok (pool',taken)) : claimedBy pool drainAll = taken := by
  simp [claimedBy, claimed]

theorem claimFromEntries {pool pool' : Pool} {drainAll : Bool} {taken : List Entry} (wf : pool.WellFormed)
    (claimed : claimFrom pool drainAll = .ok (pool',taken)) :
    (taken.map (·.hash)).Nodup ∧ ∀ e ∈ taken, e.status = .bundling := by
  obtain ⟨shape,claims⟩ := claimFromClaims claimed
  exact ⟨(claims.sublist.map _).nodup (wf.ofSameShape shape).hashes,claims.bundling⟩

theorem claimedByEntries {pool : Pool} (wf : pool.WellFormed) (drainAll : Bool) :
    ((claimedBy pool drainAll).map (·.hash)).Nodup ∧ ∀ e ∈ claimedBy pool drainAll, e.status = .bundling := by
  cases claimed : claimFrom pool drainAll with
  | error f => simp [claimedBy, claimed]
  | ok out =>
    rw [claimedByEq claimed]
    exact claimFromEntries wf claimed

structure Settled (taken kept : List Entry) (p p' : Pool) : Prop where
  wellFormed : p'.WellFormed
  frame : p.AgreeOff (taken.map (·.hash)) p'
  held : ∀ e ∈ kept, e ∈ p'.entries
  released : ∀ x ∈ p'.entries, x.hash ∈ taken.map (·.hash) → x.hash ∉ kept.map (·.hash) → x.status = .pending

namespace Settled
variable {taken kept : List Entry} {p p' : Pool}

theorem claim (wf : p.WellFormed) {drainAll : Bool} (claimed : claimFrom p drainAll = .ok (p',taken)) :
    Settled taken taken p p' := by
  obtain ⟨shape,claims⟩ := claimFromClaims claimed
  refine ⟨wf.ofSameShape shape,fun x off => ⟨fun mem => ?_,fun mem => ?_⟩,fun e he => claims.sublist.subset he,
    fun x _ hh off => absurd hh off⟩
  · rcases claims.kept x mem with claimedX | old
    · exact (off (List.mem_map_of_mem claimedX)).elim
    · exact old
  · rcases claims.covered x mem with stays | ⟨y,hy,same⟩
    · exact stays
    · exact (off (same ▸ List.mem_map_of_mem hy)).elim

theorem nothingClaimed (wf : p.WellFormed) : Settled [] [] p p := ⟨wf,.refl _ _,by simp,by simp⟩

theorem revertAll (st : Settled taken kept p p') (hs : List Hash) (sub : ∀ h ∈ hs, h ∈ taken.map (·.hash)) :
    Settled taken (kept.filter fun e => e.hash ∉ hs) p (hs.foldl (fun q h => q.revert h) p') := by
  have wf := st.wellFormed
  refine ⟨(wf.revertAll hs).1,st.frame.trans ((wf.agreeRevertAll hs).mono sub),fun e he => ?_,
    fun x hx hh off => ?_⟩
  · rw [List.mem_filter, decide_eq_true_iff] at he
    exact wf.keptRevertAll (st.held e he.1) he.2
  · obtain ⟨pending,old,-⟩ := wf.memRevertAll hx
    by_cases released : x.hash ∈ hs
    · exact pending released
    refine st.released x (old released) hh fun keptHash => off ?_
    obtain ⟨k,hk,same⟩ := List.mem_map.mp keptHash
    exact List.mem_map.mpr ⟨k,List.mem_filter.mpr ⟨hk,by simpa [same] using released⟩,same⟩

theorem remove (st : Settled taken kept p p') {h : Hash} (claimedHash : h ∈ taken.map (·.hash)) :
    Settled taken (kept.filter fun e => e.hash ≠ h) p (p'.remove h).1 := by
  have wf := st.wellFormed
  refine ⟨wf.remove h,st.frame.trans ((wf.agreeRemove h).mono (by simpa using claimedHash)),fun e he => ?_,
    fun x hx hh off => ?_⟩
  · rw [List.mem_filter, decide_eq_true_iff] at he
    exact wf.memRemove.mpr ⟨st.held e he.1,he.2⟩
  · obtain ⟨mem,other⟩ := wf.memRemove.mp hx
    refine st.released x mem hh fun keptHash => off ?_
    obtain ⟨k,hk,same⟩ := List.mem_map.mp keptHash
    exact List.mem_map.mpr ⟨k,List.mem_filter.mpr ⟨hk,by simpa [same] using other⟩,same⟩

theorem stillClaimed (st : Settled taken kept p p') (distinct : (taken.map (·.hash)).Nodup)
    (sub : kept.Sublist taken) (bundling : ∀ e ∈ taken, e.status = .bundling) {e : Entry} (he : e ∈ taken) :
    ((∃ x ∈ p'.entries, x.hash = e.hash ∧ x.status = .bundling) ↔ e ∈ kept) ∧
      (e ∈ kept → e ∈ p'.entries) ∧ (e ∉ kept → ∀ x ∈ p'.entries, x.hash = e.hash → x.status = .pending) := by
  -- claimed hashes are distinct, so a kept entry with the hash of `e` is `e` itself
  have released : e ∉ kept → ∀ x ∈ p'.entries, x.hash = e.hash → x.status = .pending := by
    intro notKept x hx same
    refine st.released x hx (same ▸ List.mem_map_of_mem he) fun keptHash => notKept ?_
    obtain ⟨k,hk,sameK⟩ := List.mem_map.mp keptHash
    rwa [List.inj_on_of_nodup_map distinct (sub.subset hk) he (sameK.trans same)] at hk
  refine ⟨⟨fun ⟨x,hx,same,claimedX⟩ => ?_,fun keptE => ⟨e,st.held e keptE,rfl,bundling e he⟩⟩,
    st.held e,released⟩
  by_contra notKept
  rw [released notKept x hx same] at claimedX
  cases claimedX

end Settled

theorem Pass.Placed.settles {q : Pass} {pool p : Pool} {taken : List Entry} (placed : q.Placed pool)
    (wf : pool.WellFormed) (ledger : q.ledger.Perm (taken.map (·.hash))) (distinct : (taken.map (·.hash)).Nodup)
    (frame : p.AgreeOff (taken.map (·.hash)) pool) :
    Settled taken q.built.entries p (q.built.deferred.foldl (fun r h => r.revert h) pool) := by
  have nodup := ledger.nodup_iff.mpr distinct
  rw [Pass.ledger, List.nodup_append, List.nodup_append] at nodup
  have apart : ∀ a ∈ q.built.entries.map (·.hash), ∀ h ∈ q.built.deferred, a ≠ h := nodup.1.2.2
  have claimedDeferred : ∀ h ∈ q.built.deferred, h ∈ taken.map (·.hash) := fun h hh =>
    ledger.mem_iff.mp (by simp [Pass.ledger, hh])
  refine ⟨(wf.revertAll _).1,frame.trans ((wf.agreeRevertAll _).mono claimedDeferred),fun e he => ?_,
    fun x hx hh off => ?_⟩
  · exact wf.keptRevertAll (placed.included e he) fun hh => apart _ (List.mem_map_of_mem he) _ hh rfl
  · obtain ⟨pending,old,-⟩ := wf.memRevertAll hx
    by_cases deferredX : x.hash ∈ q.built.deferred
    · exact pending deferredX
    have removedX : x.hash ∈ q.built.removed := by
      have decidedX := ledger.mem_iff.mpr hh
      rw [Pass.ledger, List.mem_append, List.mem_append] at decidedX
      rcases decidedX with (inc | dfr) | rem
      · exact absurd inc off
      · exact absurd dfr deferredX
      · exact rem
    exact (placed.removed x.hash removedX x (old deferredX) rfl).elim

section
variable {σ : Type} (b : Backend (StateM σ))

theorem ledgerConsidered {cfg : BuilderConfig} {p p' : Pass} {e : Entry} {s s' : Service} {τ τ' : σ}
    {d : Decision} (run : runIn (consider b cfg p e) s τ = ((.ok (d,p'),s'),τ')) :
    ∀ h ∈ p'.ledger, h ∈ p.ledger ∨ h = e.hash := by
  obtain ⟨entries,deferred,removed⟩ := considerBuilt b run
  intro h hh
  rw [Pass.ledger, entries, deferred, removed, List.map_append, List.mem_append, List.mem_append,
    List.mem_append] at hh
  rw [Pass.ledger, List.mem_append, List.mem_append]
  rcases hh with ((old | new) | dfr) | rem
  · exact .inl (.inl (.inl old))
  ·
    split at new <;> simp only [List.map_cons, List.map_nil, List.mem_singleton, List.not_mem_nil] at new
    exact .inr new
  · exact .inl (.inl (.inr dfr))
  · exact .inl (.inr rem)

theorem ledgerDecide {p : Pass} {hs : List Hash} (decided : ∀ h ∈ p.ledger, h ∈ hs) {h : Hash} (mem : h ∈ hs) :
    (∀ x ∈ ({ p with built := { p.built with deferred := p.built.deferred ++ [h] } } : Pass).ledger, x ∈ hs) ∧
      ∀ x ∈ ({ p with built := { p.built with removed := p.built.removed ++ [h] } } : Pass).ledger, x ∈ hs := by
  have grown : ∀ x, x ∈ p.ledger ∨ x = h → x ∈ hs := fun x => (·.elim (decided x) (· ▸ mem))
  constructor <;> intro x hx <;> apply grown x <;>
    simp only [Pass.ledger, List.mem_append, List.mem_singleton] at hx ⊢ <;> tauto

theorem scanFrame {cfg : BuilderConfig} (l : List Entry) {p : Pass} {s : Service} {τ : σ}
    {r : Except Fault Pass} {s' : Service} {τ' : σ} (run : runSt (scan b cfg p l) s τ = ((r,s'),τ'))
    (wf : s.pool.WellFormed) (hs : List Hash) (decided : ∀ h ∈ p.ledger, h ∈ hs)
    (inputs : ∀ e ∈ l, e.hash ∈ hs) : s'.pool.WellFormed ∧ s.pool.AgreeOff hs s'.pool := by
  induction l generalizing p s τ with
  | nil =>
    simp only [scan, runStPure, Prod.mk.injEq] at run
    obtain ⟨⟨rfl,rfl⟩,rfl⟩ := run
    exact ⟨wf,.refl hs s.pool⟩
  | cons e rest ih =>
    have input : e.hash ∈ hs := inputs e (List.mem_cons_self ..)
    have restIn : ∀ x ∈ rest, x.hash ∈ hs := fun x hx => inputs x (List.mem_cons_of_mem _ hx)
    rcases considered : runIn (consider b cfg p e) s τ with ⟨⟨r1,s1⟩,τ1⟩
    have pool1 := (considerKeeps b considered).1
    have wf1 : s1.pool.WellFormed := pool1 ▸ wf
    simp only [scan, runStBind, runStExcept, considered] at run
    cases r1 with
    | error f =>
      simp only [runStRevertAll, runStBind, runStPure, Prod.mk.injEq] at run
      obtain ⟨⟨rfl,rfl⟩,rfl⟩ := run
      rw [pool1, foldRevertHash, foldRevertHash]
      have first := wf.revertAll ((e :: rest).map (·.hash))
      have second := first.1.revertAll p.built.deferred
      refine ⟨(second.1.revertAll _).1,((wf.agreeRevertAll _).mono ?_).trans
        (((first.1.agreeRevertAll _).mono ?_).trans ((second.1.agreeRevertAll _).mono ?_))⟩
      · intro h hh
        obtain ⟨x,hx,rfl⟩ := List.mem_map.mp hh
        exact inputs x hx
      · exact fun h hh => decided h (by simp [Pass.ledger, hh])
      · exact fun h hh => decided h (by simp only [Pass.ledger, List.mem_append]; exact .inl (.inl hh))
    | ok out =>
      obtain ⟨d,p'⟩ := out
      have grown : ∀ h ∈ p'.ledger, h ∈ hs := fun h hh =>
        (ledgerConsidered b considered h hh).elim (decided h) (· ▸ input)
      cases d with
      | «include» =>
        obtain ⟨wf',agree⟩ := ih run wf1 grown restIn
        exact ⟨wf',pool1 ▸ agree⟩
      | defer =>
        obtain ⟨wf',agree⟩ := ih run wf1 (ledgerDecide grown input).1 restIn
        exact ⟨wf',pool1 ▸ agree⟩
      | remove =>
        simp only [runStBind, removeFromPool, runStModifyPool] at run
        obtain ⟨wf',agree⟩ := ih run (wf1.remove e.hash) (ledgerDecide grown input).2 restIn
        refine ⟨wf',?_⟩
        rw [← pool1]
        exact ((wf1.agreeRemove e.hash).mono (by simpa using input)).trans agree
      | stop =>
        simp only [runStPure, Prod.mk.injEq] at run
        obtain ⟨⟨rfl,rfl⟩,rfl⟩ := run
        rw [pool1]
        exact ⟨wf,.refl hs s.pool⟩

theorem buildSettles {taken : List Entry} {p : Pool} {s : Service} (st : Settled taken taken p s.pool)
    (distinct : (taken.map (·.hash)).Nodup) {τ : σ} {r : Except Fault Built} {s' : Service} {τ' : σ}
    (run : runSt (build b taken) s τ = ((r,s'),τ')) :
    (∀ built, r = .ok built → built.entries.Sublist taken ∧ Settled taken built.entries p s'.pool) ∧
      ∀ f, r = .error f → Settled taken [] p s'.pool := by
  let start : Pass := { knownSenders := s.pool.knownSenders }
  have placed : start.Placed s.pool := ⟨by simp [start],by simp [start],by simp [start]⟩
  simp only [build, runStBind, runStConfig, runStGet] at run
  rcases scanned : runSt (scan b s.settings.config.builder.withDefaults start taken) s τ with ⟨⟨r1,s1⟩,τ1⟩
  obtain ⟨ok,err⟩ := scanPlaces b taken scanned st.wellFormed (by simpa [Pass.ledger, start] using distinct)
    st.held placed
  obtain ⟨wf1,frame1⟩ := scanFrame b taken scanned st.wellFormed (taken.map (·.hash)) (by simp [Pass.ledger, start])
    (fun e he => List.mem_map_of_mem he)
  simp only [start] at scanned
  simp only [scanned] at run
  cases r1 with
  | error f =>
    simp only [runStPure, Prod.mk.injEq] at run
    obtain ⟨⟨rfl,rfl⟩,rfl⟩ := run
    refine ⟨fun built same => (by cases same),fun _ _ => ⟨wf1,st.frame.trans frame1,by simp,fun x hx hh _ => ?_⟩⟩
    exact err f rfl x.hash (by simpa [Pass.ledger, start] using hh) x hx rfl
  | ok q =>
    simp only [runStRevertAll, runStBind, runStLog, runStPure, Prod.mk.injEq] at run
    obtain ⟨⟨rfl,rfl⟩,rfl⟩ := run
    refine ⟨fun built same => ?_,fun f same => (by cases same)⟩
    cases same
    obtain ⟨wfq,placedQ,ledger,⟨inc,included,incSub⟩,-,-⟩ := ok q rfl
    have ledger : q.ledger.Perm (taken.map (·.hash)) := by simpa [Pass.ledger, start] using ledger
    have included : q.built.entries = inc := by simpa [start] using included
    exact ⟨included ▸ incSub,placedQ.settles wfq ledger distinct (st.frame.trans frame1)⟩

end

end Erc4337.Bundle
