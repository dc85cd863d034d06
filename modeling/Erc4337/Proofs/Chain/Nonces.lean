import Erc4337.Chain.NonceTracker
import Erc4337.Proofs.Mempool.Representation
/-! The signer's nonce cache over any history of calls. A history is a list of `Call`s on one
tracker, for any number of signers and with any value the node reports to each `next`; `next`
only reads the cache. The nonce `next` gives is never below the node's, and once a nonce `n`
below the largest 64-bit nonce has been committed for a signer, every later `next` for it gives
more than `n` until the signer's cache is reset: a commit leaves `Committed n` behind, every call
but a reset of that signer keeps it, and `next` reads it. -/
namespace Erc4337.NonceTracker

inductive Call where
  | next (a : Address) (onChain : UInt64)
  | commit (a : Address) (nonce : UInt64)
  | reset (a : Address)

def apply (t : NonceTracker) : Call → NonceTracker
  | .next _ _ => t
  | .commit a n => t.commit a n
  | .reset a => t.reset a

def run (t : NonceTracker) (calls : List Call) : NonceTracker := calls.foldl apply t

@[simp] theorem runNil (t : NonceTracker) : t.run [] = t := rfl

@[simp] theorem runCons (t : NonceTracker) (x : Call) (calls : List Call) :
    t.run (x :: calls) = (t.apply x).run calls := rfl

theorem runAppend (t : NonceTracker) (calls more : List Call) : t.run (calls ++ more) = (t.run calls).run more :=
  List.foldl_append

theorem cachedEqLookup (t : NonceTracker) (a : Address) : t.cached? a = t.pending.lookup a :=
  Mempool.findFstEqLookup t.pending a

theorem cachedResetNe (t : NonceTracker) {a b : Address} (other : b ≠ a) : (t.reset a).cached? b = t.cached? b := by
  simp only [cachedEqLookup, reset]
  exact Mempool.lookupFilterNe t.pending other

theorem cachedCommitNe (t : NonceTracker) {a b : Address} (n : UInt64) (other : b ≠ a) :
    (t.commit a n).cached? b = t.cached? b := by
  unfold commit
  have skip : ∀ l : List (Address × UInt64), ((a,n + 1) :: l).lookup b = l.lookup b := fun l => by
    simp [List.lookup_cons, beq_eq_false_iff_ne.mpr other]
  cases t.cached? a with
  | none => simp only [cachedEqLookup, skip]
  | some c =>
    dsimp only
    split
    · simp only [cachedEqLookup, skip, Mempool.lookupFilterNe t.pending other]
    · rfl

theorem cachedCommitRaises (t : NonceTracker) (a : Address) (n : UInt64) {c : UInt64} (found : t.cached? a = some c) :
    ∃ c', (t.commit a n).cached? a = some c' ∧ c ≤ c' := by
  unfold commit
  rw [found]
  dsimp only
  split
  · rename_i above
    exact ⟨n + 1,by simp [cachedEqLookup],UInt64.le_of_lt above⟩
  · exact ⟨c,found,UInt64.le_refl c⟩

theorem cachedCommitAbove (t : NonceTracker) (a : Address) {n : UInt64} (room : n.toNat < 2 ^ 64 - 1) :
    ∃ c, (t.commit a n).cached? a = some c ∧ n < c := by
  have next : n < n + 1 := by
    rw [UInt64.lt_iff_toNat_lt, UInt64.toNat_add, UInt64.toNat_one]
    omega
  unfold commit
  cases found : t.cached? a with
  | none => exact ⟨n + 1,by simp [cachedEqLookup],next⟩
  | some c =>
    dsimp only
    split
    · exact ⟨n + 1,by simp [cachedEqLookup],next⟩
    · rename_i below
      exact ⟨c,found,UInt64.lt_of_lt_of_le next (UInt64.not_lt.mp below)⟩

theorem nextCovers (t : NonceTracker) (a : Address) (onChain : UInt64) :
    onChain ≤ (t.next a onChain).1 ∧ ∀ c, t.cached? a = some c → c ≤ (t.next a onChain).1 := by
  unfold next
  cases found : t.cached? a with
  | none => exact ⟨UInt64.le_refl onChain,fun c same => by cases same⟩
  | some c =>
    dsimp only
    split
    · rename_i above
      exact ⟨UInt64.le_refl onChain,fun c' same => by cases same; exact UInt64.le_of_lt above⟩
    · rename_i below
      exact ⟨UInt64.not_lt.mp below,fun c' same => by cases same; exact UInt64.le_refl c⟩

def Committed (n : UInt64) (a : Address) (t : NonceTracker) : Prop := ∃ c, t.cached? a = some c ∧ n < c

namespace Committed
variable {n : UInt64} {a : Address} {t : NonceTracker}

theorem ofCommit (room : n.toNat < 2 ^ 64 - 1) : Committed n a (t.commit a n) := t.cachedCommitAbove a room

theorem apply (committed : Committed n a t) {x : Call} (kept : x ≠ .reset a) : Committed n a (t.apply x) := by
  obtain ⟨c,found,above⟩ := committed
  cases x with
  | next b onChain => exact ⟨c,found,above⟩
  | commit b m =>
    by_cases same : a = b
    · subst same
      obtain ⟨c',found',raised⟩ := t.cachedCommitRaises a m found
      exact ⟨c',found',UInt64.lt_of_lt_of_le above raised⟩
    · exact ⟨c,(t.cachedCommitNe m same).trans found,above⟩
  | reset b =>
    have other : a ≠ b := fun same => kept (same ▸ rfl)
    exact ⟨c,(t.cachedResetNe other).trans found,above⟩

theorem run (committed : Committed n a t) {calls : List Call} (kept : ∀ x ∈ calls, x ≠ .reset a) :
    Committed n a (t.run calls) := by
  induction calls generalizing t with
  | nil => exact committed
  | cons x rest ih =>
    exact ih (committed.apply (kept x (List.mem_cons_self ..))) fun y mem => kept y (List.mem_cons_of_mem _ mem)

theorem next (committed : Committed n a t) (onChain : UInt64) : n < (t.next a onChain).1 := by
  obtain ⟨c,found,above⟩ := committed
  exact UInt64.lt_of_lt_of_le above ((t.nextCovers a onChain).2 c found)

end Committed

theorem noncesAdvance :
    (∀ (t : NonceTracker) a onChain, onChain ≤ (t.next a onChain).1) ∧
    ∀ (t : NonceTracker) (pre mid : List Call) a n onChain, n.toNat < 2 ^ 64 - 1 → (∀ x ∈ mid, x ≠ .reset a) →
      n < ((t.run (pre ++ .commit a n :: mid)).next a onChain).1 := by
  refine ⟨fun t a onChain => (t.nextCovers a onChain).1,fun t pre mid a n onChain room kept => ?_⟩
  rw [runAppend, runCons]
  exact ((Committed.ofCommit room).run kept).next onChain

end Erc4337.NonceTracker
