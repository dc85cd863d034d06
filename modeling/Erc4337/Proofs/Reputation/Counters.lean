import Mathlib.Logic.Function.Iterate
import Erc4337.Reputation.Tracker
/-! The counters of a tracker, read per address through `counters?`. Writing one address's
counters leaves every other address's as it was, whatever order the entries are in, and a run of
sightings adds to each tracked address the number of times the run names it. -/
namespace Erc4337.Reputation

theorem findSetEntry (a b : Address) (c : Counters) (l : List (Address × Counters)) :
    ((setEntry b c l).find? (·.1 == a)).map (·.2) =
      if a = b then some c else (l.find? (·.1 == a)).map (·.2) := by
  induction l with
  | nil => by_cases h : a = b <;> simp [setEntry, h, Ne.symm]
  | cons x rest ih =>
    obtain ⟨x,d⟩ := x
    unfold setEntry
    split
    · by_cases h : a = b
      · simp [h]
      · simp [Ne.symm h, h]
    · split
      · rename_i same
        have : x = b := by cases x; cases b; simp_all
        subst this
        by_cases h : a = x
        · simp [h]
        · simp [Ne.symm h, h]
      · rename_i below differ
        by_cases hx : x = a
        · subst hx
          have : x ≠ b := fun h => differ (by rw [h])
          simp [this]
        · simp [hx, ih]

namespace Tracker

theorem countersUpdate (t : Tracker) (b a : Address) (f : Counters → Counters) :
    (t.update b f).counters? a = if a = b then some (f ((t.counters? b).getD {})) else t.counters? a := by
  simp only [update, counters?, findSetEntry]

theorem configRecordSeen (t : Tracker) (b : Address) : (t.recordSeen b).config = t.config := by
  unfold recordSeen; split <;> rfl

theorem runningRecordSeen (t : Tracker) (b : Address) : (t.recordSeen b).running = t.running := by
  unfold recordSeen; split <;> rfl

theorem countersRecordSeen (t : Tracker) (b a : Address) :
    (t.recordSeen b).counters? a =
      if a = b ∧ ¬(b.isZero ∨ t.isWhitelisted b) then
        some { (t.counters? a).getD {} with opsSeen := ((t.counters? a).getD {}).opsSeen + 1 }
      else t.counters? a := by
  unfold recordSeen
  by_cases skip : b.isZero ∨ t.isWhitelisted b
  · simp [skip]
  · rw [if_neg skip,countersUpdate]
    by_cases h : a = b
    · subst h; simp [skip]
    · simp [h]

theorem iterateSeen (n : Nat) (c : Counters) :
    (fun c : Counters => { c with opsSeen := c.opsSeen + 1 })^[n] c = { c with opsSeen := c.opsSeen + n.toUInt64 } := by
  induction n with
  | zero => simp
  | succ n ih =>
    rw [Function.iterate_succ_apply', ih]
    simp [Nat.toUInt64, UInt64.ofNat_add, UInt64.add_assoc]

theorem iterateIncluded (n : Nat) (c : Counters) :
    (fun c : Counters => { c with opsIncluded := c.opsIncluded + 1 })^[n] c =
      { c with opsIncluded := c.opsIncluded + n.toUInt64 } := by
  induction n with
  | zero => simp
  | succ n ih =>
    rw [Function.iterate_succ_apply', ih]
    simp [Nat.toUInt64, UInt64.ofNat_add, UInt64.add_assoc]

theorem countersFoldRecord {record : Tracker → Address → Tracker} {bump : Counters → Counters}
    (step : ∀ t b a, (record t b).counters? a =
      if a = b ∧ ¬(b.isZero ∨ t.isWhitelisted b) then some (bump ((t.counters? a).getD {})) else t.counters? a)
    (listed : ∀ t b, (record t b).isWhitelisted = t.isWhitelisted) (xs : List Address) (t : Tracker) (a : Address) :
    (xs.foldl record t).counters? a =
      if (a.isZero ∨ t.isWhitelisted a) ∨ xs.count a = 0 then t.counters? a
      else some (bump^[xs.count a] ((t.counters? a).getD {})) := by
  induction xs generalizing t with
  | nil => simp
  | cons x xs ih =>
    rw [List.foldl_cons, ih, listed, step, List.count_cons]
    by_cases skip : a.isZero ∨ t.isWhitelisted a
    · by_cases same : a = x
      · subst same; simp [skip]
      · simp [skip, same]
    · by_cases same : a = x
      ·
        subst same
        by_cases none : xs.count a = 0
        · simp [skip, none]
        · simp [skip, none, Function.iterate_succ_apply]
      · simp [skip, same, Ne.symm same]

theorem countersFoldSeen (xs : List Address) (t : Tracker) (a : Address) :
    (xs.foldl recordSeen t).counters? a =
      if (a.isZero ∨ t.isWhitelisted a) ∨ xs.count a = 0 then t.counters? a
      else some { (t.counters? a).getD {} with
        opsSeen := ((t.counters? a).getD {}).opsSeen + (xs.count a).toUInt64 } := by
  have listed : ∀ t b, (recordSeen t b).isWhitelisted = t.isWhitelisted := fun t b => by
    funext a
    simp only [isWhitelisted, configRecordSeen]
  rw [@countersFoldRecord recordSeen (fun c => { c with opsSeen := c.opsSeen + 1 }) countersRecordSeen listed, iterateSeen]

end Tracker

end Erc4337.Reputation
