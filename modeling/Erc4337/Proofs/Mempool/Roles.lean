import Erc4337.Proofs.Bundle.Consider
/-! Role exclusivity: no address is the sender of one entry and the paymaster or factory of another.
An insertion is refused when it would break this, and removals, claims, releases and clearing keep
it; a replacement is checked only for its fees, so it keeps roles apart only when the paymaster and
factory of the replacing operation send no other entry. -/
namespace Erc4337.Mempool
open Erc4337.Bundle

def Pool.RolesApart (p : Pool) : Prop :=
  ∀ x ∈ p.entries, ∀ y ∈ p.entries, x.serial ≠ y.serial → x.op.sender ∉ sponsors y.op

def RoleKeeping (p : Pool) : Op → Prop
  | .accept _ op _ _ _ _ => ∀ old, p.withKey? op = some old →
      ∀ x ∈ p.entries, x.serial ≠ old.serial → x.op.sender ∉ sponsors op
  | _ => True

theorem memKnownEntities {p : Pool} {a : Address} : a ∈ p.knownEntities ↔ ∃ e ∈ p.entries, a ∈ sponsors e.op := by
  simp only [Pool.knownEntities, List.mem_flatMap, sponsors]

theorem memKnownSenders {p : Pool} {a : Address} : a ∈ p.knownSenders ↔ ∃ e ∈ p.entries, e.op.sender = a := by
  simp only [Pool.knownSenders, List.mem_map]

theorem checkMultipleRolesOk {p : Pool} {op : UserOperation} (ok : p.checkMultipleRoles op = .ok ()) :
    (∀ y ∈ p.entries, op.sender ∉ sponsors y.op) ∧ ∀ x ∈ p.entries, x.op.sender ∉ sponsors op := by
  simp only [Pool.checkMultipleRoles] at ok
  split at ok
  · cases ok
  split at ok
  · cases ok
  split at ok
  · cases ok
  rename_i sender paymaster factory
  simp only [List.contains_iff_mem, Bool.and_eq_true, not_and, memKnownEntities, memKnownSenders] at sender paymaster factory
  refine ⟨fun y hy mem => sender ⟨y,hy,mem⟩,fun x hx mem => ?_⟩
  simp only [sponsors, List.mem_append] at mem
  rcases mem with mem | mem
  · by_cases used : op.hasPaymaster
    · simp only [used, if_true, List.mem_singleton] at mem
      exact paymaster used ⟨x,hx,mem⟩
    · simp [used] at mem
  · by_cases used : op.hasFactory
    · simp only [used, if_true, List.mem_singleton] at mem
      exact factory used ⟨x,hx,mem⟩
    · simp [used] at mem

namespace Pool.RolesApart
variable {p : Pool} (apart : p.RolesApart)
include apart

theorem ofTwins {p' : Pool} (twins : ∀ x' ∈ p'.entries, ∃ x ∈ p.entries, x.serial = x'.serial ∧ x.op = x'.op) :
    p'.RolesApart := by
  intro x' hx' y' hy' differ
  obtain ⟨x,hx,sx,ox⟩ := twins x' hx'
  obtain ⟨y,hy,sy,oy⟩ := twins y' hy'
  rw [← ox, ← oy]
  exact apart x hx y hy (by rw [sx, sy]; exact differ)

theorem ofSameShape {p' : Pool} (same : p.SameShape p') : p'.RolesApart := by
  refine apart.ofTwins fun x' hx' => ?_
  have pairs := same.through fun t => (t.1,t.2.2)
  have mem : (x'.serial,x'.op) ∈ p.entries.map fun e => (e.serial,e.op) := by
    rw [← pairs]
    exact List.mem_map_of_mem hx'
  obtain ⟨x,hx,same⟩ := List.mem_map.mp mem
  exact ⟨x,hx,(Prod.mk.inj same).1,(Prod.mk.inj same).2⟩

theorem drop (e : Entry) : (p.drop e).RolesApart :=
  apart.ofTwins fun x hx => ⟨x,(List.mem_filter.mp hx).1,rfl,rfl⟩

theorem insert {e : Entry} (roles : p.checkMultipleRoles e.op = .ok ()) : (p.insert e).RolesApart := by
  obtain ⟨newSender,newSponsors⟩ := checkMultipleRolesOk roles
  intro x hx y hy differ
  simp only [Pool.insert, List.mem_append, List.mem_singleton] at hx hy
  rcases hx with hx | rfl <;> rcases hy with hy | rfl
  · exact apart x hx y hy differ
  · exact newSponsors x hx
  · exact newSender y hy
  · exact absurd rfl differ

theorem replace {old e : Entry} (mem : old ∈ p.entries) (key : nonceKey e.op = nonceKey old.op)
    (fresh : ∀ x ∈ p.entries, x.serial ≠ old.serial → x.op.sender ∉ sponsors e.op) : (p.replace old e).RolesApart := by
  have sender : e.op.sender = old.op.sender := congrArg Prod.fst key
  have cases : ∀ x ∈ (p.replace old e).entries, (x = e) ∨ (x ∈ p.entries ∧ x.serial ≠ old.serial) := by
    intro x hx
    obtain ⟨y,hy,rfl⟩ := List.mem_map.mp hx
    by_cases same : y.serial = old.serial
    · simp [same]
    · simp [same, hy]
  intro x hx y hy differ
  rcases cases x hx with rfl | ⟨xIn,sx⟩ <;> rcases cases y hy with rfl | ⟨yIn,sy⟩
  · exact absurd rfl differ
  · rw [sender]
    exact apart old mem y yIn (Ne.symm sy)
  · exact fresh x xIn sx
  · exact apart x xIn y yIn differ

end Pool.RolesApart

theorem rolesApartClear (p : Pool) : p.clear.RolesApart := by
  intro x hx
  simp [Pool.clear] at hx

theorem Pool.RolesApart.accept {p : Pool} (apart : p.RolesApart) (kd : p.Keyed) {rep : Reputation.Tracker}
    {op : UserOperation} {hash : Hash} {prefund : Option Int} {referenced : Option Validation.Referenced}
    {stakes : EntityStakes} {p' : Pool} {rep' : Reputation.Tracker} {adm : Admission}
    (keeping : RoleKeeping p (.accept rep op hash prefund referenced stakes))
    (ok : p.accept rep op hash prefund referenced stakes = .ok (p',rep',adm)) : p'.RolesApart := by
  obtain ⟨-,⟨old,found,-,-,rfl⟩ | ⟨-,-,roles,-,rfl⟩⟩ := acceptEqOk.mp ok
  · obtain ⟨mem,key⟩ := kd.withKeyEqSome.mp found
    exact apart.replace mem key.symm (keeping old found)
  · exact apart.insert roles

theorem Pool.RolesApart.step {p : Pool} (apart : p.RolesApart) (kd : p.Keyed) {o : Op} (keeping : RoleKeeping p o) :
    (p.step o).RolesApart := by
  rcases p.stepCases o with same | ⟨e,-,dropped⟩ | shape | cleared | ⟨_,_,_,_,_,_,_,_,rfl,ok⟩
  · rw [same]; exact apart
  · rw [dropped]; exact apart.drop e
  · exact apart.ofSameShape shape
  · rw [cleared]; exact rolesApartClear p
  · exact apart.accept kd keeping ok

/-- Roles stay apart in every pool reached from an empty one by calls none of which is a replacement
that hands an entry a paymaster or factory sending another entry. -/
theorem rolesStayApart {p : Pool} (reach : Reachable RoleKeeping p) : p.RolesApart := by
  induction reach with
  | create c => exact rolesApartClear (Pool.create c)
  | step reached keeping ih => exact ih.step reached.keyed keeping

theorem rolesApartAfterFeeBump :
    let rep := Reputation.Tracker.create {}
    let first : UserOperation :=
      { sender := .ofNat 16, maxFeePerGas := some 2000000000, maxPriorityFeePerGas := some 1000000000 }
    let bumped : UserOperation := { first with maxFeePerGas := some 3000000000, maxPriorityFeePerGas := some 2000000000 }
    let p1 := (Pool.create {}).step (.accept rep first (.ofNat 1) none none { sender := {} })
    let p2 := p1.step (.accept rep { first with sender := .ofNat 17 } (.ofNat 2) none none { sender := {} })
    let p := p2.step (.accept rep bumped (.ofNat 3) none none { sender := {} })
    Reachable RoleKeeping p ∧ p.RolesApart := by
  intro rep first bumped p1 p2 p
  have unkeyed : ∀ (q : Pool) (op : UserOperation), q.withKey? op = none →
      ∀ h, RoleKeeping q (.accept rep op h none none { sender := {} }) := by
    intro q op none h old found
    rw [none] at found
    cases found
  have unsponsored : sponsors bumped = [] := by decide
  have reach : Reachable RoleKeeping p :=
    .step (.step (.step (.create {}) (unkeyed _ _ rfl _)) (unkeyed _ _ rfl _))
      fun old _ x _ _ => by rw [unsponsored]; exact List.not_mem_nil
  exact ⟨reach,rolesStayApart reach⟩

theorem replacementMixesRoles :
    let rep := Reputation.Tracker.create {}
    let first : UserOperation :=
      { sender := .ofNat 16, maxFeePerGas := some 2000000000, maxPriorityFeePerGas := some 1000000000 }
    let bumped : UserOperation :=
      { first with maxFeePerGas := some 3000000000, maxPriorityFeePerGas := some 2000000000, paymaster := .ofNat 17 }
    let p := (((Pool.create {}).step (.accept rep first (.ofNat 1) none none { sender := {} })).step
      (.accept rep { first with sender := .ofNat 17 } (.ofNat 2) none none { sender := {} })).step
      (.accept rep bumped (.ofNat 3) none none { sender := {} })
    Reachable (fun _ _ => True) p ∧ ¬p.RolesApart := by
  intro rep first bumped p
  have mixed : ∃ x ∈ p.entries, ∃ y ∈ p.entries, x.serial ≠ y.serial ∧ x.op.sender ∈ sponsors y.op := by decide
  obtain ⟨x,hx,y,hy,differ,sponsored⟩ := mixed
  exact ⟨.step (.step (.step (.create {}) trivial) trivial) trivial,fun apart => apart x hx y hy differ sponsored⟩

end Erc4337.Mempool
