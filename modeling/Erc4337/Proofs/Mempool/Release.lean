import Erc4337.Proofs.Mempool.Representation
/-! Claiming entries, returning claims to pending and removing entries by hash. In a well-formed
pool a hash selects at most one entry, so releasing a hash flips exactly the entry that carries it
back to pending and removing a hash drops exactly that entry; both keep the pool well formed, and
so do runs of them. Both leave the entries that carry other hashes as they were (`Pool.AgreeOff`),
and a claim flips pending entries to bundling and changes nothing else (`Claims`). -/
namespace Erc4337.Mempool

namespace Pool.WellFormed
variable {p : Pool} (wf : p.WellFormed)
include wf

theorem serialIffHash {x e : Entry} (hx : x ∈ p.entries) (he : e ∈ p.entries) :
    x.serial = e.serial ↔ x.hash = e.hash := by
  constructor
  · intro same; rw [wf.eqOfSerial hx he same]
  · intro same; rw [wf.eqOfHash hx he same]

theorem absentOfFind {h : Hash} (found : p.find? h = none) : ∀ x ∈ p.entries, x.hash ≠ h := by
  intro x mem same
  have present := wf.findEqSome.mpr ⟨mem,same⟩
  rw [found] at present
  cases present

theorem revertEntries (h : Hash) :
    (p.revert h).entries = p.entries.map fun x => if x.hash = h then { x with status := .pending } else x := by
  unfold Pool.revert
  cases found : p.find? h with
  | none =>
    have absent := wf.absentOfFind found
    conv_lhs => rw [← List.map_id p.entries]
    exact List.map_congr_left fun x mem => by simp [absent x mem]
  | some e =>
    obtain ⟨mem,rfl⟩ := wf.findEqSome.mp found
    exact List.map_congr_left fun x hx => by simp [wf.serialIffHash hx mem]

theorem removeEntries (h : Hash) : (p.remove h).1.entries = p.entries.filter fun x => x.hash ≠ h := by
  unfold Pool.remove
  cases found : p.find? h with
  | none =>
    have absent := wf.absentOfFind found
    exact (List.filter_eq_self.mpr fun x mem => by simpa using absent x mem).symm
  | some e =>
    obtain ⟨mem,rfl⟩ := wf.findEqSome.mp found
    refine List.filter_congr fun x hx => ?_
    by_cases same : x.hash = e.hash
    · simp [same, (wf.serialIffHash hx mem).mpr same]
    · simp [same, mt (wf.serialIffHash hx mem).mp same]

theorem revert (h : Hash) : (p.revert h).WellFormed := wf.step (show HashFresh p (.revert h) from trivial)

theorem remove (h : Hash) : (p.remove h).1.WellFormed := wf.step (show HashFresh p (.remove h) from trivial)

end Pool.WellFormed

def Pool.AgreeOff (hs : List Hash) (p p' : Pool) : Prop :=
  ∀ x : Entry, x.hash ∉ hs → (x ∈ p'.entries ↔ x ∈ p.entries)

namespace Pool.AgreeOff
variable {hs : List Hash} {p p1 p2 : Pool}

theorem refl (hs : List Hash) (p : Pool) : p.AgreeOff hs p := fun _ _ => Iff.rfl

theorem trans (first : p.AgreeOff hs p1) (second : p1.AgreeOff hs p2) : p.AgreeOff hs p2 :=
  fun x off => (second x off).trans (first x off)

theorem mono (agree : p.AgreeOff hs p1) {hs' : List Hash} (sub : ∀ h ∈ hs, h ∈ hs') : p.AgreeOff hs' p1 :=
  fun x off => agree x fun mem => off (sub _ mem)

end Pool.AgreeOff

theorem Pool.WellFormed.revertAll {p : Pool} (wf : p.WellFormed) (hs : List Hash) :
    (hs.foldl (fun q h => q.revert h) p).WellFormed ∧
      (hs.foldl (fun q h => q.revert h) p).entries =
        p.entries.map fun x => if x.hash ∈ hs then { x with status := .pending } else x := by
  induction hs generalizing p with
  | nil => exact ⟨wf,by simp⟩
  | cons h rest ih =>
    obtain ⟨wf',entries⟩ := ih (wf.revert h)
    refine ⟨wf',?_⟩
    rw [List.foldl_cons, entries, wf.revertEntries, List.map_map]
    exact List.map_congr_left fun x _ => by by_cases hx : x.hash = h <;> simp [hx]

namespace Pool.WellFormed
variable {p : Pool} (wf : p.WellFormed)
include wf

theorem memRemove {h : Hash} {x : Entry} : x ∈ (p.remove h).1.entries ↔ x ∈ p.entries ∧ x.hash ≠ h := by
  rw [wf.removeEntries h, List.mem_filter, decide_eq_true_iff]

theorem memRevertAll {hs : List Hash} {x : Entry} (mem : x ∈ (hs.foldl (fun q h => q.revert h) p).entries) :
    (x.hash ∈ hs → x.status = .pending) ∧ (x.hash ∉ hs → x ∈ p.entries) ∧ ∃ y ∈ p.entries, y.hash = x.hash := by
  rw [(wf.revertAll hs).2, List.mem_map] at mem
  obtain ⟨y,hy,rfl⟩ := mem
  by_cases released : y.hash ∈ hs
  · rw [if_pos released]
    exact ⟨fun _ => rfl,fun absent => absurd released absent,y,hy,rfl⟩
  · rw [if_neg released]
    exact ⟨fun present => absurd present released,fun _ => hy,y,hy,rfl⟩

theorem keptRevertAll {hs : List Hash} {x : Entry} (mem : x ∈ p.entries) (kept : x.hash ∉ hs) :
    x ∈ (hs.foldl (fun q h => q.revert h) p).entries := by
  rw [(wf.revertAll hs).2, List.mem_map]
  exact ⟨x,mem,by simp [kept]⟩

theorem pendingRevertAll {hs : List Hash} {y : Entry} (mem : y ∈ p.entries) (released : y.hash ∈ hs) :
    { y with status := .pending } ∈ (hs.foldl (fun q h => q.revert h) p).entries := by
  rw [(wf.revertAll hs).2, List.mem_map]
  exact ⟨y,mem,by simp [released]⟩

theorem agreeRevertAll (hs : List Hash) : p.AgreeOff hs (hs.foldl (fun q h => q.revert h) p) :=
  fun _ off => ⟨fun mem => (wf.memRevertAll mem).2.1 off,fun mem => wf.keptRevertAll mem off⟩

theorem agreeRemove (h : Hash) : p.AgreeOff [h] (p.remove h).1 := by
  intro x off
  rw [wf.memRemove]
  exact ⟨And.left,fun mem => ⟨mem,fun same => off (List.mem_singleton.mpr same)⟩⟩

end Pool.WellFormed

structure Claims (es es' taken : List Entry) : Prop where
  sublist : taken.Sublist es'
  bundling : ∀ x ∈ taken, x.status = .bundling
  kept : ∀ x ∈ es', x ∈ taken ∨ x ∈ es
  covered : ∀ x ∈ es, x ∈ es' ∨ ∃ y ∈ taken, y.hash = x.hash

theorem claimClaims (limit : Nat) (es : List Entry) : Claims es (Pool.claim limit es).1 (Pool.claim limit es).2 := by
  induction es generalizing limit with
  | nil => exact ⟨.slnil,by simp [Pool.claim],by simp [Pool.claim],by simp⟩
  | cons e rest ih =>
    unfold Pool.claim
    split
    · exact ⟨List.nil_sublist _,by simp,fun x hx => .inr hx,fun x hx => .inl hx⟩
    split
    ·
      rcases claimed : Pool.claim (limit - 1) rest with ⟨rest',taken⟩
      obtain ⟨sub,bundling,kept,covered⟩ := claimed ▸ ih (limit - 1)
      dsimp only
      refine ⟨sub.cons_cons _,?_,?_,?_⟩
      · rintro x (_ | ⟨_,hx⟩)
        · rfl
        · exact bundling x hx
      · rintro x (_ | ⟨_,hx⟩)
        · exact .inl (List.mem_cons_self ..)
        · exact (kept x hx).imp (List.mem_cons_of_mem _) (List.mem_cons_of_mem _)
      · rintro x (_ | ⟨_,hx⟩)
        · exact .inr ⟨_,List.mem_cons_self ..,rfl⟩
        · exact (covered x hx).imp (List.mem_cons_of_mem _) fun ⟨y,hy,same⟩ => ⟨y,List.mem_cons_of_mem _ hy,same⟩
    · rcases claimed : Pool.claim limit rest with ⟨rest',taken⟩
      obtain ⟨sub,bundling,kept,covered⟩ := claimed ▸ ih limit
      dsimp only
      refine ⟨sub.cons _,bundling,?_,?_⟩
      · rintro x (_ | ⟨_,hx⟩)
        · exact .inr (List.mem_cons_self ..)
        · exact (kept x hx).imp id (List.mem_cons_of_mem _)
      · rintro x (_ | ⟨_,hx⟩)
        · exact .inl (List.mem_cons_self ..)
        · exact (covered x hx).imp (List.mem_cons_of_mem _) id

end Erc4337.Mempool
