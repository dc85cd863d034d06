import Erc4337.Proofs.Mempool.Release
/-! Claiming pending entries for a bundle. A claim of up to `n` entries walks the pool in order,
passes over entries already claimed and stops once it holds `n`; said without the walk
(`ClaimsFirst`), it returns the first `n` pending entries of the pool, flipped to bundling, and
flips exactly those in place. The pool keeps everything else.

Only a release flips an entry back to pending, and only an admission puts a new pending entry in
the place of a claimed one. So once a claim has taken entries, every later claim passes over
them until a release or an admission (`Claimed`): two claims with neither between them take
disjoint entries. Entries are told apart by their serials. -/
namespace Erc4337.Mempool

def Entry.claimed (e : Entry) : Entry := { e with status := .bundling }

@[simp] theorem Entry.claimedSerial (e : Entry) : e.claimed.serial = e.serial := rfl

@[simp] theorem Entry.claimedStatus (e : Entry) : e.claimed.status = .bundling := rfl

def pendingBefore (es : List Entry) (i : Nat) : Nat := ((es.take i).filter (·.status = .pending)).length

@[simp] theorem pendingBeforeZero (es : List Entry) : pendingBefore es 0 = 0 := by
  simp [pendingBefore]

theorem pendingBeforeSucc (e : Entry) (es : List Entry) (i : Nat) :
    pendingBefore (e :: es) (i + 1) = (if e.status = .pending then 1 else 0) + pendingBefore es i := by
  by_cases pending : e.status = .pending <;> simp [pendingBefore, pending, Nat.add_comm]

structure ClaimsFirst (n : Nat) (es es' taken : List Entry) : Prop where
  taken : taken = ((es.filter (·.status = .pending)).take n).map Entry.claimed
  flips : es' = es.mapIdx fun i e => if e.status = .pending ∧ pendingBefore es i < n then e.claimed else e

theorem claimClaimsFirst (n : Nat) (es : List Entry) : ClaimsFirst n es (Pool.claim n es).1 (Pool.claim n es).2 := by
  induction es generalizing n with
  | nil => exact ⟨by simp [Pool.claim],by simp [Pool.claim]⟩
  | cons e rest ih =>
    unfold Pool.claim
    split
    · rename_i none
      subst none
      exact ⟨by simp,by rw [List.mapIdx_eq_zipIdx_map]; simp⟩
    obtain ⟨k,rfl⟩ : ∃ k, n = k + 1 := ⟨n - 1,by omega⟩
    split
    ·
      rename_i pending
      obtain ⟨taken,flips⟩ := ih k
      exact ⟨by simp [taken, pending, Entry.claimed],by simp [flips, pendingBeforeSucc, pending, Entry.claimed, Nat.add_comm 1]⟩
    · rename_i waiting
      obtain ⟨taken,flips⟩ := ih (k + 1)
      exact ⟨by simp [taken, waiting],by simp [flips, pendingBeforeSucc, waiting]⟩

namespace Pool

theorem takeBatchClaimsFirst (p : Pool) {limit : Int} (nonneg : 0 ≤ limit) :
    ∃ entries taken, p.takeBatch limit = .ok ({ p with entries },taken) ∧
      ClaimsFirst limit.toNat p.entries entries taken :=
  ⟨_,_,by simp [takeBatch, Int.not_lt.mpr nonneg],claimClaimsFirst _ _⟩

theorem takeAllClaimsFirst (p : Pool) :
    ∃ entries taken, p.takeAll = ({ p with entries },taken) ∧ ClaimsFirst p.size p.entries entries taken :=
  ⟨_,_,rfl,claimClaimsFirst _ _⟩

def claimedBy (p : Pool) : Op → List Entry
  | .takeBatch limit =>
    match p.takeBatch limit with
    | .ok (_,taken) => taken
    | .error _ => []
  | .takeAll => p.takeAll.2
  | _ => []

end Pool

def Op.keepsClaims : Op → Bool
  | .revert _ | .accept .. => false
  | _ => true

def Claimed (ss : List Nat) (p : Pool) : Prop := ∀ e ∈ p.entries, e.serial ∈ ss → e.status = .bundling

namespace Claimed
variable {ss : List Nat}

theorem claim (n : Nat) {es : List Entry} (claimed : ∀ e ∈ es, e.serial ∈ ss → e.status = .bundling) :
    ∀ e ∈ (Pool.claim n es).1, e.serial ∈ ss → e.status = .bundling := by
  intro e mem named
  rcases (claimClaims n es).kept e mem with taken | old
  · exact (claimClaims n es).bundling e taken
  · exact claimed e old named

theorem step {p : Pool} (claimed : Claimed ss p) {o : Op} (keeps : o.keepsClaims) : Claimed ss (p.step o) := by
  cases o with
  | accept => cases keeps
  | revert => cases keeps
  | remove h =>
    simp only [Pool.step, Pool.remove]
    split
    · exact fun e mem => claimed e (List.mem_of_mem_filter mem)
    · exact claimed
  | removeOp op =>
    simp only [Pool.step, Pool.removeOp]
    split
    · exact fun e mem => claimed e (List.mem_of_mem_filter mem)
    · exact claimed
  | takeBatch limit =>
    simp only [Pool.step]
    split
    · rename_i ok
      unfold Pool.takeBatch at ok
      split at ok
      · cases ok
      · cases ok; exact Claimed.claim _ claimed
    · exact claimed
  | takeAll => exact Claimed.claim _ claimed
  | clear => exact fun e mem => by cases mem

theorem run {p : Pool} (claimed : Claimed ss p) {ops : List Op} (keeps : ∀ o ∈ ops, o.keepsClaims) :
    Claimed ss (ops.foldl Pool.step p) := by
  induction ops generalizing p with
  | nil => exact claimed
  | cons o rest ih =>
    exact ih (claimed.step (keeps o List.mem_cons_self)) fun o' mem => keeps o' (List.mem_cons_of_mem o mem)

theorem disjointTaken {p : Pool} (claimed : Claimed ss p) (o : Op) : ∀ e ∈ p.claimedBy o, e.serial ∉ ss := by
  have pendingOnly : ∀ n, ∀ e ∈ (Pool.claim n p.entries).2, e.serial ∉ ss := by
    intro n e mem named
    rw [(claimClaimsFirst n p.entries).taken] at mem
    obtain ⟨x,chosen,rfl⟩ := List.mem_map.mp mem
    have pending := List.mem_filter.mp (List.mem_of_mem_take chosen)
    have stuck := claimed x pending.1 named
    simp [stuck] at pending
  cases o with
  | takeBatch limit =>
    simp only [Pool.claimedBy]
    split
    · rename_i ok
      unfold Pool.takeBatch at ok
      split at ok
      · cases ok
      · cases ok; exact pendingOnly _
    · exact fun _ none => by cases none
  | takeAll => exact pendingOnly _
  | _ => exact fun _ none => by cases none

theorem ofTaken {p : Pool} (serials : (p.entries.map (·.serial)).Nodup) (o : Op) :
    Claimed ((p.claimedBy o).map (·.serial)) (p.step o) := by
  have flipped : ∀ n, Claimed ((Pool.claim n p.entries).2.map (·.serial)) { p with entries := (Pool.claim n p.entries).1 } := by
    intro n e mem named
    obtain ⟨t,taken,same⟩ := List.mem_map.mp named
    have unique : ((Pool.claim n p.entries).1.map (·.serial)).Nodup := by
      have shape := congrArg (List.map fun x => x.1) (claimShape n p.entries)
      simp only [List.map_map] at shape
      rw [show ((Pool.claim n p.entries).1.map (·.serial)) = p.entries.map (·.serial) from shape]
      exact serials
    rw [List.inj_on_of_nodup_map unique mem ((claimClaims n p.entries).sublist.subset taken) same.symm]
    exact (claimClaims n p.entries).bundling t taken
  cases o with
  | takeBatch limit =>
    cases ok : p.takeBatch limit with
    | error f =>
      simp only [Pool.claimedBy, Pool.step, ok]
      exact fun _ _ none => by cases none
    | ok result =>
      simp only [Pool.claimedBy, Pool.step, ok]
      unfold Pool.takeBatch at ok
      split at ok
      · cases ok
      · cases ok; exact flipped _
  | takeAll => exact flipped _
  | _ => exact fun _ _ none => by cases none

end Claimed

theorem claimsDisjoint {p : Pool} (serials : (p.entries.map (·.serial)).Nodup) (first second : Op)
    {between : List Op} (keeps : ∀ o ∈ between, o.keepsClaims) :
    ((p.claimedBy first).map (·.serial)).Disjoint
      (((between.foldl Pool.step (p.step first)).claimedBy second).map (·.serial)) := by
  intro s early late
  obtain ⟨e,taken,rfl⟩ := List.mem_map.mp late
  exact ((Claimed.ofTaken serials first).run keeps).disjointTaken second e taken early

/-- Claims are taken in pool order and exclusively: a claim of up to `limit` entries returns the
first `limit` pending entries, flips exactly those and keeps the rest of the pool; claiming every
pending entry is the claim whose limit is the pool's size; and two claims with no release or
admission between them take disjoint entries. -/
theorem claimsInPoolOrder :
    (∀ (p : Pool) (limit : Int), 0 ≤ limit → ∃ entries taken,
      p.takeBatch limit = .ok ({ p with entries },taken) ∧ ClaimsFirst limit.toNat p.entries entries taken) ∧
    (∀ p : Pool, ∃ entries taken, p.takeAll = ({ p with entries },taken) ∧ ClaimsFirst p.size p.entries entries taken) ∧
    ∀ p : Pool, (p.entries.map (·.serial)).Nodup → ∀ (first second : Op) (between : List Op),
      (∀ o ∈ between, o.keepsClaims) →
      ((p.claimedBy first).map (·.serial)).Disjoint
        (((between.foldl Pool.step (p.step first)).claimedBy second).map (·.serial)) :=
  ⟨fun p _ nonneg => p.takeBatchClaimsFirst nonneg,Pool.takeAllClaimsFirst,
    fun _ serials first second _ keeps => claimsDisjoint serials first second keeps⟩

def mixedPool : Pool :=
  { config := {}
    entries := [{ serial := 0, op := {}, hash := .ofNat 1 }, { serial := 1, op := {}, hash := .ofNat 2, status := .bundling },
      { serial := 2, op := {}, hash := .ofNat 3 }]
    nextSerial := 3 }

theorem claimsInPoolOrderOnMixedPool :
    ((0 : Int) ≤ 1 ∧ ∃ entries taken, mixedPool.takeBatch 1 = .ok ({ mixedPool with entries },taken) ∧
      ClaimsFirst 1 mixedPool.entries entries taken) ∧
    ((mixedPool.entries.map (·.serial)).Nodup ∧ (∀ o ∈ [Op.remove (.ofNat 2)], o.keepsClaims) ∧
      ((mixedPool.claimedBy (.takeBatch 1)).map (·.serial)).Disjoint
        ((([Op.remove (.ofNat 2)].foldl Pool.step (mixedPool.step (.takeBatch 1))).claimedBy .takeAll).map (·.serial))) :=
  have serials : (mixedPool.entries.map (·.serial)).Nodup := by decide
  have keeps : ∀ o ∈ [Op.remove (.ofNat 2)], o.keepsClaims := by simp [Op.keepsClaims]
  ⟨⟨by decide,claimsInPoolOrder.1 mixedPool 1 (by decide)⟩,
    serials,keeps,claimsInPoolOrder.2.2 mixedPool serials (.takeBatch 1) .takeAll _ keeps⟩

end Erc4337.Mempool
