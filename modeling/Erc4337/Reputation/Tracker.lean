import Erc4337.Reputation.Params
import Erc4337.Rpc.Fault
import Erc4337.Eth.Address
/-!
The reputation tracker: per entity, how many pool operations referenced it (`opsSeen`) and
how many of those were included on chain (`opsIncluded`), as 64-bit counters. From them an
entity is ok, throttled or banned; the zero address, unknown entities and whitelisted ones are
ok, blacklisted ones banned. A crash adds a large penalty to `opsSeen` and clears
`opsIncluded`. Every hour the counters decay to 23/24 of their value, and entries that reach
zero are dropped. Entries are kept sorted by address.
-/
namespace Erc4337.Reputation

inductive Status where
  | ok
  | throttled
  | banned
  deriving DecidableEq, Inhabited

def Status.name : Status → String
  | .ok => "ok"
  | .throttled => "throttled"
  | .banned => "banned"

structure Counters where
  opsSeen : UInt64 := 0
  opsIncluded : UInt64 := 0
  deriving DecidableEq, Inhabited

structure StakeInfo where
  addr : Address := .zero
  stake : Option Int := none
  unstakeDelaySec : UInt64 := 0
  deriving Inhabited

structure Config where
  params : Params := bundlerParams
  minStake : Int := 0
  minUnstakeDelay : UInt64 := 0
  whitelist : List Address := []
  blacklist : List Address := []
  deriving Inhabited


def crashPenalty : UInt64 := 10000

def maxU64 : UInt64 := 0xffffffffffffffff

def addSat (a b : UInt64) : UInt64 := if a + b < a then maxU64 else a + b

def mul64 (x y : UInt64) : UInt64 × UInt64 :=
  let p := x.toNat * y.toNat
  ((p / 2 ^ 64).toUInt64, p.toUInt64)

def div64 (hi lo y : UInt64) (_ : hi < y) : UInt64 × UInt64 :=
  let n := hi.toNat * 2 ^ 64 + lo.toNat
  ((n / y.toNat).toUInt64, (n % y.toNat).toUInt64)

theorem mul64High (x y : UInt64) : (mul64 x y).1.toNat = x.toNat * y.toNat / 2 ^ 64 := by
  have fits : x.toNat * y.toNat / 2 ^ 64 < 2 ^ 64 := by
    rw [Nat.div_lt_iff_lt_mul (by decide)]
    exact Nat.mul_lt_mul'' x.toNat_lt y.toNat_lt
  simp only [mul64, Nat.toUInt64_eq, UInt64.toNat_ofNat', Nat.mod_eq_of_lt fits]

theorem mul64RemHigh (num factor : UInt64) {den : UInt64} (pos : 0 < den) :
    (mul64 (num % den) factor).1 < den := by
  rw [UInt64.lt_iff_toNat_lt, mul64High, Nat.div_lt_iff_lt_mul (by decide), UInt64.toNat_mod]
  have rem : num.toNat % den.toNat < den.toNat := Nat.mod_lt _ (by simpa [UInt64.lt_iff_toNat_lt] using pos)
  exact Nat.mul_lt_mul'' rem factor.toNat_lt

def scaledRatio (num den factor : UInt64) (pos : 0 < den) : UInt64 :=
  let whole := mul64 (num / den) factor
  if whole.1 ≠ 0 then maxU64
  else
    let rest := mul64 (num % den) factor
    addSat whole.2 (div64 rest.1 rest.2 den (mul64RemHigh num factor pos)).1

def Counters.decay (c : Counters) : Counters :=
  { opsSeen := scaledRatio c.opsSeen 24 23 (by decide), opsIncluded := scaledRatio c.opsIncluded 24 23 (by decide) }

def setEntry (a : Address) (c : Counters) : List (Address × Counters) → List (Address × Counters)
  | [] => [(a, c)]
  | (b, d) :: rest =>
    if a.toNat < b.toNat then (a, c) :: (b, d) :: rest
    else if a.toNat = b.toNat then (a, c) :: rest
    else (b, d) :: setEntry a c rest

theorem memSetEntry {a : Address} {c : Counters} {l : List (Address × Counters)} {x : Address × Counters}
    (mem : x ∈ setEntry a c l) : x = (a,c) ∨ x ∈ l := by
  induction l with
  | nil => simpa [setEntry] using mem
  | cons y rest ih =>
    obtain ⟨b,d⟩ := y
    simp only [setEntry] at mem
    split at mem
    · simpa using mem
    · split at mem
      · rcases List.mem_cons.mp mem with same | inside
        · exact .inl same
        · exact .inr (List.mem_cons_of_mem _ inside)
      · rcases List.mem_cons.mp mem with same | inside
        · exact .inr (by simp [same])
        · rcases ih inside with same | older
          · exact .inl same
          · exact .inr (List.mem_cons_of_mem _ older)

theorem setEntrySorted (a : Address) (c : Counters) {l : List (Address × Counters)}
    (sorted : l.Pairwise fun x y => x.1.toNat < y.1.toNat) :
    (setEntry a c l).Pairwise fun x y => x.1.toNat < y.1.toNat := by
  induction l with
  | nil => simp [setEntry]
  | cons y rest ih =>
    obtain ⟨b,d⟩ := y
    have above : ∀ z ∈ rest, b.toNat < z.1.toNat := fun z mem => List.rel_of_pairwise_cons sorted mem
    simp only [setEntry]
    split
    · rename_i below
      refine List.Pairwise.cons (fun z mem => ?_) sorted
      rcases List.mem_cons.mp mem with rfl | inside
      · exact below
      · exact Nat.lt_trans below (above z inside)
    · split
      · rename_i same
        exact List.Pairwise.cons (fun z mem => same ▸ above z mem) sorted.of_cons
      · rename_i notBelow notSame
        refine List.Pairwise.cons (fun z mem => ?_) (ih sorted.of_cons)
        rcases memSetEntry mem with rfl | inside
        · dsimp only
          omega
        · exact above z inside

theorem foldSetEntrySorted (es : List (Address × Counters)) {l : List (Address × Counters)}
    (sorted : l.Pairwise fun x y => x.1.toNat < y.1.toNat) :
    (es.foldl (fun acc (a, c) => setEntry a c acc) l).Pairwise fun x y => x.1.toNat < y.1.toNat := by
  induction es generalizing l with
  | nil => exact sorted
  | cons e rest ih => exact ih (setEntrySorted e.1 e.2 sorted)

theorem decayedAddress {x y : Address × Counters}
    (kept : (if x.2.decay.opsSeen = 0 ∧ x.2.decay.opsIncluded = 0 then none else some (x.1, x.2.decay)) = some y) :
    y.1 = x.1 := by
  by_cases zero : x.2.decay.opsSeen = 0 ∧ x.2.decay.opsIncluded = 0
  · simp [zero] at kept
  · simp only [zero, if_false, Option.some.injEq] at kept
    rw [← kept]

theorem filterMapSorted {f : Address × Counters → Option (Address × Counters)} (keeps : ∀ x y, f x = some y → y.1 = x.1)
    {l : List (Address × Counters)} (sorted : l.Pairwise fun x y => x.1.toNat < y.1.toNat) :
    (l.filterMap f).Pairwise fun x y => x.1.toNat < y.1.toNat := by
  refine sorted.filterMap f fun x y lt x' kept y' kept' => ?_
  rw [keeps x x' kept, keeps y y' kept']
  exact lt

structure Tracker where
  config : Config
  entries : List (Address × Counters) := []
  sorted : entries.Pairwise (fun x y => x.1.toNat < y.1.toNat) := by exact List.Pairwise.nil
  running : Bool := false

instance : Inhabited Tracker := ⟨{ config := default }⟩

namespace Tracker

def create (c : Config) : Tracker :=
  { config := if c.params.minInclusionDenominator = 0 then { c with params := bundlerParams } else c }

def isWhitelisted (t : Tracker) (a : Address) : Bool := t.config.whitelist.contains a

def isBlacklisted (t : Tracker) (a : Address) : Bool := t.config.blacklist.contains a

def counters? (t : Tracker) (a : Address) : Option Counters := (t.entries.find? (·.1 == a)).map (·.2)

def update (t : Tracker) (a : Address) (f : Counters → Counters) : Tracker :=
  { t with entries := setEntry a (f ((t.counters? a).getD {})) t.entries, sorted := setEntrySorted a _ t.sorted }

def recordSeen (t : Tracker) (a : Address) : Tracker :=
  if a.isZero ∨ t.isWhitelisted a then t else t.update a fun c => { c with opsSeen := c.opsSeen + 1 }

def recordIncluded (t : Tracker) (a : Address) : Tracker :=
  if a.isZero ∨ t.isWhitelisted a then t
  else t.update a fun c => { c with opsIncluded := c.opsIncluded + 1 }

def recordCrashed (t : Tracker) (a : Address) : Tracker :=
  if a.isZero then t else t.update a fun c => { opsSeen := addSat c.opsSeen crashPenalty, opsIncluded := 0 }

def status (t : Tracker) (a : Address) : Status :=
  if a.isZero ∨ t.isWhitelisted a then .ok
  else if t.isBlacklisted a then .banned
  else match t.counters? a with
    | none => .ok
    | some c =>
      let p := t.config.params
      let expected := c.opsSeen / p.minInclusionDenominator
      if expected ≤ addSat c.opsIncluded p.throttlingSlack then .ok
      else if expected ≤ addSat c.opsIncluded p.banSlack then .throttled
      else .banned

def maxUnstakedMempoolCount (t : Tracker) (a : Address) : UInt64 :=
  match t.counters? a with
  | none => 10
  | some c =>
    let bonus := if seen : c.opsSeen > 0 then scaledRatio c.opsIncluded c.opsSeen 10 seen else 0
    addSat (10 + min c.opsIncluded 10000) bonus

def requireNotBanned (t : Tracker) (role : String) (a : Address) : Except Fault Unit :=
  if t.status a = .banned then
    .error (.ofRpc ((RpcError.mk RpcError.reputation (role ++ " " ++ a.checksum ++ " is banned") []).withData role (.str a.checksum)))
  else .ok ()

def requireNotThrottled (t : Tracker) (role : String) (a : Address) : Except Fault Unit :=
  if t.status a = .throttled then
    .error (.ofRpc ((RpcError.mk RpcError.reputation (role ++ " " ++ a.checksum ++ " is throttled") []).withData role (.str a.checksum)))
  else .ok ()

def requireStaked (t : Tracker) (role : String) (info : StakeInfo) : Except Fault Unit := do
  if info.addr.isZero ∨ t.isWhitelisted info.addr then return ()
  t.requireNotBanned role info.addr
  let stake := info.stake.getD 0
  let who := role ++ " " ++ info.addr.checksum
  let fail := fun (msg : String) =>
    Fault.ofRpc ((RpcError.mk RpcError.insufficientStake msg []).withData role (.str info.addr.checksum))
  if stake < t.config.minStake then
    if stake = 0 then throw (fail (who ++ " is unstaked"))
    else throw (fail (who ++ " stake " ++ toString stake ++ " is too low (min=" ++ toString t.config.minStake ++ ")"))
  if info.unstakeDelaySec < t.config.minUnstakeDelay then
    throw (fail (who ++ " unstake delay " ++ toString info.unstakeDelaySec ++ " is too low (min=" ++
      toString t.config.minUnstakeDelay ++ ")"))

def decay (t : Tracker) : Tracker :=
  { t with
    entries := t.entries.filterMap fun (a, c) =>
      if c.decay.opsSeen = 0 ∧ c.decay.opsIncluded = 0 then none else some (a, c.decay)
    sorted := filterMapSorted (fun _ _ kept => decayedAddress kept) t.sorted }

def dump (t : Tracker) : List (Address × Counters × Status) :=
  t.entries.map fun (a, c) => (a, c, t.status a)

def setReputation (t : Tracker) (es : List (Address × Counters)) : Tracker :=
  { t with entries := es.foldl (fun acc (a, c) => setEntry a c acc) t.entries, sorted := foldSetEntrySorted es t.sorted }

def clear (t : Tracker) : Tracker := { t with entries := [], sorted := List.Pairwise.nil }

end Tracker

end Erc4337.Reputation
