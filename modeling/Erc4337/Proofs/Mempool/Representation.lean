import Mathlib.Data.List.Nodup
import Mathlib.Data.List.Perm.Basic
import Erc4337.Mempool.Pool
/-! The pool keeps its entries with three indexes beside them: hash to serial, sender and nonce
to serial, and the per-address entry counter. This module states the representation invariant
that keeps the four in lockstep and shows that every call on the pool preserves it, so it holds
in every state reachable from a fresh pool, provided no admission brings a hash that an entry of
another sender and nonce already holds. -/
namespace Erc4337.Mempool

section Table
variable {κ ν : Type} [BEq κ] [LawfulBEq κ]

theorem lookupFilterNe (l : List (κ × ν)) {k a : κ} (ne : a ≠ k) :
    (l.filter (·.1 != k)).lookup a = l.lookup a := by
  induction l with
  | nil => rfl
  | cons x l ih =>
    obtain ⟨b,v⟩ := x
    by_cases hb : b = k
    · subst hb
      have : (a == b) = false := by simpa using ne
      simp [ih, List.lookup_cons, this]
    · simp only [List.filter_cons, bne_iff_ne, ne_eq, hb, not_false_eq_true, ite_true,
        List.lookup_cons, ih]

theorem lookupFilterSelf (l : List (κ × ν)) (k : κ) : (l.filter (·.1 != k)).lookup k = none := by
  rw [List.lookup_eq_none_iff]
  intro x hx
  have kept := (List.mem_filter.mp hx).2
  rw [bne_iff_ne] at kept ⊢
  exact Ne.symm kept

theorem lookupSetNe (l : List (κ × ν)) {k a : κ} (v : ν) (ne : a ≠ k) :
    ((k,v) :: l.filter (·.1 != k)).lookup a = l.lookup a := by
  have : (a == k) = false := by simpa using ne
  simp [List.lookup_cons, this, lookupFilterNe l ne]

theorem lookupEqSomeIff {l : List (κ × ν)} (keys : (l.map (·.1)).Nodup) {k : κ} {v : ν} :
    l.lookup k = some v ↔ (k,v) ∈ l := by
  induction l with
  | nil => simp
  | cons x l ih =>
    obtain ⟨b,w⟩ := x
    simp only [List.map_cons, List.nodup_cons] at keys
    by_cases hk : k = b
    · subst hk
      refine ⟨fun h => by simp_all, fun h => ?_⟩
      rcases List.mem_cons.mp h with same | mem
      · simp_all
      · exact absurd (List.mem_map.mpr ⟨_,mem,rfl⟩) keys.1
    · have : (k == b) = false := by simpa using hk
      simp [List.lookup_cons, this, ih keys.2, hk]

theorem findFstEqLookup (l : List (κ × ν)) (a : κ) : (l.find? (·.1 == a)).map (·.2) = l.lookup a := by
  induction l with
  | nil => rfl
  | cons x rest ih =>
    obtain ⟨b,v⟩ := x
    by_cases here : a = b
    · subst here
      simp
    · have other : (a == b) = false := by simpa using here
      have other' : (b == a) = false := by simpa using Ne.symm here
      simp [List.lookup_cons, other, other', ih]

end Table

def tally (es : List Entry) (a : Address) : Nat := (es.map fun e => (entities e.op).count a).sum

theorem tallyAppend (xs ys : List Entry) (a : Address) : tally (xs ++ ys) a = tally xs a + tally ys a := by
  simp [tally]

theorem tallyCons (e : Entry) (es : List Entry) (a : Address) :
    tally (e :: es) a = (entities e.op).count a + tally es a := by
  simp [tally]

section Counter

def countOf (cs : List (Address × Nat)) (a : Address) : Nat := (cs.lookup a).getD 0

theorem countOfCountUp (cs : List (Address × Nat)) (x a : Address) :
    countOf (countUp cs x) a = countOf cs a + if x = a then 1 else 0 := by
  by_cases h : x = a
  · subst h; simp [countOf, countUp]
  · simp [countOf, countUp, lookupSetNe _ _ (Ne.symm h), h]

theorem countOfCountDown (cs : List (Address × Nat)) (x a : Address) :
    countOf (countDown cs x) a = countOf cs a - if x = a then 1 else 0 := by
  simp only [countOf, countDown]
  by_cases low : (cs.lookup x).getD 0 ≤ 1
  · rw [if_pos low]
    by_cases h : x = a
    · subst h; simp only [lookupFilterSelf, Option.getD_none, ite_true]; omega
    · simp [lookupFilterNe _ (Ne.symm h), h]
  · rw [if_neg low]
    by_cases h : x = a
    · subst h; simp
    · simp [lookupSetNe _ _ (Ne.symm h), h]

theorem countOfFoldUp (xs : List Address) (cs : List (Address × Nat)) (a : Address) :
    countOf (xs.foldl countUp cs) a = countOf cs a + xs.count a := by
  induction xs generalizing cs with
  | nil => simp
  | cons x xs ih =>
    simp only [List.foldl_cons, ih, countOfCountUp, List.count_cons, beq_iff_eq]
    omega

theorem countOfFoldDown (xs : List Address) (cs : List (Address × Nat)) (a : Address) :
    countOf (xs.foldl countDown cs) a = countOf cs a - xs.count a := by
  induction xs generalizing cs with
  | nil => simp
  | cons x xs ih =>
    simp only [List.foldl_cons, ih, countOfCountDown, List.count_cons, beq_iff_eq]
    omega

theorem countOfCountIn (cs : List (Address × Nat)) (op : UserOperation) (a : Address) :
    countOf (countIn cs op) a = countOf cs a + (entities op).count a :=
  countOfFoldUp _ _ _

theorem countOfCountOut (cs : List (Address × Nat)) (op : UserOperation) (a : Address) :
    countOf (countOut cs op) a = countOf cs a - (entities op).count a :=
  countOfFoldDown _ _ _

theorem positiveFoldUp (xs : List Address) {cs : List (Address × Nat)} (pos : ∀ x ∈ cs, 0 < x.2) :
    ∀ x ∈ xs.foldl countUp cs, 0 < x.2 := by
  induction xs generalizing cs with
  | nil => exact pos
  | cons y xs ih =>
    apply ih
    intro x mem
    rcases List.mem_cons.mp mem with rfl | mem
    · simp
    · exact pos x (List.mem_filter.mp mem).1

theorem positiveFoldDown (xs : List Address) {cs : List (Address × Nat)} (pos : ∀ x ∈ cs, 0 < x.2) :
    ∀ x ∈ xs.foldl countDown cs, 0 < x.2 := by
  induction xs generalizing cs with
  | nil => exact pos
  | cons y xs ih =>
    apply ih
    intro x mem
    simp only [countDown] at mem
    split at mem
    · exact pos x (List.mem_filter.mp mem).1
    · rcases List.mem_cons.mp mem with rfl | mem
      · simp only; omega
      · exact pos x (List.mem_filter.mp mem).1

end Counter

section Representation
variable {γ κ : Type}

structure Pool.Keyed (p : Pool) : Prop where
  serials : (p.entries.map (·.serial)).Nodup
  fresh : ∀ e ∈ p.entries, e.serial < p.nextSerial
  keys : (p.entries.map (nonceKey ·.op)).Nodup
  keyIndex : p.keyIndex.Perm (p.entries.map fun e => (nonceKey e.op,e.serial))
  count : ∀ a, countOf p.counts a = tally p.entries a
  positive : ∀ x ∈ p.counts, 0 < x.2

structure Pool.WellFormed (p : Pool) : Prop extends Pool.Keyed p where
  hashes : (p.entries.map (·.hash)).Nodup
  index : p.index.Perm (p.entries.map fun e => (e.hash,e.serial))

theorem tableLookup [BEq κ] [LawfulBEq κ] {idx : List (κ × Nat)} {es : List Entry} {key : Entry → κ}
    (table : idx.Perm (es.map fun e => (key e,e.serial))) (keys : (es.map key).Nodup) {k : κ} {s : Nat} :
    idx.lookup k = some s ↔ ∃ e ∈ es, key e = k ∧ e.serial = s := by
  have distinct : (idx.map (·.1)).Nodup := by
    rw [(table.map (·.1)).nodup_iff, List.map_map]
    exact keys
  rw [lookupEqSomeIff distinct, table.mem_iff]
  simp

theorem findSerial {es : List Entry} (serials : (es.map (·.serial)).Nodup) {s : Nat} {e : Entry} :
    es.find? (·.serial == s) = some e ↔ e ∈ es ∧ e.serial = s := by
  constructor
  · intro found
    exact ⟨List.mem_of_find?_eq_some found,by simpa using List.find?_some found⟩
  · rintro ⟨mem,rfl⟩
    cases h : es.find? (·.serial == e.serial) with
    | none => simp at h; exact absurd rfl (h e mem)
    | some x =>
      have same := List.inj_on_of_nodup_map serials (List.mem_of_find?_eq_some h) mem
        (by simpa using List.find?_some h)
      rw [same]

theorem Pool.memOfFind {p : Pool} {h : Hash} {e : Entry} (found : p.find? h = some e) : e ∈ p.entries := by
  simp only [Pool.find?, Option.bind_eq_bind, Option.bind_eq_some_iff] at found
  obtain ⟨_,_,found⟩ := found
  exact List.mem_of_find?_eq_some found

theorem Pool.memOfWithKey {p : Pool} {op : UserOperation} {e : Entry} (found : p.withKey? op = some e) :
    e ∈ p.entries := by
  simp only [Pool.withKey?, Option.bind_eq_bind, Option.bind_eq_some_iff] at found
  obtain ⟨_,_,found⟩ := found
  exact List.mem_of_find?_eq_some found

namespace Pool.Keyed
variable {p : Pool} (kd : p.Keyed)
include kd

theorem eqOfSerial {x y : Entry} (hx : x ∈ p.entries) (hy : y ∈ p.entries) (same : x.serial = y.serial) :
    x = y := List.inj_on_of_nodup_map kd.serials hx hy same

theorem eqOfKey {x y : Entry} (hx : x ∈ p.entries) (hy : y ∈ p.entries)
    (same : nonceKey x.op = nonceKey y.op) : x = y := List.inj_on_of_nodup_map kd.keys hx hy same

theorem withKeyEqSome {op : UserOperation} {e : Entry} :
    p.withKey? op = some e ↔ e ∈ p.entries ∧ nonceKey e.op = nonceKey op := by
  simp only [Pool.withKey?, Option.bind_eq_bind, Option.bind_eq_some_iff,
    tableLookup kd.keyIndex kd.keys, findSerial kd.serials]
  constructor
  · rintro ⟨s,⟨x,mem,same,rfl⟩,mem',serial⟩
    rw [kd.eqOfSerial mem' mem serial]
    exact ⟨mem,same⟩
  · rintro ⟨mem,same⟩
    exact ⟨e.serial,⟨e,mem,same,rfl⟩,mem,rfl⟩

theorem withKeyEqNone {op : UserOperation} :
    p.withKey? op = none ↔ ∀ e ∈ p.entries, nonceKey e.op ≠ nonceKey op := by
  constructor
  · intro none e mem same
    have found : p.withKey? op = some e := kd.withKeyEqSome.2 ⟨mem,same⟩
    rw [none] at found
    cases found
  · intro absent
    cases h : p.withKey? op with
    | none => rfl
    | some e =>
      obtain ⟨mem,same⟩ := kd.withKeyEqSome.1 h
      exact absurd same (absent e mem)

end Pool.Keyed

namespace Pool.WellFormed
variable {p : Pool} (wf : p.WellFormed)
include wf

theorem eqOfHash {x y : Entry} (hx : x ∈ p.entries) (hy : y ∈ p.entries) (same : x.hash = y.hash) :
    x = y := List.inj_on_of_nodup_map wf.hashes hx hy same

theorem findEqSome {h : Hash} {e : Entry} : p.find? h = some e ↔ e ∈ p.entries ∧ e.hash = h := by
  simp only [Pool.find?, Option.bind_eq_bind, Option.bind_eq_some_iff, tableLookup wf.index wf.hashes,
    findSerial wf.serials]
  constructor
  · rintro ⟨s,⟨x,mem,rfl,rfl⟩,mem',same⟩
    rw [wf.eqOfSerial mem' mem same]
    exact ⟨mem,rfl⟩
  · rintro ⟨mem,rfl⟩
    exact ⟨e.serial,⟨e,mem,rfl,rfl⟩,mem,rfl⟩

end Pool.WellFormed

end Representation

section Steps
variable {γ κ : Type}

theorem notMemOfNodupMiddle {f : Entry → γ} {pre post : List Entry} {old : Entry}
    (h : ((pre ++ old :: post).map f).Nodup) : ∀ x ∈ pre ++ post, f x ≠ f old := by
  intro x mem same
  rw [List.map_append, List.map_cons, List.nodup_middle, List.nodup_cons, ← List.map_append] at h
  exact h.1 (List.mem_map.mpr ⟨x,mem,same⟩)

theorem nodupDrop {f : Entry → γ} {pre post : List Entry} {old : Entry}
    (h : ((pre ++ old :: post).map f).Nodup) : ((pre ++ post).map f).Nodup := by
  rw [List.map_append, List.map_cons, List.nodup_middle, List.nodup_cons, ← List.map_append] at h
  exact h.2

theorem nodupSwap {f : Entry → γ} {pre post : List Entry} {old e : Entry}
    (h : ((pre ++ old :: post).map f).Nodup) (fresh : ∀ x ∈ pre ++ post, f x ≠ f e) :
    ((pre ++ e :: post).map f).Nodup := by
  have rest := nodupDrop h
  rw [List.map_append, List.map_cons, List.nodup_middle, List.nodup_cons, ← List.map_append]
  refine ⟨fun mem => ?_,rest⟩
  obtain ⟨x,hx,same⟩ := List.mem_map.mp mem
  exact fresh x hx same

theorem memMiddle {pre post : List Entry} {old x : Entry} (mem : x ∈ pre ++ post) : x ∈ pre ++ old :: post := by
  rcases List.mem_append.mp mem with h | h <;> simp [h]

theorem filterAbsent [BEq κ] [LawfulBEq κ] {f : Entry → κ} {l : List Entry} {k : κ}
    (absent : ∀ x ∈ l, f x ≠ k) : l.filter (fun x => f x != k) = l :=
  List.filter_eq_self.mpr fun x mem => by simpa using absent x mem

theorem filterSplit [BEq κ] [LawfulBEq κ] {f : Entry → κ} {pre post : List Entry} {old : Entry}
    (others : ∀ x ∈ pre ++ post, f x ≠ f old) :
    (pre ++ old :: post).filter (fun x => f x != f old) = pre ++ post := by
  rw [List.filter_append, List.filter_cons_of_neg (by simp),
    filterAbsent fun x mem => others x (List.mem_append_left _ mem),
    filterAbsent fun x mem => others x (List.mem_append_right _ mem)]

theorem mapReplace {pre post : List Entry} {old e : Entry} (others : ∀ x ∈ pre ++ post, x.serial ≠ old.serial) :
    (pre ++ old :: post).map (fun x => if x.serial == old.serial then e else x) = pre ++ e :: post := by
  have keep : ∀ l : List Entry, (∀ x ∈ l, x.serial ≠ old.serial) →
      l.map (fun x => if x.serial == old.serial then e else x) = l := fun l h => by
    conv_rhs => rw [← List.map_id l]
    exact List.map_congr_left fun x mem => by simp [h x mem]
  rw [List.map_append, List.map_cons, keep pre fun x hx => others x (List.mem_append_left _ hx),
    keep post fun x hx => others x (List.mem_append_right _ hx)]
  simp

theorem tableFilter [BEq κ] [LawfulBEq κ] {idx : List (κ × Nat)} {es : List Entry} {key : Entry → κ}
    (table : idx.Perm (es.map fun e => (key e,e.serial))) (k : κ) :
    (idx.filter (·.1 != k)).Perm ((es.filter fun e => key e != k).map fun e => (key e,e.serial)) := by
  have := table.filter (·.1 != k)
  rwa [List.filter_map, Function.comp_def] at this

theorem tableCons {idx : List (κ × Nat)} {g : Entry → κ × Nat} {pre post : List Entry} {e : Entry}
    (rest : idx.Perm ((pre ++ post).map g)) : (g e :: idx).Perm ((pre ++ e :: post).map g) := by
  rw [List.map_append, List.map_cons]
  exact (rest.trans (by rw [List.map_append])).cons _ |>.trans List.perm_middle.symm

structure Pool.SameShape (p p' : Pool) : Prop where
  shape : p'.entries.map (fun e => (e.serial,e.hash,e.op)) = p.entries.map (fun e => (e.serial,e.hash,e.op))
  index : p'.index = p.index
  keyIndex : p'.keyIndex = p.keyIndex
  counts : p'.counts = p.counts
  next : p'.nextSerial = p.nextSerial

theorem Pool.SameShape.through {p p' : Pool} (same : p.SameShape p') (g : Nat × Hash × UserOperation → γ) :
    p'.entries.map (fun e => g (e.serial,e.hash,e.op)) = p.entries.map (fun e => g (e.serial,e.hash,e.op)) := by
  simpa [List.map_map, Function.comp_def] using congrArg (List.map g) same.shape

namespace Pool.Keyed
variable {p : Pool} (kd : p.Keyed)
include kd

theorem split {old : Entry} (mem : old ∈ p.entries) :
    ∃ pre post, p.entries = pre ++ old :: post ∧
      ∀ x ∈ pre ++ post, x.serial ≠ old.serial ∧ nonceKey x.op ≠ nonceKey old.op := by
  obtain ⟨pre,post,entries⟩ := List.append_of_mem mem
  have serials := kd.serials
  have keys := kd.keys
  rw [entries] at serials keys
  exact ⟨pre,post,entries,fun x mem => ⟨notMemOfNodupMiddle serials x mem,notMemOfNodupMiddle keys x mem⟩⟩

theorem insert {e : Entry} (serial : e.serial = p.nextSerial) (key : ∀ x ∈ p.entries, nonceKey x.op ≠ nonceKey e.op) :
    { p.insert e with nextSerial := p.nextSerial + 1 }.Keyed where
  serials := by
    have older : ∀ x ∈ p.entries, x.serial ≠ e.serial := fun x mem => by
      have := kd.fresh x mem; omega
    simpa [Pool.insert, List.nodup_append, kd.serials] using older
  fresh := by
    intro x mem
    rcases List.mem_append.mp mem with mem | mem
    · exact Nat.lt_succ_of_lt (kd.fresh x mem)
    · rw [List.mem_singleton.mp mem, serial]; exact Nat.lt_succ_self _
  keys := by simpa [Pool.insert, List.nodup_append, kd.keys] using key
  keyIndex := by
    have kept := tableFilter kd.keyIndex (nonceKey e.op)
    rw [filterAbsent key] at kept
    simpa [Pool.insert, Pool.unkey] using (kept.cons (nonceKey e.op,e.serial)).trans (List.perm_append_singleton _ _).symm
  count a := by
    simp only [Pool.insert, countOfCountIn, kd.count, tallyAppend]
    simp [tally]
  positive := positiveFoldUp _ kd.positive

theorem replace {old e : Entry} (mem : old ∈ p.entries) (serial : e.serial = p.nextSerial)
    (key : nonceKey e.op = nonceKey old.op) : { p.replace old e with nextSerial := p.nextSerial + 1 }.Keyed := by
  obtain ⟨pre,post,split,others⟩ := kd.split mem
  have inPool : ∀ x ∈ pre ++ post, x ∈ p.entries := fun x hx => split ▸ memMiddle hx
  have entries : (p.entries.map fun x => if x.serial == old.serial then e else x) = pre ++ e :: post := by
    rw [split]; exact mapReplace fun x hx => (others x hx).1
  constructor
  case serials =>
    simp only [Pool.replace, entries]
    refine nodupSwap (split ▸ kd.serials) fun x hx => ?_
    have := kd.fresh x (inPool x hx); omega
  case fresh =>
    simp only [Pool.replace, entries]
    intro y hy
    rcases List.mem_append.mp hy with h | h
    · exact Nat.lt_succ_of_lt (kd.fresh y (inPool y (List.mem_append_left _ h)))
    · rcases List.mem_cons.mp h with rfl | h
      · omega
      · exact Nat.lt_succ_of_lt (kd.fresh y (inPool y (List.mem_append_right _ h)))
  case keys =>
    simp only [Pool.replace, entries]
    exact nodupSwap (split ▸ kd.keys) fun x hx => key ▸ (others x hx).2
  case keyIndex =>
    simp only [Pool.replace, Pool.unkey, entries]
    have kept := tableFilter kd.keyIndex (nonceKey old.op)
    rw [split, filterSplit fun x hx => (others x hx).2, ← key] at kept
    exact tableCons kept
  case count =>
    intro a
    simp only [Pool.replace]
    rw [entries, countOfCountIn, countOfCountOut, kd.count, split]
    simp only [tallyAppend, tallyCons]
    omega
  case positive => exact positiveFoldUp _ (positiveFoldDown _ kd.positive)

theorem drop {e : Entry} (mem : e ∈ p.entries) : (p.drop e).Keyed := by
  obtain ⟨pre,post,split,others⟩ := kd.split mem
  have entries : p.entries.filter (·.serial != e.serial) = pre ++ post := by
    rw [split]; exact filterSplit fun x hx => (others x hx).1
  constructor
  case serials => simpa only [Pool.drop, entries] using nodupDrop (split ▸ kd.serials)
  case fresh =>
    intro x hx
    exact kd.fresh x (List.mem_filter.mp hx).1
  case keys => simpa only [Pool.drop, entries] using nodupDrop (split ▸ kd.keys)
  case keyIndex =>
    have kept := tableFilter kd.keyIndex (nonceKey e.op)
    rw [split, filterSplit fun x hx => (others x hx).2] at kept
    simpa only [Pool.drop, Pool.unkey, entries] using kept
  case count =>
    intro a
    simp only [Pool.drop]
    rw [entries, countOfCountOut, kd.count, split]
    simp only [tallyAppend, tallyCons]
    omega
  case positive => exact positiveFoldDown _ kd.positive

theorem ofSameShape {p' : Pool} (same : p.SameShape p') : p'.Keyed := by
  constructor
  case serials => simpa using (same.through (·.1)) ▸ kd.serials
  case fresh =>
    intro x hx
    have : (x.serial,x.hash,x.op) ∈ p.entries.map (fun e => (e.serial,e.hash,e.op)) :=
      same.shape ▸ List.mem_map.mpr ⟨x,hx,rfl⟩
    obtain ⟨y,hy,eq⟩ := List.mem_map.mp this
    rw [same.next, ← (Prod.mk.inj eq).1]
    exact kd.fresh y hy
  case keys => simpa using (same.through fun t => nonceKey t.2.2) ▸ kd.keys
  case keyIndex => simpa [same.keyIndex] using (same.through fun t => (nonceKey t.2.2,t.1)) ▸ kd.keyIndex
  case count =>
    intro a
    have counted := same.through fun t => (entities t.2.2).count a
    simp only at counted
    rw [same.counts, kd.count, tally, tally, counted]
  case positive => exact same.counts ▸ kd.positive

end Pool.Keyed

namespace Pool.WellFormed
variable {p : Pool} (wf : p.WellFormed)
include wf

theorem insert {e : Entry} (serial : e.serial = p.nextSerial) (hash : ∀ x ∈ p.entries, x.hash ≠ e.hash)
    (key : ∀ x ∈ p.entries, nonceKey x.op ≠ nonceKey e.op) :
    { p.insert e with nextSerial := p.nextSerial + 1 }.WellFormed where
  toKeyed := Pool.Keyed.insert wf.toKeyed serial key
  hashes := by simpa [Pool.insert, List.nodup_append, wf.hashes] using hash
  index := by
    have kept := tableFilter wf.index e.hash
    rw [filterAbsent hash] at kept
    simpa [Pool.insert, Pool.unindex] using (kept.cons (e.hash,e.serial)).trans (List.perm_append_singleton _ _).symm

theorem replace {old e : Entry} (mem : old ∈ p.entries) (serial : e.serial = p.nextSerial)
    (key : nonceKey e.op = nonceKey old.op) (hash : ∀ x ∈ p.entries, x.hash = e.hash → x = old) :
    { p.replace old e with nextSerial := p.nextSerial + 1 }.WellFormed := by
  obtain ⟨pre,post,split,others⟩ := wf.split mem
  have entries : (p.entries.map fun x => if x.serial == old.serial then e else x) = pre ++ e :: post := by
    rw [split]; exact mapReplace fun x hx => (others x hx).1
  have oldHash : ∀ x ∈ pre ++ post, x.hash ≠ old.hash := notMemOfNodupMiddle (split ▸ wf.hashes)
  have newHash : ∀ x ∈ pre ++ post, x.hash ≠ e.hash := fun x hx same =>
    (others x hx).1 (by rw [hash x (split ▸ memMiddle hx) same])
  refine { toKeyed := Pool.Keyed.replace wf.toKeyed mem serial key, hashes := ?_, index := ?_ }
  · simp only [Pool.replace, entries]
    exact nodupSwap (split ▸ wf.hashes) newHash
  · simp only [Pool.replace, Pool.unindex, entries]
    have first := tableFilter wf.index old.hash
    rw [split, filterSplit oldHash] at first
    have second := tableFilter first e.hash
    rw [filterAbsent newHash] at second
    exact tableCons second

theorem drop {e : Entry} (mem : e ∈ p.entries) : (p.drop e).WellFormed := by
  obtain ⟨pre,post,split,others⟩ := wf.split mem
  have entries : p.entries.filter (·.serial != e.serial) = pre ++ post := by
    rw [split]; exact filterSplit fun x hx => (others x hx).1
  have kept := tableFilter wf.index e.hash
  rw [split, filterSplit (notMemOfNodupMiddle (split ▸ wf.hashes))] at kept
  refine { toKeyed := Pool.Keyed.drop wf.toKeyed mem, hashes := ?_, index := ?_ }
  · simpa only [Pool.drop, entries] using nodupDrop (split ▸ wf.hashes)
  · simpa only [Pool.drop, Pool.unindex, entries] using kept

theorem ofSameShape {p' : Pool} (same : p.SameShape p') : p'.WellFormed where
  toKeyed := Pool.Keyed.ofSameShape wf.toKeyed same
  hashes := by simpa using (same.through (·.2.1)) ▸ wf.hashes
  index := by simpa [same.index] using (same.through fun t => (t.2.1,t.1)) ▸ wf.index

end Pool.WellFormed

end Steps

section Calls

theorem claimShape (n : Nat) (es : List Entry) :
    (Pool.claim n es).1.map (fun e => (e.serial,e.hash,e.op)) = es.map (fun e => (e.serial,e.hash,e.op)) := by
  induction es generalizing n with
  | nil => rfl
  | cons e rest ih =>
    unfold Pool.claim
    split
    · rfl
    · split <;> simp [ih]

theorem acceptEqOk {p : Pool} {rep : Reputation.Tracker} {op : UserOperation} {hash : Hash}
    {prefund : Option Int} {referenced : Option Validation.Referenced} {stakes : EntityStakes}
    {p' : Pool} {rep' : Reputation.Tracker} {adm : Admission} :
    p.accept rep op hash prefund referenced stakes = .ok (p',rep',adm) ↔
      rep' = Pool.recordAdmitted rep op stakes ∧
      ((∃ old, p.withKey? op = some old ∧ checkReplacement old.op op = .ok () ∧ adm = .replaced old ∧
          p' = { p.replace old (p.admitted op hash prefund referenced stakes) with nextSerial := p.nextSerial + 1 }) ∨
        (p.withKey? op = none ∧ p.checkReputation rep stakes = .ok () ∧ p.checkMultipleRoles op = .ok () ∧
          adm = .inserted ∧
          p' = { p.insert (p.admitted op hash prefund referenced stakes) with nextSerial := p.nextSerial + 1 })) := by
  cases hk : p.withKey? op with
  | some old =>
    cases hc : checkReplacement old.op op with
    | error e =>
      have refused : p.accept rep op hash prefund referenced stakes = .error e := by
        simp [Pool.accept, hk, hc, bind, Except.bind]
      rw [refused]
      simp [hc]
    | ok u =>
      cases u
      have replaced : p.accept rep op hash prefund referenced stakes =
          .ok ({ p.replace old (p.admitted op hash prefund referenced stakes) with nextSerial := p.nextSerial + 1 },
            Pool.recordAdmitted rep op stakes,.replaced old) := by
        simp [Pool.accept, hk, hc, bind, Except.bind, pure, Except.pure]
      rw [replaced]
      constructor
      · intro same; cases same; exact ⟨rfl,.inl ⟨old,rfl,hc,rfl,rfl⟩⟩
      · rintro ⟨rfl,⟨old',found,-,rfl,rfl⟩ | ⟨absent,-⟩⟩
        · cases found; rfl
        · cases absent
  | none =>
    cases hr : p.checkReputation rep stakes with
    | error e =>
      have refused : p.accept rep op hash prefund referenced stakes = .error e := by
        simp [Pool.accept, hk, hr, bind, Except.bind]
      rw [refused]
      simp
    | ok u =>
      cases hm : p.checkMultipleRoles op with
      | error e =>
        have refused : p.accept rep op hash prefund referenced stakes = .error e := by
          simp [Pool.accept, hk, hr, hm, bind, Except.bind]
        rw [refused]
        simp
      | ok v =>
        cases u; cases v
        have inserted : p.accept rep op hash prefund referenced stakes =
            .ok ({ p.insert (p.admitted op hash prefund referenced stakes) with nextSerial := p.nextSerial + 1 },
              Pool.recordAdmitted rep op stakes,.inserted) := by
          simp [Pool.accept, hk, hr, hm, bind, Except.bind, pure, Except.pure]
        rw [inserted]
        constructor
        · intro same; cases same; exact ⟨rfl,.inr ⟨rfl,rfl,rfl,rfl,rfl⟩⟩
        · rintro ⟨rfl,⟨old',found,-⟩ | ⟨-,-,-,rfl,rfl⟩⟩
          · cases found
          · rfl

inductive Op where
  | accept (rep : Reputation.Tracker) (op : UserOperation) (hash : Hash) (prefund : Option Int)
      (referenced : Option Validation.Referenced) (stakes : EntityStakes)
  | remove (hash : Hash)
  | removeOp (op : UserOperation)
  | takeBatch (limit : Int)
  | takeAll
  | revert (hash : Hash)
  | clear

def Pool.step (p : Pool) : Op → Pool
  | .accept rep op hash prefund referenced stakes =>
    match p.accept rep op hash prefund referenced stakes with
    | .ok (p',_,_) => p'
    | .error _ => p
  | .remove h => (p.remove h).1
  | .removeOp op => (p.removeOp op).1
  | .takeBatch limit =>
    match p.takeBatch limit with
    | .ok (p',_) => p'
    | .error _ => p
  | .takeAll => p.takeAll.1
  | .revert h => p.revert h
  | .clear => p.clear

inductive Reachable (allowed : Pool → Op → Prop) : Pool → Prop where
  | create (c : Config) : Reachable allowed (Pool.create c)
  | step {p : Pool} {o : Op} : Reachable allowed p → allowed p o → Reachable allowed (p.step o)

def HashFresh (p : Pool) : Op → Prop
  | .accept _ op hash _ _ _ => ∀ e ∈ p.entries, e.hash = hash → nonceKey e.op = nonceKey op
  | _ => True

instance (p : Pool) (o : Op) : Decidable (HashFresh p o) :=
  match o with
  | .accept _ op hash _ _ _ => inferInstanceAs (Decidable (∀ e ∈ p.entries, e.hash = hash → nonceKey e.op = nonceKey op))
  | .remove _ | .removeOp _ | .takeBatch _ | .takeAll | .revert _ | .clear => isTrue trivial

theorem Pool.takeBatchShape {p p' : Pool} {limit : Int} {taken : List Entry}
    (ok : p.takeBatch limit = .ok (p',taken)) : p.SameShape p' := by
  unfold Pool.takeBatch at ok
  split at ok
  · cases ok
  · cases ok; exact ⟨claimShape _ _,rfl,rfl,rfl,rfl⟩

theorem Pool.stepCases (p : Pool) (o : Op) :
    p.step o = p ∨ (∃ e ∈ p.entries, p.step o = p.drop e) ∨ p.SameShape (p.step o) ∨ p.step o = p.clear ∨
      ∃ rep op hash prefund referenced stakes rep' adm, o = .accept rep op hash prefund referenced stakes ∧
        p.accept rep op hash prefund referenced stakes = .ok (p.step o,rep',adm) := by
  cases o with
  | accept rep op hash prefund referenced stakes =>
    cases ok : p.accept rep op hash prefund referenced stakes with
    | error e => left; simp [Pool.step, ok]
    | ok r =>
      obtain ⟨p',rep',adm⟩ := r
      have stepped : p.step (.accept rep op hash prefund referenced stakes) = p' := by simp [Pool.step, ok]
      rw [stepped]
      exact .inr (.inr (.inr (.inr ⟨rep,op,hash,prefund,referenced,stakes,rep',adm,rfl,ok⟩)))
  | remove h =>
    cases found : p.find? h with
    | none => left; simp [Pool.step, Pool.remove, found]
    | some e => exact .inr (.inl ⟨e,Pool.memOfFind found,by simp [Pool.step, Pool.remove, found]⟩)
  | removeOp op =>
    cases found : p.withKey? op with
    | none => left; simp [Pool.step, Pool.removeOp, found]
    | some e => exact .inr (.inl ⟨e,Pool.memOfWithKey found,by simp [Pool.step, Pool.removeOp, found]⟩)
  | takeBatch limit =>
    cases ok : p.takeBatch limit with
    | error e => left; simp [Pool.step, ok]
    | ok r =>
      obtain ⟨p',taken⟩ := r
      have stepped : p.step (.takeBatch limit) = p' := by simp [Pool.step, ok]
      rw [stepped]
      exact .inr (.inr (.inl (Pool.takeBatchShape ok)))
  | takeAll => exact .inr (.inr (.inl ⟨claimShape _ _,rfl,rfl,rfl,rfl⟩))
  | revert h =>
    cases found : p.find? h with
    | none => left; simp [Pool.step, Pool.revert, found]
    | some e =>
      right; right; left
      simp only [Pool.step, Pool.revert, found]
      refine ⟨?_,rfl,rfl,rfl,rfl⟩
      simp only [List.map_map]
      exact List.map_congr_left fun x _ => by simp only [Function.comp_apply]; split <;> rfl
  | clear => exact .inr (.inr (.inr (.inl rfl)))

theorem keyedClear (p : Pool) : p.clear.Keyed where
  serials := List.nodup_nil
  fresh := by simp [Pool.clear]
  keys := List.nodup_nil
  keyIndex := List.Perm.nil
  count a := rfl
  positive := by simp [Pool.clear]

theorem wellFormedClear (p : Pool) : p.clear.WellFormed where
  toKeyed := keyedClear p
  hashes := List.nodup_nil
  index := List.Perm.nil

theorem wellFormedCreate (c : Config) : (Pool.create c).WellFormed := wellFormedClear (Pool.create c)

namespace Pool.Keyed
variable {p : Pool} (kd : p.Keyed)
include kd

theorem accept {rep : Reputation.Tracker} {op : UserOperation} {hash : Hash} {prefund : Option Int}
    {referenced : Option Validation.Referenced} {stakes : EntityStakes} {p' : Pool}
    {rep' : Reputation.Tracker} {adm : Admission}
    (ok : p.accept rep op hash prefund referenced stakes = .ok (p',rep',adm)) : p'.Keyed := by
  obtain ⟨-,⟨old,found,-,-,rfl⟩ | ⟨absent,-,-,-,rfl⟩⟩ := acceptEqOk.mp ok
  · obtain ⟨mem,key⟩ := kd.withKeyEqSome.mp found
    exact kd.replace mem rfl key.symm
  · exact kd.insert rfl (kd.withKeyEqNone.mp absent)

theorem step (o : Op) : (p.step o).Keyed := by
  rcases p.stepCases o with same | ⟨e,mem,dropped⟩ | shape | cleared | ⟨_,_,_,_,_,_,_,_,-,ok⟩
  · rw [same]; exact kd
  · rw [dropped]; exact kd.drop mem
  · exact kd.ofSameShape shape
  · rw [cleared]; exact keyedClear p
  · exact kd.accept ok

end Pool.Keyed

namespace Pool.WellFormed
variable {p : Pool} (wf : p.WellFormed)
include wf

theorem accept {rep : Reputation.Tracker} {op : UserOperation} {hash : Hash} {prefund : Option Int}
    {referenced : Option Validation.Referenced} {stakes : EntityStakes} {p' : Pool}
    {rep' : Reputation.Tracker} {adm : Admission}
    (fresh : ∀ e ∈ p.entries, e.hash = hash → nonceKey e.op = nonceKey op)
    (ok : p.accept rep op hash prefund referenced stakes = .ok (p',rep',adm)) : p'.WellFormed := by
  obtain ⟨-,⟨old,found,-,-,rfl⟩ | ⟨absent,-,-,-,rfl⟩⟩ := acceptEqOk.mp ok
  · obtain ⟨mem,key⟩ := wf.withKeyEqSome.mp found
    refine wf.replace mem rfl key.symm fun x hx same => ?_
    exact wf.eqOfKey hx mem ((fresh x hx same).trans key.symm)
  · have none := wf.withKeyEqNone.mp absent
    exact wf.insert rfl (fun x hx same => none x hx (fresh x hx same)) none

theorem step {o : Op} (fresh : HashFresh p o) : (p.step o).WellFormed := by
  rcases p.stepCases o with same | ⟨e,mem,dropped⟩ | shape | cleared | ⟨_,_,_,_,_,_,_,_,rfl,ok⟩
  · rw [same]; exact wf
  · rw [dropped]; exact wf.drop mem
  · exact wf.ofSameShape shape
  · rw [cleared]; exact wellFormedClear p
  · exact wf.accept fresh ok

end Pool.WellFormed

theorem Reachable.keyed {allowed : Pool → Op → Prop} {p : Pool} (reach : Reachable allowed p) : p.Keyed := by
  induction reach with
  | create c => exact (wellFormedCreate c).toKeyed
  | step _ _ ih => exact ih.step _

theorem Reachable.wellFormed {p : Pool} (reach : Reachable HashFresh p) : p.WellFormed := by
  induction reach with
  | create c => exact wellFormedCreate c
  | step _ fresh ih => exact ih.step fresh

theorem representationInvariant {p : Pool} (reach : Reachable HashFresh p) :
    (p.entries.map (·.serial)).Nodup ∧ (p.entries.map (·.hash)).Nodup ∧
      (p.entries.map (nonceKey ·.op)).Nodup ∧
      (∀ h e, p.find? h = some e ↔ e ∈ p.entries ∧ e.hash = h) ∧
      (∀ op e, p.withKey? op = some e ↔ e ∈ p.entries ∧ nonceKey e.op = nonceKey op) ∧
      (∀ a, p.entryCount a = tally p.entries a) ∧ ∀ x ∈ p.counts, 0 < x.2 := by
  have wf := reach.wellFormed
  exact ⟨wf.serials,wf.hashes,wf.keys,fun _ _ => wf.findEqSome,fun _ _ => wf.withKeyEqSome,wf.count,
    wf.positive⟩

theorem representationOverReplacingRun :
    let rep := Reputation.Tracker.create {}
    let first : UserOperation :=
      { sender := .ofNat 16, paymaster := .ofNat 80, maxFeePerGas := some 2000000000, maxPriorityFeePerGas := some 1000000000 }
    let second : UserOperation := { first with sender := .ofNat 17, factory := .ofNat 81 }
    let bumped : UserOperation :=
      { first with paymaster := .ofNat 82, maxFeePerGas := some 3000000000, maxPriorityFeePerGas := some 2000000000 }
    let third : UserOperation := { first with sender := .ofNat 18, nonce := some 1 }
    let offer := fun (op : UserOperation) (h : Nat) => Op.accept rep op (.ofNat h) none none { sender := {} }
    let p := (Pool.create {}).step (offer first 1) |>.step (offer second 2) |>.step (offer bumped 3)
      |>.step (offer bumped 3) |>.step (.takeBatch 1) |>.step (.remove (.ofNat 2)) |>.step (offer third 4)
    Reachable HashFresh p ∧ p.entries.map (·.hash) = [.ofNat 3, .ofNat 4] ∧
      (p.entries.map (·.serial)).Nodup ∧ (p.entries.map (·.hash)).Nodup ∧
      (p.entries.map (nonceKey ·.op)).Nodup ∧
      (∀ h e, p.find? h = some e ↔ e ∈ p.entries ∧ e.hash = h) ∧
      (∀ op e, p.withKey? op = some e ↔ e ∈ p.entries ∧ nonceKey e.op = nonceKey op) ∧
      (∀ a, p.entryCount a = tally p.entries a) ∧ ∀ x ∈ p.counts, 0 < x.2 := by
  intro rep first second bumped third offer p
  -- the second admission of `bumped` reuses hash 3 for the key it already holds, and is refused
  have reach : Reachable HashFresh p :=
    .step (.step (.step (.step (.step (.step (.step (.create {}) (by decide)) (by decide)) (by decide)) (by decide))
      trivial) trivial) (by decide)
  have hashes : p.entries.map (·.hash) = [.ofNat 3, .ofNat 4] := by decide
  exact ⟨reach,hashes,representationInvariant reach⟩

end Calls

end Erc4337.Mempool
