import Erc4337.Validation.StorageMap
import Erc4337.Proofs.Mempool.Representation
/-! Merging storage maps. A map is sorted by address and each slot list by slot (`SortedKeys`, the
form `sortedInsert` builds, carried by the types). Read that way a map pins each address
it names to a storage root or to the values of some slots (`StorageMap.pinOf`), and merging one
map into another is, address by address, `Pin.merge`: a root replaces anything, slots are
ignored under a root, and slot sets are joined with the newer value winning.

Main statements: maps merged in order pin each address as `pinned` says in closed form, the root
of the last map that pins it to a root or else the union of its slots over the sequence with later
maps winning; and merging is associative and idempotent, as lists and not only address
by address. -/
namespace Erc4337

section Distinct
variable {κ ν : Type} [DecidableEq κ]

theorem lookupConsNe {k j : κ} (v : ν) (l : List (κ × ν)) (other : j ≠ k) :
    ((k,v) :: l).lookup j = l.lookup j := by
  simp [List.lookup_cons, beq_eq_false_iff_ne.mpr other]

theorem permOfLookup {l₁ l₂ : List (κ × ν)} (keys₁ : (l₁.map (·.1)).Nodup) (keys₂ : (l₂.map (·.1)).Nodup)
    (same : ∀ k, l₁.lookup k = l₂.lookup k) : l₁.Perm l₂ := by
  have members : ∀ x, x ∈ l₁ ↔ x ∈ l₂ := fun x => by
    rw [← Mempool.lookupEqSomeIff keys₁, ← Mempool.lookupEqSomeIff keys₂, same]
  exact (List.perm_ext_iff_of_nodup (List.Nodup.of_map _ keys₁) (List.Nodup.of_map _ keys₂)).mpr members

end Distinct

section SortedKeys
variable {κ ν : Type} [Ord κ]

variable [Std.LawfulEqOrd κ]

theorem neOfCompare {k k' : κ} (order : compare k k' ≠ .eq) : k ≠ k' := fun same => by
  subst same
  exact order Std.ReflCmp.compare_self

theorem neOfCompareLt {k k' : κ} (lt : compare k k' = .lt) : k ≠ k' :=
  neOfCompare (by rw [lt]; decide)

theorem SortedKeys.keys {l : List (κ × ν)} (sorted : SortedKeys l) : (l.map (·.1)).Nodup :=
  List.Pairwise.map _ (fun _ _ lt => neOfCompareLt lt) sorted

section Lookup
variable [DecidableEq κ]

theorem SortedKeys.lookupHead {k : κ} {v : ν} {l : List (κ × ν)} (sorted : SortedKeys ((k,v) :: l)) :
    l.lookup k = none := by
  rw [List.lookup_eq_none_iff]
  intro x mem
  simpa using neOfCompareLt (List.rel_of_pairwise_cons sorted mem)

theorem lookupSortedInsertSelf (k : κ) (v : ν) (l : List (κ × ν)) : (sortedInsert k v l).lookup k = some v := by
  induction l with
  | nil => simp [sortedInsert]
  | cons x rest ih =>
    obtain ⟨k',v'⟩ := x
    simp only [sortedInsert]
    split
    · simp
    · simp
    · rename_i gt
      rw [lookupConsNe _ _ (neOfCompare (by rw [gt]; decide)), ih]

theorem lookupSortedInsertNe {k j : κ} (v : ν) (l : List (κ × ν)) (other : j ≠ k) :
    (sortedInsert k v l).lookup j = l.lookup j := by
  induction l with
  | nil => simp [sortedInsert, lookupConsNe _ _ other]
  | cons x rest ih =>
    obtain ⟨k',v'⟩ := x
    simp only [sortedInsert]
    split
    · rw [lookupConsNe _ _ other]
    · rename_i same
      cases Std.LawfulEqCmp.eq_of_compare same
      rw [lookupConsNe _ _ other, lookupConsNe _ _ other]
    · by_cases here : j = k'
      · subst here
        simp
      · rw [lookupConsNe _ _ here, lookupConsNe _ _ here, ih]

theorem lookupFoldInsertDistinct {vs : List (κ × ν)} (keys : (vs.map (·.1)).Nodup) (old : List (κ × ν)) (k : κ) :
    (vs.foldl (fun acc (k, v) => sortedInsert k v acc) old).lookup k = (vs.lookup k).or (old.lookup k) := by
  induction vs generalizing old with
  | nil => simp
  | cons x rest ih =>
    obtain ⟨k',v'⟩ := x
    simp only [List.map_cons, List.nodup_cons] at keys
    rw [List.foldl_cons, ih keys.2]
    by_cases here : k = k'
    · subst here
      have absent : rest.lookup k = none := List.lookup_eq_none_iff.mpr fun p mem => by
        rw [bne_iff_ne]
        intro same
        exact keys.1 (List.mem_map.mpr ⟨p, mem, same.symm⟩)
      simp [absent, lookupSortedInsertSelf]
    · rw [lookupSortedInsertNe _ _ here, lookupConsNe _ _ here]

theorem lookupFoldInsert {vs : List (κ × ν)} (sorted : SortedKeys vs) (old : List (κ × ν)) (k : κ) :
    (vs.foldl (fun acc (k, v) => sortedInsert k v acc) old).lookup k = (vs.lookup k).or (old.lookup k) :=
  lookupFoldInsertDistinct sorted.keys old k

end Lookup

variable [Std.TransOrd κ]

omit [Std.LawfulEqOrd κ] in
theorem eqOfPerm {l₁ l₂ : List (κ × ν)} (sorted₁ : SortedKeys l₁) (sorted₂ : SortedKeys l₂) (perm : l₁.Perm l₂) :
    l₁ = l₂ := by
  refine perm.eq_of_pairwise (fun x y _ _ lt lt' => ?_) sorted₁ sorted₂
  rw [@Std.OrientedCmp.eq_swap κ compare _ x.1 y.1, lt'] at lt
  cases lt

theorem eqOfLookup [DecidableEq κ] {l₁ l₂ : List (κ × ν)} (sorted₁ : SortedKeys l₁) (sorted₂ : SortedKeys l₂)
    (same : ∀ k, l₁.lookup k = l₂.lookup k) : l₁ = l₂ :=
  eqOfPerm sorted₁ sorted₂ (permOfLookup sorted₁.keys sorted₂.keys same)

theorem foldInsertPermSelf [DecidableEq κ] {l : List (κ × ν)} (keys : (l.map (·.1)).Nodup) :
    SortedKeys (l.foldl (fun acc (k, v) => sortedInsert k v acc) []) ∧
      (l.foldl (fun acc (k, v) => sortedInsert k v acc) []).Perm l := by
  have sorted := foldInsertSorted l (fun _ x => ⟨x.1, x.2, rfl⟩) (List.Pairwise.nil : SortedKeys ([] : List (κ × ν)))
  refine ⟨sorted, permOfLookup sorted.keys keys fun k => ?_⟩
  rw [lookupFoldInsertDistinct keys, List.lookup_nil, Option.or_none]

theorem foldInsertPerm [DecidableEq κ] {l vs : List (κ × ν)} (sorted : SortedKeys vs) (perm : l.Perm vs) :
    l.foldl (fun acc (k, v) => sortedInsert k v acc) [] = vs := by
  have keys : (l.map (·.1)).Nodup := (perm.map _).nodup_iff.mpr sorted.keys
  obtain ⟨folded, reordered⟩ := foldInsertPermSelf keys
  exact eqOfPerm folded sorted (reordered.trans perm)

end SortedKeys

inductive Pin where
  | root (h : Hash)
  | slots (value : Hash → Option Hash)

namespace Pin

def merge : Option Pin → Option Pin → Option Pin
  | old, none => old
  | _, some (.root h) => some (.root h)
  | some (.root h), some (.slots _) => some (.root h)
  | some (.slots old), some (.slots new) => some (.slots fun k => (new k).or (old k))
  | none, some (.slots new) => some (.slots new)

def root? : Pin → Option Hash
  | .root h => some h
  | .slots _ => none

def slot? (k : Hash) : Pin → Option Hash
  | .root _ => none
  | .slots value => value k

@[simp] theorem mergeNone (x : Option Pin) : merge x none = x := by
  cases x <;> rfl

@[simp] theorem noneMerge (y : Option Pin) : merge none y = y := by
  rcases y with _ | _ | _ <;> rfl

theorem mergeAssoc (x y z : Option Pin) : merge (merge x y) z = merge x (merge y z) := by
  rcases x with _ | _ | _ <;> rcases y with _ | _ | _ <;> rcases z with _ | _ | _ <;>
    simp [merge, Option.or_assoc]

theorem mergeSelf (x : Option Pin) : merge x x = x := by
  rcases x with _ | _ | _ <;> simp [merge]

end Pin

namespace AccountStorage

def pin : AccountStorage → Pin
  | .root h => .root h
  | .slots vs _ => .slots fun k => vs.lookup k

theorem slotsCongr {vs ws : List (Hash × Hash)} (same : vs = ws) (sortedV : SortedKeys vs) (sortedW : SortedKeys ws) :
    slots vs sortedV = slots ws sortedW := by
  subst same
  rfl

theorem pinInj {s t : AccountStorage} (same : s.pin = t.pin) : s = t := by
  cases s with
  | root h =>
    cases t with
    | root h' => cases same; rfl
    | slots _ _ => cases same
  | slots vs sortedV =>
    cases t with
    | root _ => cases same
    | slots ws sortedW =>
      simp only [pin, Pin.slots.injEq] at same
      exact slotsCongr (eqOfLookup sortedV sortedW (congrFun same)) sortedV sortedW

end AccountStorage

namespace StorageMap

theorem entriesInj {m n : StorageMap} (same : m.entries = n.entries) : m = n := by
  cases m; cases n; cases same; rfl

def pinOf (m : StorageMap) (a : Address) : Option Pin := (m.find? a).map AccountStorage.pin

theorem findEqLookup (m : StorageMap) (a : Address) : m.find? a = m.entries.lookup a :=
  Mempool.findFstEqLookup m.entries a

@[simp] theorem findSetSelf (m : StorageMap) (a : Address) (s : AccountStorage) : (m.set a s).find? a = some s := by
  rw [findEqLookup]
  exact lookupSortedInsertSelf a s m.entries

@[simp] theorem findSetNe (m : StorageMap) {a b : Address} (s : AccountStorage) (other : b ≠ a) :
    (m.set a s).find? b = m.find? b := by
  rw [findEqLookup, findEqLookup]
  exact lookupSortedInsertNe s m.entries other

theorem pinOfMergeEntrySelf (m : StorageMap) (a : Address) (s : AccountStorage) :
    (m.mergeEntry a s).pinOf a = Pin.merge (m.pinOf a) (some s.pin) := by
  cases s with
  | root h => cases found : m.find? a <;> simp [mergeEntry, pinOf, AccountStorage.pin, Pin.merge]
  | slots vs sortedV =>
    cases found : m.find? a with
    | none =>
      simp only [mergeEntry, found, pinOf, findSetSelf, Option.map_some, Option.map_none, Pin.noneMerge,
        AccountStorage.pin, AccountStorage.joinSlots]
      simp [lookupFoldInsert sortedV]
    | some t =>
      cases t with
      | root h => simp [mergeEntry, found, pinOf, AccountStorage.pin, Pin.merge]
      | slots old sortedO =>
        simp only [mergeEntry, found, pinOf, findSetSelf, Option.map_some, AccountStorage.pin, AccountStorage.joinSlots,
          Pin.merge]
        simp [lookupFoldInsert sortedV]

theorem pinOfMergeEntryNe (m : StorageMap) {a b : Address} (s : AccountStorage) (other : b ≠ a) :
    (m.mergeEntry a s).pinOf b = m.pinOf b := by
  cases s with
  | root h => simp [mergeEntry, pinOf, other]
  | slots vs _ =>
    cases found : m.find? a with
    | none => simp [mergeEntry, found, pinOf, other]
    | some t => cases t <;> simp [mergeEntry, found, pinOf, other]

@[simp] theorem mergeCons (m : StorageMap) (a : Address) (s : AccountStorage) (rest : List (Address × AccountStorage))
    (sorted : SortedKeys ((a,s) :: rest)) : m.merge ⟨(a,s) :: rest, sorted⟩ = (m.mergeEntry a s).merge ⟨rest, sorted.tail⟩ :=
  rfl

theorem pinOfMerge (m src : StorageMap) (a : Address) :
    (m.merge src).pinOf a = Pin.merge (m.pinOf a) (src.pinOf a) := by
  obtain ⟨entries, sorted⟩ := src
  induction entries generalizing m with
  | nil => simp [merge, pinOf, find?]
  | cons x rest ih =>
    obtain ⟨b,s⟩ := x
    rw [mergeCons, ih _ sorted.tail]
    by_cases here : a = b
    · subst here
      have absent : pinOf ⟨rest, sorted.tail⟩ a = none := by
        simp [pinOf, findEqLookup, sorted.lookupHead]
      rw [absent, pinOfMergeEntrySelf m a s, Pin.mergeNone]
      simp [pinOf, find?]
    · rw [pinOfMergeEntryNe m s here]
      simp [pinOf, find?, Ne.symm here]

theorem eqOfPinOf {m n : StorageMap} (same : ∀ a, m.pinOf a = n.pinOf a) : m = n := by
  have found : ∀ a, m.entries.lookup a = n.entries.lookup a := by
    intro a
    have pins := same a
    simp only [pinOf] at pins
    rw [← findEqLookup, ← findEqLookup]
    cases fm : m.find? a <;> cases fn : n.find? a <;> simp only [fm, fn, Option.map_none, Option.map_some,
      reduceCtorEq, Option.some.injEq] at pins ⊢
    exact AccountStorage.pinInj pins
  exact entriesInj (eqOfLookup m.sorted n.sorted found)

theorem mergeAssoc (m b c : StorageMap) : (m.merge b).merge c = m.merge (b.merge c) :=
  eqOfPinOf fun a => by simp only [pinOfMerge, Pin.mergeAssoc]

theorem mergeSelf (m : StorageMap) : m.merge m = m :=
  eqOfPinOf fun a => by rw [pinOfMerge, Pin.mergeSelf]

def pinned (ms : List StorageMap) (a : Address) : Option Pin :=
  match (ms.filterMap fun m => (m.pinOf a).bind Pin.root?).getLast? with
  | some h => some (.root h)
  | none =>
    if ms.any fun m => (m.pinOf a).isSome then
      some (.slots fun k => (ms.filterMap fun m => (m.pinOf a).bind (Pin.slot? k)).getLast?)
    else none

theorem getLastFilterMapSnoc {α β : Type} (f : α → Option β) (l : List α) (x : α) :
    ((l ++ [x]).filterMap f).getLast? = (f x).or (l.filterMap f).getLast? := by
  cases fx : f x <;> simp [List.filterMap_append, fx]

theorem filterMapUnnamed {ms : List StorageMap} {a : Address} (unnamed : (ms.any fun m => (m.pinOf a).isSome) = false)
    {β : Type} (f : Pin → Option β) : (ms.filterMap fun m => (m.pinOf a).bind f) = [] := by
  rw [List.filterMap_eq_nil_iff]
  intro m mem
  have absent : m.pinOf a = none := by
    simpa using List.any_eq_false.mp unnamed m mem
  simp [absent]

theorem pinnedSnoc (ms : List StorageMap) (m : StorageMap) (a : Address) :
    pinned (ms ++ [m]) a = Pin.merge (pinned ms a) (m.pinOf a) := by
  unfold pinned
  simp only [getLastFilterMapSnoc, List.any_append, List.any_cons, List.any_nil, Bool.or_false]
  cases pin : m.pinOf a with
  | none => simp only [Option.bind_none, Option.none_or, Option.isSome_none, Bool.or_false, Pin.mergeNone]
  | some p =>
    cases p with
    | root h => simp only [Option.bind_some, Pin.root?, Option.some_or, Pin.merge]
    | slots g =>
      simp only [Option.bind_some, Pin.root?, Pin.slot?, Option.none_or, Option.isSome_some, Bool.or_true,
        if_true]
      cases last : (ms.filterMap fun m => (m.pinOf a).bind Pin.root?).getLast? with
      | some h => rfl
      | none =>
        cases named : ms.any fun m => (m.pinOf a).isSome with
        | true => rfl
        | false =>
          simp only [filterMapUnnamed named, List.getLast?_nil, Option.or_none, Bool.false_eq_true, if_false,
            Pin.noneMerge]

theorem pinnedAppend (ms l : List StorageMap) (a : Address) :
    pinned (ms ++ l) a = (l.map (·.pinOf a)).foldl Pin.merge (pinned ms a) := by
  induction l generalizing ms with
  | nil => rw [List.append_nil]; rfl
  | cons m rest ih => rw [← List.singleton_append, ← List.append_assoc, ih, pinnedSnoc]; rfl

theorem pinnedEqFoldl (ms : List StorageMap) (a : Address) :
    pinned ms a = (ms.map (·.pinOf a)).foldl Pin.merge none := by
  rw [← List.nil_append ms, pinnedAppend]
  rfl

theorem pinOfFoldlMerge (m0 : StorageMap) (ms : List StorageMap) (a : Address) :
    (ms.foldl StorageMap.merge m0).pinOf a = (ms.map (·.pinOf a)).foldl Pin.merge (m0.pinOf a) := by
  induction ms generalizing m0 with
  | nil => rfl
  | cons m rest ih =>
    rw [List.foldl_cons, ih, pinOfMerge]
    rfl

/-- Storage maps merged in order into a first map pin each address as `pinned` says: the root of the
last map that pins it to a root, else its slots joined over the whole sequence with later maps
winning, and nothing when no map names it. Merging is associative and idempotent. -/
theorem mergeFoldClosedForm :
    (∀ (m0 : StorageMap) (ms : List StorageMap) a, (ms.foldl StorageMap.merge m0).pinOf a = pinned (m0 :: ms) a) ∧
    (∀ m b c : StorageMap, (m.merge b).merge c = m.merge (b.merge c)) ∧
    ∀ m : StorageMap, m.merge m = m := by
  refine ⟨fun m0 ms a => ?_,mergeAssoc,mergeSelf⟩
  rw [pinOfFoldlMerge, pinnedEqFoldl, List.map_cons, List.foldl_cons, Pin.noneMerge]

theorem mergeFoldOnThreeMaps :
    let m0 : StorageMap := ⟨[(.ofNat 1, .slots [(.ofNat 1, .ofNat 1)] (by decide))], by decide⟩
    let m1 : StorageMap :=
      ⟨[(.ofNat 1, .root (.ofNat 9)), (.ofNat 2, .slots [(.ofNat 1, .ofNat 1)] (by decide))], by decide⟩
    let m2 : StorageMap := ⟨[(.ofNat 1, .slots [(.ofNat 2, .ofNat 2)] (by decide)),
      (.ofNat 2, .slots [(.ofNat 1, .ofNat 3), (.ofNat 2, .ofNat 2)] (by decide))], by decide⟩
    (∀ x, ([m1,m2].foldl merge m0).pinOf x = pinned [m0,m1,m2] x) ∧
      (m0.merge m1).merge m2 = m0.merge (m1.merge m2) ∧ m2.merge m2 = m2 := by
  intro m0 m1 m2
  exact ⟨mergeFoldClosedForm.1 m0 [m1,m2],mergeFoldClosedForm.2.1 m0 m1 m2,mergeFoldClosedForm.2.2 m2⟩

end StorageMap

end Erc4337
