import Erc4337.Json.Decode
import Erc4337.Eth.Address
import Erc4337.Eth.Hash
/-!
Storage maps: for each contract address, either the storage root it must have or the values
some of its slots must hold. A validation reports the storage it read as such a map, and a
conditional submission sends the merged map of a bundle as its `knownAccounts` precondition.

Maps are kept sorted by address and slot sets sorted by slot, the order in which they are
written. Merging lets a root replace anything; slot values are dropped for an address already
pinned to a root; otherwise slot sets are joined, the newer value winning.
-/
namespace Erc4337

section SortedKeys
variable {κ ν : Type} [Ord κ]

def sortedInsert (k : κ) (v : ν) : List (κ × ν) → List (κ × ν)
  | [] => [(k, v)]
  | (k', v') :: rest =>
    match compare k k' with
    | .lt => (k, v) :: (k', v') :: rest
    | .eq => (k, v) :: rest
    | .gt => (k', v') :: sortedInsert k v rest

def SortedKeys (l : List (κ × ν)) : Prop := l.Pairwise fun x y => compare x.1 y.1 = .lt

instance (l : List (κ × ν)) : Decidable (SortedKeys l) := inferInstanceAs (Decidable (l.Pairwise _))

theorem SortedKeys.tail {x : κ × ν} {l : List (κ × ν)} (sorted : SortedKeys (x :: l)) : SortedKeys l :=
  List.Pairwise.of_cons sorted

theorem memSortedInsert {k : κ} {v : ν} {l : List (κ × ν)} {x : κ × ν} (mem : x ∈ sortedInsert k v l) :
    x = (k,v) ∨ x ∈ l := by
  induction l with
  | nil => simpa [sortedInsert] using mem
  | cons y rest ih =>
    obtain ⟨k',v'⟩ := y
    simp only [sortedInsert] at mem
    split at mem
    · simpa using mem
    · rcases List.mem_cons.mp mem with same | inside
      · exact .inl same
      · exact .inr (List.mem_cons_of_mem _ inside)
    · rcases List.mem_cons.mp mem with same | inside
      · exact .inr (same ▸ List.mem_cons_self ..)
      · rcases ih inside with same | deeper
        · exact .inl same
        · exact .inr (List.mem_cons_of_mem _ deeper)

variable [Std.TransOrd κ]

theorem compareLtOfGt {k k' : κ} (gt : compare k k' = .gt) : compare k' k = .lt := by
  rw [@Std.OrientedCmp.eq_swap κ compare _ k' k, gt]
  rfl

variable [Std.LawfulEqOrd κ]

theorem sortedInsertSorted (k : κ) (v : ν) {l : List (κ × ν)} (sorted : SortedKeys l) :
    SortedKeys (sortedInsert k v l) := by
  induction l with
  | nil => simp [sortedInsert, SortedKeys]
  | cons y rest ih =>
    obtain ⟨k',v'⟩ := y
    have below : ∀ z ∈ rest, compare k' z.1 = .lt := fun z mem => List.rel_of_pairwise_cons sorted mem
    simp only [sortedInsert]
    split
    · rename_i lt
      refine List.Pairwise.cons (fun z mem => ?_) sorted
      rcases List.mem_cons.mp mem with rfl | inside
      · exact lt
      · exact Std.TransCmp.lt_trans lt (below z inside)
    · rename_i same
      cases Std.LawfulEqCmp.eq_of_compare same
      exact List.Pairwise.cons below sorted.tail
    · rename_i gt
      refine List.Pairwise.cons (fun z mem => ?_) (ih sorted.tail)
      rcases memSortedInsert mem with rfl | inside
      · exact compareLtOfGt gt
      · exact below z inside

theorem foldInsertSorted {α : Type} (xs : List α) {step : List (κ × ν) → α → List (κ × ν)}
    (inserts : ∀ acc x, ∃ k v, step acc x = sortedInsert k v acc) {old : List (κ × ν)} (sorted : SortedKeys old) :
    SortedKeys (xs.foldl step old) := by
  induction xs generalizing old with
  | nil => exact sorted
  | cons x rest ih =>
    obtain ⟨k,v,inserted⟩ := inserts old x
    rw [List.foldl_cons, inserted]
    exact ih (sortedInsertSorted k v sorted)

end SortedKeys

inductive AccountStorage where
  | root (h : Hash)
  | slots (values : List (Hash × Hash)) (sorted : SortedKeys values)
  deriving Inhabited, DecidableEq

structure StorageMap where
  entries : List (Address × AccountStorage) := []
  sorted : SortedKeys entries := by exact List.Pairwise.nil
  deriving DecidableEq

instance : Inhabited StorageMap := ⟨{}⟩

namespace AccountStorage

def toJson : AccountStorage → Json
  | .root h => .str h.hex
  | .slots vs _ => .obj (vs.map fun (k, v) => (k.hex, .str v.hex))

def joinSlots (vs old : List (Hash × Hash)) (sorted : SortedKeys old) : AccountStorage :=
  .slots (vs.foldl (fun acc (k, v) => sortedInsert k v acc) old) (foldInsertSorted vs (fun _ x => ⟨x.1, x.2, rfl⟩) sorted)

end AccountStorage

namespace StorageMap

def empty : StorageMap := {}

def toJson (m : StorageMap) : Json := .obj (m.entries.map fun (a, s) => (a.lower, s.toJson))

def find? (m : StorageMap) (a : Address) : Option AccountStorage :=
  (m.entries.find? (·.1 == a)).map (·.2)

def set (m : StorageMap) (a : Address) (s : AccountStorage) : StorageMap :=
  ⟨sortedInsert a s m.entries, sortedInsertSorted a s m.sorted⟩

def mergeEntry (m : StorageMap) (a : Address) : AccountStorage → StorageMap
  | .root h => m.set a (.root h)
  | .slots vs _ =>
    match m.find? a with
    | some (.root _) => m
    | some (.slots old sorted) => m.set a (.joinSlots vs old sorted)
    | none => m.set a (.joinSlots vs [] List.Pairwise.nil)

def merge (m src : StorageMap) : StorageMap :=
  src.entries.foldl (fun acc (a, s) => mergeEntry acc a s) m

def textOf? : Json → Option String
  | .str s => some s
  | .null => some ""
  | _ => none

def slotTexts (members : List (String × Json)) : List (String × String) :=
  members.foldl (fun acc (k, x) => sortedInsert k ((textOf? x).getD "") acc) []

def slotsOfTexts (texts : List (String × String)) : List (Hash × Hash) :=
  texts.foldl (fun acc (k, x) => sortedInsert (Hash.ofTextLoose k) (Hash.ofTextLoose x) acc) []

theorem slotsOfTextsSorted (texts : List (String × String)) : SortedKeys (slotsOfTexts texts) :=
  foldInsertSorted _ (fun _ _ => ⟨_,_,rfl⟩) List.Pairwise.nil

def accountOfJsonIn (visit : List (String × String) → List (String × String)) (v : Json) :
    Except String AccountStorage :=
  match textOf? v with
  | some s =>
    if s.startsWith "0x" then .ok (.root (Hash.ofTextLoose s))
    else .error ("invalid storage root " ++ Quote.quote s)
  | none =>
    let wrapErr := fun (e : Json.DecodeError) => "storage entry must be a root hash or slot map: " ++ e.message
    match v with
    | .obj members =>
      -- values must be strings (null reads as empty); the first bad one is reported
      match members.find? (fun kv => (textOf? kv.2).isNone) with
      | some (_, bad) => .error (wrapErr (.mismatch bad.kind "string"))
      | none => .ok (.slots (slotsOfTexts (visit (slotTexts members))) (slotsOfTextsSorted _))
    | other => .error (wrapErr (.mismatch other.kind "map[string]string"))

def accountOfJson (v : Json) : Except String AccountStorage :=
  accountOfJsonIn id v

def ofJsonIn (visit : String → List (String × String) → List (String × String)) (j : Json) :
    Except String (Option StorageMap) :=
  match j with
  | .null => .ok none
  | .obj members =>
    some <$> members.foldlM (fun acc (k, v) => do
      let s ← accountOfJsonIn (visit k) v
      let a ← (HexCodec.fixed "Address" 20 k).mapError HexError.message
      pure (acc.set (Address.ofBytes a) s)) empty
  | other => .error (Json.DecodeError.mismatch other.kind "validation.StorageMap").message

def ofJson (j : Json) : Except String (Option StorageMap) :=
  ofJsonIn (fun _ => id) j

def ofText (s : String) : Except String (Option StorageMap) := do
  ofJson (← (Json.parse s).mapError (·.message))

end StorageMap

end Erc4337
