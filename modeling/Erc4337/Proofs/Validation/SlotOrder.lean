import Erc4337.Proofs.Validation.StorageMerge
/-! The order in which a slot object's texts are read. The reader gathers a slot object into a map
of texts and then reads the texts one after another as hashes, the text read last giving the value
of its slot. The lenient hex reading sends several texts to one slot (`0x1`, `0x01`, `1`), so
when two of them carry values that read differently, the decoded map depends on the visiting
order. Main statement: a document whose accepted slot objects have no such pair decodes to one
map in every visiting order, and an entry decodes alike in every order exactly when it has none. -/
namespace Erc4337

section LastWins
variable {κ ν : Type} [DecidableEq κ]

theorem memOfLookup {l : List (κ × ν)} {k : κ} {v : ν} (found : l.lookup k = some v) : (k,v) ∈ l := by
  induction l with
  | nil => cases found
  | cons x rest ih =>
    obtain ⟨k',v'⟩ := x
    by_cases here : k = k'
    · subst here
      simp only [List.lookup_cons_self, Option.some.injEq] at found
      simp [found]
    · rw [lookupConsNe _ _ here] at found
      exact List.mem_cons_of_mem _ (ih found)

theorem lookupIsSomeOfMem {l : List (κ × ν)} {k : κ} {v : ν} (mem : (k,v) ∈ l) : ∃ w, l.lookup k = some w := by
  cases found : l.lookup k with
  | some w => exact ⟨w,rfl⟩
  | none =>
    have := List.lookup_eq_none_iff.mp found _ mem
    simp at this

theorem lookupOfSameMembers {l₁ l₂ : List (κ × ν)} (same : ∀ x, x ∈ l₁ ↔ x ∈ l₂)
    (functional : ∀ x ∈ l₁, ∀ y ∈ l₁, x.1 = y.1 → x.2 = y.2) (k : κ) : l₁.lookup k = l₂.lookup k := by
  cases found : l₁.lookup k with
  | none =>
    refine (List.lookup_eq_none_iff.mpr fun p mem => ?_).symm
    exact List.lookup_eq_none_iff.mp found p ((same p).mpr mem)
  | some v =>
    have mem₁ := memOfLookup found
    obtain ⟨w,found₂⟩ := lookupIsSomeOfMem ((same _).mp mem₁)
    have mem₂ := (same _).mpr (memOfLookup found₂)
    rw [found₂]
    exact congrArg some (functional _ mem₁ _ mem₂ rfl)

variable [Ord κ] [Std.LawfulEqOrd κ]

theorem lookupFoldInsertLast (vs old : List (κ × ν)) (k : κ) :
    (vs.foldl (fun acc (k, v) => sortedInsert k v acc) old).lookup k = (vs.reverse.lookup k).or (old.lookup k) := by
  induction vs generalizing old with
  | nil => simp
  | cons x rest ih =>
    obtain ⟨k',v'⟩ := x
    rw [List.foldl_cons, ih, List.reverse_cons, List.lookup_append, Option.or_assoc]
    congr 1
    by_cases here : k = k'
    · subst here
      simp [lookupSortedInsertSelf]
    · rw [lookupSortedInsertNe _ _ here, lookupConsNe _ _ here, List.lookup_nil, Option.none_or]

end LastWins

namespace StorageMap

def readSlot (p : String × String) : Hash × Hash := (Hash.ofTextLoose p.1, Hash.ofTextLoose p.2)

theorem slotsOfTextsRead (texts : List (String × String)) :
    slotsOfTexts texts = (texts.map readSlot).foldl (fun acc (k, v) => sortedInsert k v acc) [] := by
  rw [List.foldl_map]
  rfl

theorem lookupSlotsOfTexts (texts : List (String × String)) (k : Hash) :
    (slotsOfTexts texts).lookup k = ((texts.map readSlot).reverse.lookup k) := by
  rw [slotsOfTextsRead, lookupFoldInsertLast, List.lookup_nil, Option.or_none]

theorem lookupSlotsOfTextsLast (texts : List (String × String)) (p : String × String) :
    (slotsOfTexts (texts ++ [p])).lookup (Hash.ofTextLoose p.1) = some (Hash.ofTextLoose p.2) := by
  simp [lookupSlotsOfTexts, readSlot]

def SlotTextsAgree (texts : List (String × String)) : Prop :=
  ∀ p ∈ texts, ∀ q ∈ texts, Hash.ofTextLoose p.1 = Hash.ofTextLoose q.1 → Hash.ofTextLoose p.2 = Hash.ofTextLoose q.2

instance (texts : List (String × String)) : Decidable (SlotTextsAgree texts) :=
  inferInstanceAs (Decidable (∀ p ∈ texts, ∀ q ∈ texts, _))

theorem slotsOfTextsPerm {texts order : List (String × String)} (agree : SlotTextsAgree texts)
    (perm : order.Perm texts) : slotsOfTexts order = slotsOfTexts texts := by
  refine eqOfLookup (slotsOfTextsSorted _) (slotsOfTextsSorted _) fun k => ?_
  rw [lookupSlotsOfTexts, lookupSlotsOfTexts]
  refine lookupOfSameMembers (fun x => ?_) (fun x memX y memY sameSlot => ?_) k
  · simp only [List.mem_reverse]
    exact (perm.map readSlot).mem_iff
  ·
    simp only [List.mem_reverse, List.mem_map] at memX memY
    obtain ⟨p,memP,rfl⟩ := memX
    obtain ⟨q,memQ,rfl⟩ := memY
    exact agree p (perm.mem_iff.mp memP) q (perm.mem_iff.mp memQ) sameSlot

theorem visitLastPerm {texts : List (String × String)} {p : String × String} (mem : p ∈ texts) :
    (texts.erase p ++ [p]).Perm texts :=
  (List.perm_append_singleton p _).trans (List.perm_cons_erase mem).symm

theorem slotsOfTextsOrderFree (texts : List (String × String)) :
    (∀ order, order.Perm texts → slotsOfTexts order = slotsOfTexts texts) ↔ SlotTextsAgree texts := by
  refine ⟨fun free p memP q memQ sameSlot => ?_, fun agree _ perm => slotsOfTextsPerm agree perm⟩
  -- visiting `p` last and visiting `q` last give the same slots, so their values agree
  have lastP := lookupSlotsOfTextsLast (texts.erase p) p
  have lastQ := lookupSlotsOfTextsLast (texts.erase q) q
  rw [free _ (visitLastPerm memP)] at lastP
  rw [free _ (visitLastPerm memQ), ← sameSlot, lastP] at lastQ
  exact Option.some.inj lastQ

def AccountAgrees : Json → Prop
  | .obj members => members.find? (fun kv => (textOf? kv.2).isNone) = none → SlotTextsAgree (slotTexts members)
  | _ => True

instance : DecidablePred AccountAgrees := fun v =>
  match v with
  | .obj members => inferInstanceAs (Decidable (_ → SlotTextsAgree (slotTexts members)))
  | .null | .bool _ | .num _ | .str _ | .arr _ => instDecidableTrue

def SlotsAgree : Json → Prop
  | .obj members => ∀ x ∈ members, AccountAgrees x.2
  | _ => True

instance : DecidablePred SlotsAgree := fun j =>
  match j with
  | .obj members => inferInstanceAs (Decidable (∀ x ∈ members, AccountAgrees x.2))
  | .null | .bool _ | .num _ | .str _ | .arr _ => instDecidableTrue

theorem textOfObj (members : List (String × Json)) : textOf? (.obj members) = none := rfl

theorem accountOfJsonInObj (visit : List (String × String) → List (String × String)) {members : List (String × Json)}
    (accepted : members.find? (fun kv => (textOf? kv.2).isNone) = none) :
    accountOfJsonIn visit (.obj members) = .ok (.slots (slotsOfTexts (visit (slotTexts members))) (slotsOfTextsSorted _)) := by
  simp only [accountOfJsonIn, textOfObj, accepted]

theorem accountOfJsonInPerm {visit : List (String × String) → List (String × String)} (perm : ∀ l, (visit l).Perm l)
    {v : Json} (agrees : AccountAgrees v) : accountOfJsonIn visit v = accountOfJson v := by
  cases v with
  | obj members =>
    cases accepted : members.find? (fun kv => (textOf? kv.2).isNone) with
    | some bad => simp only [accountOfJson, accountOfJsonIn, textOfObj, accepted]
    | none =>
      rw [accountOfJson, accountOfJsonInObj _ accepted, accountOfJsonInObj _ accepted, id,
        AccountStorage.slotsCongr (slotsOfTextsPerm (agrees accepted) (perm _))]
  | null | bool | num | str | arr => rfl

theorem accountOfJsonOrderFree (v : Json) :
    (∀ visit : List (String × String) → List (String × String), (∀ l, (visit l).Perm l) →
      accountOfJsonIn visit v = accountOfJson v) ↔ AccountAgrees v := by
  refine ⟨fun free => ?_, fun agrees _ perm => accountOfJsonInPerm perm agrees⟩
  cases v with
  | obj members =>
    intro accepted
    refine (slotsOfTextsOrderFree _).mp fun order perm => ?_
    have read := free (fun l => if l = slotTexts members then order else l) fun l => by
      split
      · rename_i same
        rw [same]
        exact perm
      · exact List.Perm.refl l
    rw [accountOfJson, accountOfJsonInObj _ accepted, accountOfJsonInObj _ accepted, if_pos rfl, id] at read
    injection read with read
    injection read
  | null | bool | num | str | arr => trivial

theorem foldlMCongr {m : Type → Type} [Monad m] {α β : Type} {f g : β → α → m β} {l : List α}
    (same : ∀ b, ∀ x ∈ l, f b x = g b x) (b : β) : l.foldlM f b = l.foldlM g b := by
  induction l generalizing b with
  | nil => rfl
  | cons x rest ih =>
    rw [List.foldlM_cons, List.foldlM_cons, same b x List.mem_cons_self]
    congr 1
    funext b'
    exact ih (fun b y mem => same b y (List.mem_cons_of_mem x mem)) b'

theorem ofJsonInPerm {visit : String → List (String × String) → List (String × String)}
    (perm : ∀ k l, (visit k l).Perm l) {j : Json} (agree : SlotsAgree j) : ofJsonIn visit j = ofJson j := by
  cases j with
  | obj members =>
    unfold ofJson ofJsonIn
    dsimp only
    congr 1
    refine foldlMCongr (fun acc x mem => ?_) empty
    obtain ⟨k,v⟩ := x
    dsimp only
    rw [accountOfJsonInPerm (perm k) (agree _ mem)]
    rfl
  | null | bool | num | str | arr => rfl

/-- Reading a document does not depend on the order in which each slot object's texts are visited
when no accepted slot object holds two texts that read as one slot with values that read
differently; an entry reads alike in every order exactly when it holds no such pair. -/
theorem slotOrderFreeWhenAgreeing (j : Json) :
    (SlotsAgree j → ∀ visit : String → List (String × String) → List (String × String),
      (∀ k l, (visit k l).Perm l) → ofJsonIn visit j = ofJson j) ∧
    ∀ v : Json, (∀ visit : List (String × String) → List (String × String), (∀ l, (visit l).Perm l) →
      accountOfJsonIn visit v = accountOfJson v) ↔ AccountAgrees v :=
  ⟨fun agree _ perm => ofJsonInPerm perm agree, accountOfJsonOrderFree⟩

theorem slotOrderFreeOnAgreeingSpellings :
    let j : Json := .obj [("0x00000000000000000000000000000000000000aa",
      .obj [("0x01", .str "0x0a"), ("0x1", .str "0x000a")])]
    SlotsAgree j ∧ ofJsonIn (fun _ => List.reverse) j = ofJson j := by
  intro j
  have agree : SlotsAgree j := by decide
  exact ⟨agree, (slotOrderFreeWhenAgreeing j).1 agree _ fun _ l => List.reverse_perm l⟩

theorem slotOrderDecidesCollidingSlot :
    let j : Json := .obj [("0x00000000000000000000000000000000000000aa",
      .obj [("0x01", .str "0x0a"), ("0x1", .str "0x0b")])]
    (ofJson j).toOption =
        some (some ⟨[(Address.ofNat 0xaa, .slots [(Hash.ofNat 1, Hash.ofNat 0x0b)] (by decide))], by decide⟩) ∧
      (ofJsonIn (fun _ => List.reverse) j).toOption =
        some (some ⟨[(Address.ofNat 0xaa, .slots [(Hash.ofNat 1, Hash.ofNat 0x0a)] (by decide))], by decide⟩) := by
  intro j
  decide +kernel

end StorageMap

end Erc4337
