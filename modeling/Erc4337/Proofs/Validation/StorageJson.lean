import Erc4337.Proofs.UserOp.RoundTrip
import Erc4337.Proofs.Validation.StorageMerge
/-! Storage maps read back from their text. A map is written as an object from each address, in
lowercase hex, to its storage root or to an object from slot to value, every hash written as `0x`
and 64 lowercase digits. The reader takes a root before trying a slot object, reads hashes
loosely, collects slot texts into a list sorted by text before reading them as hashes, and reads
addresses through the fixed-width codec.

Main statement: the text of every map reads back as that map, an account pinned to no slots
coming back pinned to no slots; writing a map, reading it and writing it again gives the text
written the first time. -/
namespace Erc4337

theorem Hex.digitValAscii {c : Char} (ascii : c.toNat < 128) :
    Hex.digitVal? c = HexCodec.nibble? (HexCodec.asciiByte c) := by
  have all : ∀ n : Fin 128,
      Hex.digitVal? (Char.ofNat n) = HexCodec.nibble? (HexCodec.asciiByte (Char.ofNat n)) := by
    decide
  simpa using all ⟨c.toNat, ascii⟩

theorem Hex.pairsPrefixOfPairs {cs : List Char} {b : List UInt8} (ascii : ∀ c ∈ cs, c.toNat < 128)
    (ok : HexCodec.pairs (cs.map HexCodec.asciiByte) = .ok b) : Hex.pairsPrefix cs = b := by
  fun_induction Hex.pairsPrefix cs generalizing b with
  | case1 x y rest hi lo second first ih =>
    have digits : HexCodec.nibble? (HexCodec.asciiByte x) = some hi ∧
        HexCodec.nibble? (HexCodec.asciiByte y) = some lo := by
      rw [← Hex.digitValAscii (ascii x (by simp)), ← Hex.digitValAscii (ascii y (by simp))]
      exact ⟨first, second⟩
    simp only [List.map_cons, HexCodec.pairs, digits.1, digits.2] at ok
    cases tail : HexCodec.pairs (rest.map HexCodec.asciiByte) with
    | error e => simp [tail] at ok
    | ok t =>
      simp only [tail] at ok
      cases ok
      rw [ih (fun c mem => ascii c (by simp [mem])) tail]
  | case2 x y rest notBoth =>
    simp only [List.map_cons, HexCodec.pairs] at ok
    rw [← Hex.digitValAscii (ascii x (by simp)), ← Hex.digitValAscii (ascii y (by simp))] at ok
    cases hx : Hex.digitVal? x <;> cases hy : Hex.digitVal? y <;> simp [hx, hy] at ok
    exact (notBoth _ _ hx hy).elim
  | case3 cs short =>
    rcases cs with _ | ⟨_, _ | ⟨_, _⟩⟩
    · simpa [HexCodec.pairs] using ok.symm
    · simp [HexCodec.pairs] at ok
    · exact (short _ _ _ rfl).elim

theorem Hash.hexPlain (html : Bool) (h : Hash) : Json.Plain html h.hex :=
  Json.plainPrefixed (Json.plainOfAll (by cases html <;> decide)) (HexCodec.paddedDigitsPlain html 64 h.toNat)

theorem Hash.ofTextLooseHex (h : Hash) : Hash.ofTextLoose h.hex = h := by
  have fits : (Nat.toDigits 16 h.toNat).length ≤ 64 :=
    (Nat.length_toDigits_le_iff (by decide) (by decide)).mpr (by have := h.isLt; omega)
  obtain ⟨ascii, b, joined, same⟩ := HexCodec.paddedDigitsPairs 64 h.toNat fits rfl
  -- 64 ASCII digits are 64 bytes, so no zero is put in front of them
  have even : (String.ofList (Hex.paddedDigits 64 h.toNat)).utf8ByteSize % 2 = 0 := by
    rw [← Utf8.toUTF8Length, Utf8.toUTF8Ascii (by rwa [String.toList_ofList]), List.length_map,
      String.toList_ofList]
    simp only [Hex.paddedDigits, Hex.natDigits, List.length_append, List.length_replicate]
    omega
  have chars : h.hex.toList = '0' :: 'x' :: Hex.paddedDigits 64 h.toNat := by
    simp only [Hash.hex, String.toList_append, String.toList_ofList]
    rfl
  apply Hash.toNatInj
  rw [Hash.ofTextLoose, chars, Hex.looseBytes]
  simp only [even, Nat.zero_ne_one, if_false]
  rw [Hex.pairsPrefixOfPairs ascii joined]
  show Hex.bytesNat b % 2 ^ 256 = h.toNat
  rw [same, Nat.mod_eq_of_lt h.isLt]

theorem Hash.hexInj : Function.Injective Hash.hex :=
  Function.LeftInverse.injective Hash.ofTextLooseHex

theorem foldlMOk {α β ε : Type} {step : β → α → Except ε β} (f : β → α → β) {l : List α}
    (each : ∀ x ∈ l, ∀ acc, step acc x = .ok (f acc x)) (acc : β) : l.foldlM step acc = .ok (l.foldl f acc) := by
  induction l generalizing acc with
  | nil => rfl
  | cons x rest ih =>
    rw [List.foldlM_cons, each x List.mem_cons_self, List.foldl_cons]
    exact ih (fun y mem => each y (List.mem_cons_of_mem x mem)) _

namespace StorageMap

theorem accountReadsBack (html : Bool) {depth : Nat} (room : depth + 1 ≤ Json.maxDepth) (s : AccountStorage) :
    Json.ReadsBack html depth s.toJson := by
  cases s with
  | root h => exact Json.readsBackString (Hash.hexPlain html h) depth
  | slots vs _ =>
    refine Json.readsBackObject (fun m mem => ?_) room
    obtain ⟨⟨k, v⟩, -, rfl⟩ := List.mem_map.mp mem
    exact ⟨Hash.hexPlain html k, Json.readsBackString (Hash.hexPlain html v) (depth + 1)⟩

theorem parseToJson (html : Bool) (m : StorageMap) : Json.parse (Json.render html m.toJson) = .ok m.toJson := by
  refine Json.parseRendered (Json.readsBackObject (fun x mem => ?_) (by decide))
  obtain ⟨⟨a, s⟩, -, rfl⟩ := List.mem_map.mp mem
  exact ⟨Address.lowerPlain html a, accountReadsBack html (by decide) s⟩

theorem gatherWrittenSlots (vs : List (Hash × Hash)) :
    (vs.map fun x => (x.1.hex, Json.str x.2.hex)).foldl
      (fun acc x => sortedInsert x.1 ((textOf? x.2).getD "") acc) [] =
        (vs.map fun x => (x.1.hex, x.2.hex)).foldl (fun acc (k, v) => sortedInsert k v acc) [] := by
  simp only [List.foldl_map]
  rfl

theorem insertLooseTexts (l : List (String × String)) :
    l.foldl (fun acc x => sortedInsert (Hash.ofTextLoose x.1) (Hash.ofTextLoose x.2) acc) [] =
      (l.map fun p => (Hash.ofTextLoose p.1, Hash.ofTextLoose p.2)).foldl
        (fun acc (k, v) => sortedInsert k v acc) [] := by
  rw [List.foldl_map]

theorem gatheredTextsPerm {vs : List (Hash × Hash)} (sorted : SortedKeys vs) :
    (((vs.map fun x => (x.1.hex, x.2.hex)).foldl (fun acc (k, v) => sortedInsert k v acc) []).map
      fun p => (Hash.ofTextLoose p.1, Hash.ofTextLoose p.2)).Perm vs := by
  have hexKeys : ((vs.map fun x => (x.1.hex, x.2.hex)).map (·.1)).Nodup := by
    simpa [List.map_map, Function.comp_def] using sorted.keys.map Hash.hexInj
  have readBack : (vs.map fun x => (x.1.hex, x.2.hex)).map
      (fun p => (Hash.ofTextLoose p.1, Hash.ofTextLoose p.2)) = vs := by
    simp [Function.comp_def, Hash.ofTextLooseHex]
  conv => rhs; rw [← readBack]
  exact (foldInsertPermSelf hexKeys).2.map _

theorem accountOfJsonSlots {vs : List (Hash × Hash)} (sorted : SortedKeys vs) :
    accountOfJson (AccountStorage.slots vs sorted).toJson = .ok (.slots vs sorted) := by
  have noBad : (vs.map fun x => (x.1.hex, Json.str x.2.hex)).find? (fun kv => (textOf? kv.2).isNone) = none :=
    List.find?_eq_none.mpr fun kv mem => by
      obtain ⟨x, -, rfl⟩ := List.mem_map.mp mem
      simp [textOf?]
  unfold accountOfJson accountOfJsonIn slotsOfTexts slotTexts
  simp only [AccountStorage.toJson, show ∀ ms, textOf? (Json.obj ms) = none from fun _ => rfl, noBad, id,
    gatherWrittenSlots, insertLooseTexts, foldInsertPerm sorted (gatheredTextsPerm sorted)]

theorem accountOfJsonToJson (s : AccountStorage) : accountOfJson s.toJson = .ok s := by
  cases s with
  | root h =>
    have prefixed : h.hex.startsWith "0x" = true := by simp [Hash.hex]
    simp [accountOfJson, accountOfJsonIn, AccountStorage.toJson, textOf?, prefixed, Hash.ofTextLooseHex]
  | slots vs sorted => exact accountOfJsonSlots sorted

theorem entriesFoldSet (l : List (Address × AccountStorage)) (m : StorageMap) :
    (l.foldl (fun acc x => acc.set x.1 x.2) m).entries = l.foldl (fun acc (k, v) => sortedInsert k v acc) m.entries := by
  induction l generalizing m with
  | nil => rfl
  | cons x rest ih => exact ih (m.set x.1 x.2)

theorem foldSetSelf (m : StorageMap) : m.entries.foldl (fun acc x => acc.set x.1 x.2) empty = m := by
  have entries := entriesFoldSet m.entries empty
  rw [show empty.entries = [] from rfl, foldInsertPerm m.sorted (List.Perm.refl _)] at entries
  exact entriesInj entries

theorem ofJsonToJson (m : StorageMap) : ofJson m.toJson = .ok (some m) := by
  unfold ofJson ofJsonIn toJson
  dsimp only
  rw [List.foldlM_map, foldlMOk (fun acc x => acc.set x.1 x.2) (fun x _ acc => ?_) empty, foldSetSelf]
  · rfl
  · obtain ⟨b, read, same⟩ := HexCodec.fixedLowerNamed "Address" x.1
    have account : accountOfJsonIn id x.2.toJson = .ok x.2 := accountOfJsonToJson x.2
    simp [account, read, same, Except.mapError]
    rfl

theorem ofTextCompact (m : StorageMap) : ofText (Json.compact m.toJson) = .ok (some m) := by
  simp [ofText, Json.compact, parseToJson, Except.mapError, bind, Except.bind, ofJsonToJson]

/-- The text of every map reads back as the map, and writing what is read back gives the text
written the first time. -/
theorem storageMapTextRoundTrip (m : StorageMap) :
    ofText (Json.compact m.toJson) = .ok (some m) ∧
      (ofText (Json.compact m.toJson)).map (Option.map fun read => Json.compact read.toJson) =
        .ok (some (Json.compact m.toJson)) := by
  refine ⟨ofTextCompact m, ?_⟩
  rw [ofTextCompact m]
  rfl

theorem storageMapRoundTripOnRootAndSlot :
    let m : StorageMap := ⟨[(Address.ofNat 10, .root (Hash.ofNat 0xabcdef)),
      (Address.ofNat 11, .slots [(Hash.ofNat 1, Hash.ofNat 2)] (by decide))], by decide⟩
    ofText (Json.compact m.toJson) = .ok (some m) := by
  intro m
  exact (storageMapTextRoundTrip m).1

end StorageMap

end Erc4337
