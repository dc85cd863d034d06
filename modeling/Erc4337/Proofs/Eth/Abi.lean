import Erc4337.Proofs.UserOp.Decode
import Erc4337.Proofs.Text.Utf8
import Erc4337.Eth.Abi
/-! The ABI reader reads back what the encoder writes. A number below 2^256 written as a word is
read back from it; a byte string behind an offset word is read back when the offset points at
its length word. The layouts of the tuples the entry point's errors carry follow from `assemble`:
the heads in order, each dynamic part's offset counted from the start of the tuple, then the
bodies. A tuple of static values is their words one after another, so equal layouts are equal
word by word; and a tuple's layout depends only on the layouts of its items. -/
namespace Erc4337

theorem Hex.bytesNatNatBytes (w n : Nat) : Hex.bytesNat (Hex.natBytes w n) = n % 256 ^ w := by
  induction w with
  | zero => simp [Hex.natBytes, Hex.bytesNat, Nat.mod_one]
  | succ w ih =>
    rw [Hex.natBytesSucc, Hex.bytesNatCons, Hex.lengthNatBytes, ih, Nat.mod_pow_succ]
    simp [Nat.mul_comm, Nat.add_comm]

namespace Abi

theorem wordLength (n : Int) : (word n).length = 32 := Hex.lengthNatBytes 32 _

theorem bytesNatWord (n : Nat) : Hex.bytesNat (word n) = n % 2 ^ 256 := by
  have cast : ((n : Int) % 2 ^ 256).toNat = n % 2 ^ 256 := by omega
  have width : (256 : Nat) ^ 32 = 2 ^ 256 := by decide
  rw [word, cast, Hex.bytesNatNatBytes, width, Nat.mod_mod]

theorem padRightTake (b : List UInt8) : (padRight b).take b.length = b := by
  simp [padRight]

theorem lengthLePadRight (b : List UInt8) : b.length ≤ (padRight b).length := by
  simp [padRight]

theorem wordAtWord (pre rest : List UInt8) (n : Nat) :
    wordAt? (pre ++ (word n ++ rest)) pre.length = some (n % 2 ^ 256) := by
  have inside : pre.length + 32 ≤ (pre ++ (word n ++ rest)).length := by
    simp [wordLength]
  rw [wordAt?, if_pos inside, List.drop_left, List.take_left' (wordLength n), bytesNatWord]

theorem wordAtFront (n : Nat) (rest : List UInt8) : wordAt? (word n ++ rest) 0 = some (n % 2 ^ 256) :=
  wordAtWord [] rest n

theorem dynamicAtOf {data body rest : List UInt8} {index off : Nat} (offset : wordAt? data index = some off)
    (tail : data.drop off = word body.length ++ (padRight body ++ rest)) (fits : body.length < 2 ^ 256) :
    dynamicAt? data index = some body := by
  have long : off + 32 + (padRight body).length + rest.length = data.length := by
    have := congrArg List.length tail
    rw [List.length_drop, List.length_append, List.length_append, wordLength] at this
    omega
  have lengthWord : wordAt? data off = some body.length := by
    have split : data = data.take off ++ (word body.length ++ (padRight body ++ rest)) := by
      rw [← tail, List.take_append_drop]
    have atOff : (data.take off).length = off := by simp; omega
    have read := wordAtWord (data.take off) (padRight body ++ rest) body.length
    rwa [← split, atOff, Nat.mod_eq_of_lt fits] at read
  have bodyAt : data.drop (off + 32) = padRight body ++ rest := by
    rw [← List.drop_drop, tail, List.drop_left' (wordLength _)]
  have padded := lengthLePadRight body
  simp only [dynamicAt?, offset, lengthWord, bind, Option.bind, gt_iff_lt]
  rw [if_neg (by omega), if_neg (by omega), bodyAt, List.take_append_of_le_length padded, padRightTake]

theorem encodeUintString (i : Nat) (r : String) :
    (AbiValue.tuple [.uint i, .string r]).encode =
      word i ++ (word 64 ++ (word r.utf8ByteSize ++ padRight r.toUTF8.toList)) := by
  simp [AbiValue.encode, AbiValue.encodeEach, AbiValue.isDynamic, assemble, wordLength]

theorem encodeUintStringBytes (i : Nat) (r : String) (b : List UInt8) :
    (AbiValue.tuple [.uint i, .string r, .bytes b]).encode =
      word i ++ (word 96 ++ (word (96 + (32 + (padRight r.toUTF8.toList).length)) ++
        (word r.utf8ByteSize ++ (padRight r.toUTF8.toList ++ (word b.length ++ padRight b))))) := by
  simp [AbiValue.encode, AbiValue.encodeEach, AbiValue.isDynamic, assemble, wordLength]

theorem encodeString (r : String) :
    (AbiValue.tuple [.string r]).encode = word 32 ++ (word r.utf8ByteSize ++ padRight r.toUTF8.toList) := by
  simp [AbiValue.encode, AbiValue.encodeEach, AbiValue.isDynamic, assemble, wordLength]

theorem wordAppendNeNil (n : Int) (rest : List UInt8) : word n ++ rest ≠ [] :=
  List.ne_nil_of_length_pos (by simp only [List.length_append, wordLength]; omega)

theorem decodeUintString (i : Nat) (r : String) (small : i < 2 ^ 256) (fits : r.utf8ByteSize < 2 ^ 256) :
    let args := (AbiValue.tuple [.uint i, .string r]).encode
    args ≠ [] ∧ wordAt? args 0 = some i ∧ dynamicAt? args 32 = some r.toUTF8.toList := by
  intro args
  have layout : args = word i ++ (word 64 ++ (word r.utf8ByteSize ++ padRight r.toUTF8.toList)) :=
    encodeUintString i r
  have length := Utf8.toUTF8Length r
  have offset : wordAt? args 32 = some 64 := by rw [layout]; exact wordAtWord (word i) _ 64
  have tail : args.drop 64 = word r.toUTF8.toList.length ++ (padRight r.toUTF8.toList ++ []) := by
    rw [layout, ← List.append_assoc, List.drop_left' (by simp [wordLength]), length, List.append_nil]
  refine ⟨layout ▸ wordAppendNeNil _ _, ?_, dynamicAtOf offset tail (by omega)⟩
  rw [layout, wordAtFront, Nat.mod_eq_of_lt small]

theorem decodeUintStringBytes (i : Nat) (r : String) (b : List UInt8) (small : i < 2 ^ 256)
    (fits : r.utf8ByteSize < 2 ^ 255) (fitsInner : b.length < 2 ^ 255) :
    let args := (AbiValue.tuple [.uint i, .string r, .bytes b]).encode
    args ≠ [] ∧ wordAt? args 0 = some i ∧ dynamicAt? args 32 = some r.toUTF8.toList ∧
      dynamicAt? args 64 = some b := by
  intro args
  let reason := padRight r.toUTF8.toList
  have layout : args = word i ++ (word 96 ++ (word (96 + (32 + reason.length)) ++
      (word r.utf8ByteSize ++ (reason ++ (word b.length ++ padRight b))))) := encodeUintStringBytes i r b
  have length := Utf8.toUTF8Length r
  have padded : reason.length < r.utf8ByteSize + 32 := by
    simp only [reason, padRight, List.length_append, List.length_replicate]
    omega
  have firstOffset : wordAt? args 32 = some 96 := by rw [layout]; exact wordAtWord (word i) _ 96
  have secondOffset : wordAt? args 64 = some (96 + (32 + reason.length)) := by
    have read := wordAtWord (word i ++ word 96) (word r.utf8ByteSize ++ (reason ++ (word b.length ++ padRight b)))
      (96 + (32 + reason.length))
    rw [List.append_assoc, List.length_append, wordLength, wordLength, Nat.mod_eq_of_lt (by omega)] at read
    rw [layout]
    exact read
  have firstTail : args.drop 96 = word r.toUTF8.toList.length ++ (reason ++ (word b.length ++ padRight b)) := by
    have heads : (word i ++ (word 96 ++ word (96 + (32 + reason.length)))).length = 96 := by simp [wordLength]
    rw [layout, ← List.append_assoc (word 96), ← List.append_assoc (word i), List.drop_left' heads, length]
  have secondTail : args.drop (96 + (32 + reason.length)) = word b.length ++ (padRight b ++ []) := by
    rw [← List.drop_drop, firstTail, ← List.append_assoc, List.drop_left' (by simp [wordLength]), List.append_nil]
  refine ⟨layout ▸ wordAppendNeNil _ _, ?_, dynamicAtOf firstOffset firstTail (by omega),
    dynamicAtOf secondOffset secondTail (by omega)⟩
  rw [layout, wordAtFront, Nat.mod_eq_of_lt small]

theorem decodeString (t : String) (fits : t.utf8ByteSize < 2 ^ 256) :
    let args := (AbiValue.tuple [.string t]).encode
    args ≠ [] ∧ dynamicAt? args 0 = some t.toUTF8.toList := by
  intro args
  have layout : args = word 32 ++ (word t.utf8ByteSize ++ padRight t.toUTF8.toList) := encodeString t
  have offset : wordAt? args 0 = some 32 := by rw [layout]; exact wordAtFront 32 _
  have tail : args.drop 32 = word t.toUTF8.toList.length ++ (padRight t.toUTF8.toList ++ []) := by
    rw [layout, List.drop_left' (wordLength _), Utf8.toUTF8Length, List.append_nil]
  exact ⟨layout ▸ wordAppendNeNil _ _, dynamicAtOf offset tail (by rw [Utf8.toUTF8Length]; exact fits)⟩

theorem foldStatic (ps : List (Bool × List UInt8)) (static : ∀ p ∈ ps, p.1 = false) (heads : List UInt8) (off : Nat) :
    ps.foldl (fun (acc : List UInt8 × List UInt8 × Nat) (p : Bool × List UInt8) =>
        if p.1 = true then (acc.1 ++ word (acc.2.2 : Int), acc.2.1 ++ p.2, acc.2.2 + p.2.length)
        else (acc.1 ++ p.2, acc.2.1, acc.2.2)) (heads, [], off) =
      (heads ++ (ps.map (·.2)).flatten, [], off) := by
  induction ps generalizing heads with
  | nil => simp
  | cons p rest ih =>
    have first : p.1 = false := static p (List.mem_cons_self ..)
    rw [List.foldl_cons, if_neg (by simp [first]), ih (fun q mem => static q (List.mem_cons_of_mem _ mem))]
    simp

theorem assembleStatic (parts : List (Bool × List UInt8)) (static : ∀ p ∈ parts, p.1 = false) :
    assemble parts = (parts.map (·.2)).flatten := by
  unfold assemble
  simp [foldStatic parts static]

theorem flattenWordsInj {xs ys : List (List UInt8)} (wide : ∀ x ∈ xs, x.length = 32) (wide' : ∀ y ∈ ys, y.length = 32)
    (count : xs.length = ys.length) (same : xs.flatten = ys.flatten) : xs = ys := by
  induction xs generalizing ys with
  | nil => cases ys with
    | nil => rfl
    | cons => cases count
  | cons x rest ih =>
    cases ys with
    | nil => cases count
    | cons y rest' =>
      rw [List.flatten_cons, List.flatten_cons] at same
      have first := List.append_inj same ((wide x (List.mem_cons_self ..)).trans (wide' y (List.mem_cons_self ..)).symm)
      rw [first.1, ih (fun x mem => wide x (List.mem_cons_of_mem _ mem)) (fun y mem => wide' y (List.mem_cons_of_mem _ mem))
        (by simpa using count) first.2]

end Abi

namespace AbiValue

theorem encodeEachMap (items : List AbiValue) : encodeEach items = items.map fun v => (v.isDynamic,v.encode) := by
  induction items with
  | nil => rfl
  | cons v rest ih => simp [encodeEach, ih]

theorem anyDynamicMap (items : List AbiValue) : anyDynamic items = (items.map isDynamic).any id := by
  induction items with
  | nil => rfl
  | cons v rest ih => simp [anyDynamic, ih]

theorem encodeStaticTuple (items : List AbiValue) (static : ∀ v ∈ items, v.isDynamic = false) :
    (tuple items).encode = (items.map encode).flatten := by
  rw [encode, encodeEachMap, Abi.assembleStatic _ (by simpa using static), List.map_map]
  rfl

theorem tupleAlike {items items' : List AbiValue}
    (alike : items.map (fun v => (v.isDynamic,v.encode)) = items'.map fun v => (v.isDynamic,v.encode)) :
    (tuple items).isDynamic = (tuple items').isDynamic ∧ (tuple items).encode = (tuple items').encode := by
  have dynamic : items.map isDynamic = items'.map isDynamic := by
    simpa [Function.comp_def] using congrArg (List.map Prod.fst) alike
  constructor
  · rw [isDynamic, isDynamic, anyDynamicMap, anyDynamicMap, dynamic]
  · rw [encode, encode, encodeEachMap, encodeEachMap, alike]

end AbiValue

namespace Abi

end Abi

end Erc4337
