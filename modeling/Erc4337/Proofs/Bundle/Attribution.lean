import Erc4337.Proofs.Bundle.FailureText
import Erc4337.Proofs.Eth.Abi
import Erc4337.Proofs.Eth.HexCodec
/-! Blaming an operation reads what the entry point writes. A `FailedOp` or `FailedOpWithRevert`
revert, ABI-encoded behind its selector and attached to the error as bytes or hex text, is read
back with its index, its reason and its inner revert data; an `Error(string)` revert whose text
names a failure is read as that failure; and every index read fits in 63 bits. The three
selectors are computed once, which is what tells the three layouts apart. -/
namespace Erc4337

def Fault.Carries (f : Fault) (payload : List UInt8) : Prop :=
  f.data = some (.raw payload) ∨
    ∃ text, HexCodec.decode text = .ok payload ∧
      (f.data = some (.json (.str text)) ∨
        ∃ members, f.data = some (.json (.obj members)) ∧ (Json.obj members).get? "data" = some (.str text))

namespace AttributedFailure
open Abi

theorem failedOpSelectorBytes : failedOpSelector = [0x22, 0x02, 0x66, 0xb6] := by decide +kernel

theorem failedOpWithRevertSelectorBytes : failedOpWithRevertSelector = [0x65, 0xc8, 0xfd, 0x4d] := by
  decide +kernel

theorem errorStringSelectorBytes : errorStringSelector = [0x08, 0xc3, 0x79, 0xa0] := by decide +kernel

theorem ofRevertFailedOp {args reason : List UInt8} {i : Nat} (nonempty : args ≠ [])
    (idx : wordAt? args 0 = some i) (body : dynamicAt? args 32 = some reason) (small : i < 2 ^ 31) :
    ofRevert (failedOpSelector ++ args) = some { opIndex := i, reason } := by
  have four : failedOpSelector.length = 4 := by rw [failedOpSelectorBytes]; rfl
  unfold ofRevert
  rw [if_neg (by simp [four]), List.take_left' four, List.drop_left' four]
  simp [nonempty, idx, body, List.isEmpty_iff]
  omega

theorem ofRevertFailedOpWithRevert {args reason inner : List UInt8} {i : Nat} (nonempty : args ≠ [])
    (idx : wordAt? args 0 = some i) (body : dynamicAt? args 32 = some reason)
    (revert : dynamicAt? args 64 = some inner) (small : i < 2 ^ 31) :
    ofRevert (failedOpWithRevertSelector ++ args) =
      some { opIndex := i, reason, inner } := by
  have four : failedOpWithRevertSelector.length = 4 := by rw [failedOpWithRevertSelectorBytes]; rfl
  have other : failedOpWithRevertSelector ≠ failedOpSelector := by
    rw [failedOpWithRevertSelectorBytes, failedOpSelectorBytes]; decide
  unfold ofRevert
  rw [if_neg (by simp [four]), List.take_left' four, List.drop_left' four]
  simp [nonempty, idx, body, revert, List.isEmpty_iff, other]
  omega

theorem ofRevertErrorString {args text : List UInt8} (nonempty : args ≠ [])
    (body : dynamicAt? args 0 = some text) :
    ofRevert (errorStringSelector ++ args) = ofBytes text := by
  have four : errorStringSelector.length = 4 := by rw [errorStringSelectorBytes]; rfl
  have notFailed : errorStringSelector ≠ failedOpSelector := by
    rw [errorStringSelectorBytes, failedOpSelectorBytes]; decide
  have notWithRevert : errorStringSelector ≠ failedOpWithRevertSelector := by
    rw [errorStringSelectorBytes, failedOpWithRevertSelectorBytes]; decide
  unfold ofRevert
  rw [if_neg (by simp [four]), List.take_left' four, List.drop_left' four]
  simp [nonempty, body, List.isEmpty_iff, notFailed, notWithRevert]

theorem ofRevertIndexLt {data : List UInt8} {a : AttributedFailure} (read : ofRevert data = some a) :
    a.opIndex < 2 ^ 63 := by
  unfold ofRevert at read
  simp only [bind, Option.bind] at read
  repeat' (split at read <;> try dsimp only at read)
  all_goals first | (cases read; dsimp only; omega) | cases read | exact ofBytesIndexLt read

theorem revertDataOfCarries {f : Fault} {payload : List UInt8} (carries : f.Carries payload) :
    revertData f = some payload := by
  rcases carries with raw | ⟨text, decoded, str | ⟨members, obj, member⟩⟩
  · simp [revertData, raw]
  · simp [revertData, str, HexCodec.decodeOkFilled decoded, decoded]
  · simp [revertData, obj, member, HexCodec.decodeOkFilled decoded, decoded]

theorem ofFaultOfCarries {f : Fault} {payload : List UInt8} {a : AttributedFailure} (carries : f.Carries payload)
    (read : ofRevert payload = some a) : ofFault f = some a := by
  simp [ofFault, revertDataOfCarries carries, read]

theorem ofFaultIndexLt {f : Fault} {a : AttributedFailure} (read : ofFault f = some a) : a.opIndex < 2 ^ 63 := by
  unfold ofFault at read
  split at read
  · rename_i b fromData
    cases read
    obtain ⟨data, -, decoded⟩ := Option.bind_eq_some_iff.mp fromData
    exact ofRevertIndexLt decoded
  · exact ofBytesIndexLt read

/-- Blaming reads what the entry point encodes. Revert data carried as bytes or hex text that is
`FailedOp(i, r)` or `FailedOpWithRevert(i, r, inner)`, with `i` below 2^31, is read as that index,
reason and inner data; `Error(t)` is read as the leftmost failure named in `t` when its index is
below 2^63; and no index read from any error reaches 2^63. -/
theorem attributionReadsEncodedRevert :
    (∀ (f : Fault) (i : Nat) (r : String), i < 2 ^ 31 → r.utf8ByteSize < 2 ^ 255 →
      f.Carries (Abi.call "FailedOp(uint256,string)" [.uint i, .string r]) →
      ofFault f = some { opIndex := i, reason := r.toUTF8.toList }) ∧
    (∀ (f : Fault) (i : Nat) (r : String) (inner : List UInt8), i < 2 ^ 31 → r.utf8ByteSize < 2 ^ 255 →
      inner.length < 2 ^ 255 →
      f.Carries (Abi.call "FailedOpWithRevert(uint256,string,bytes)" [.uint i, .string r, .bytes inner]) →
      ofFault f = some { opIndex := i, reason := r.toUTF8.toList, inner }) ∧
    (∀ (f : Fault) (t : String) (ds s : List UInt8), t.utf8ByteSize < 2 ^ 255 →
      f.Carries (Abi.call "Error(string)" [.string t]) → FirstFailure t.toUTF8.toList ds s → decimal ds < 2 ^ 63 →
      ofFault f = some { opIndex := decimal ds, reason := s }) ∧
    ∀ (f : Fault) (a : AttributedFailure), ofFault f = some a → a.opIndex < 2 ^ 63 := by
  refine ⟨?failedOp, ?withRevert, ?errorString, fun _ _ read => ofFaultIndexLt read⟩
  case failedOp =>
    intro f i r small fits carries
    obtain ⟨nonempty, idx, body⟩ := decodeUintString i r (by omega) (by omega)
    have read := ofRevertFailedOp nonempty idx body small
    exact ofFaultOfCarries carries read
  case withRevert =>
    intro f i r inner small fits fitsInner carries
    obtain ⟨nonempty, idx, body, revert⟩ := decodeUintStringBytes i r inner (by omega) fits fitsInner
    have read := ofRevertFailedOpWithRevert nonempty idx body revert small
    exact ofFaultOfCarries carries read
  case errorString =>
    intro f t ds s fits carries first small
    obtain ⟨nonempty, body⟩ := decodeString t (by omega)
    have read := ofRevertErrorString nonempty body
    rw [ofBytesFirstFailure first small] at read
    exact ofFaultOfCarries carries read

theorem attributionReadsHexAndText :
    let failed := Abi.call "FailedOp(uint256,string)" [.uint 0, .string "AA23 reverted"]
    let hexError : Fault := { message := "execution reverted", data := some (.json (.str (HexCodec.ofBytes failed))) }
    let text := "FailedOp(1, \"AA25 invalid account nonce\")"
    let reason := "AA25 invalid account nonce".toUTF8.toList
    let wrapped : Fault := { message := "execution reverted", data := some (.raw (Abi.call "Error(string)" [.string text])) }
    (hexError.Carries failed ∧ ofFault hexError = some { opIndex := 0, reason := "AA23 reverted".toUTF8.toList }) ∧
      (wrapped.Carries (Abi.call "Error(string)" [.string text]) ∧ FirstFailure text.toUTF8.toList [49] reason ∧
        ofFault wrapped = some { opIndex := decimal [49], reason }) := by
  intro failed hexError text reason wrapped
  have hexCarries : hexError.Carries failed := .inr ⟨_, HexCodec.decodeOfBytes failed, .inl rfl⟩
  have wrappedCarries : wrapped.Carries (Abi.call "Error(string)" [.string text]) := .inl rfl
  -- the name, then `(1,`, one blank, and the quoted reason
  have named : text.toUTF8.toList = failedOpName ++ ([40, 49, 44, 32, 34] ++ reason ++ [34, 41]) := by decide +kernel
  have first : FirstFailure text.toUTF8.toList [49] reason :=
    ⟨[], _, named, ⟨failedOpName, _, .inl rfl, rfl, [32], [41], by simp, by decide,
      List.forall_mem_singleton.mpr (by decide), List.forall_mem_singleton.mpr (by decide), by decide +kernel⟩,
      fun k below => absurd below (Nat.not_lt_zero k)⟩
  refine ⟨⟨hexCarries, attributionReadsEncodedRevert.1 hexError 0 _ (by decide) (by decide) hexCarries⟩,
    wrappedCarries, first, attributionReadsEncodedRevert.2.2.1 wrapped text _ _ (by decide) wrappedCarries first (by decide)⟩

end AttributedFailure

end Erc4337
