import Erc4337.UserOp.Wire
/-! Reading an operation from its wire form keeps what the entry point sees. The wire's `initCode`
and `paymasterAndData` are split into an address and a payload, and joined again when the
operation is packed or sent: the bytes come back as they were, unless they begin with the zero
address, which an operation reads as "none" and packs as empty. Under this lies the byte round
trip `natBytesBytesNat`: bytes read as a number and written back at their own width are the same
bytes. -/
namespace Erc4337.Hex

theorem bytesNatFrom (l : List UInt8) (a : Nat) :
    l.foldl (fun acc x => acc * 256 + x.toNat) a = a * 256 ^ l.length + bytesNat l := by
  induction l generalizing a with
  | nil => simp [bytesNat]
  | cons x l ih =>
    have first : bytesNat (x :: l) = x.toNat * 256 ^ l.length + bytesNat l := by
      rw [bytesNat, List.foldl_cons, ih, Nat.zero_mul, Nat.zero_add]
    rw [List.foldl_cons, ih, first, List.length_cons, Nat.pow_succ, Nat.add_mul, Nat.mul_assoc a, Nat.mul_comm 256]
    omega

theorem bytesNatCons (x : UInt8) (l : List UInt8) : bytesNat (x :: l) = x.toNat * 256 ^ l.length + bytesNat l := by
  rw [bytesNat, List.foldl_cons, bytesNatFrom, Nat.zero_mul, Nat.zero_add]

theorem bytesNatLt (l : List UInt8) : bytesNat l < 256 ^ l.length := by
  induction l with
  | nil => simp [bytesNat]
  | cons x l ih =>
    rw [bytesNatCons, List.length_cons, Nat.pow_succ]
    have byte := x.toNat_lt
    calc x.toNat * 256 ^ l.length + bytesNat l < x.toNat * 256 ^ l.length + 256 ^ l.length := by omega
      _ = (x.toNat + 1) * 256 ^ l.length := by rw [Nat.add_mul, Nat.one_mul]
      _ ≤ 256 * 256 ^ l.length := Nat.mul_le_mul_right _ byte
      _ = 256 ^ l.length * 256 := Nat.mul_comm _ _

theorem natBytesSucc (w n : Nat) : natBytes (w + 1) n = (n / 256 ^ w % 256).toUInt8 :: natBytes w n := by
  simp [natBytes, List.range_succ]

theorem natBytesAddHigh (w x r : Nat) : natBytes w (x * 256 ^ w + r) = natBytes w r := by
  simp only [natBytes]
  refine List.map_congr_left fun i mem => ?_
  have below : i < w := by simpa using mem
  obtain ⟨k,rfl⟩ : ∃ k, w = i + (k + 1) := ⟨w - i - 1,by omega⟩
  -- the top byte adds a multiple of 256 to every shifted value below it
  have shifted : x * 256 ^ (i + (k + 1)) + r = r + x * 256 ^ k * 256 * 256 ^ i := by
    rw [Nat.pow_add, Nat.pow_succ, Nat.add_comm]
    ac_rfl
  rw [shifted, Nat.add_mul_div_right _ _ (Nat.pow_pos (by decide)), Nat.add_mul_mod_self_right]

theorem natBytesBytesNat (l : List UInt8) : natBytes l.length (bytesNat l) = l := by
  induction l with
  | nil => rfl
  | cons x l ih =>
    have rest := bytesNatLt l
    have top : (x.toNat * 256 ^ l.length + bytesNat l) / 256 ^ l.length = x.toNat := by
      rw [Nat.add_comm, Nat.add_mul_div_right _ _ (Nat.pow_pos (by decide)), Nat.div_eq_of_lt rest,
        Nat.zero_add]
    rw [bytesNatCons, List.length_cons, natBytesSucc, top, Nat.mod_eq_of_lt x.toNat_lt, natBytesAddHigh, ih]
    simp

theorem bytesNatEqZero (l : List UInt8) : bytesNat l = 0 ↔ l = List.replicate l.length 0 := by
  induction l with
  | nil => simp [bytesNat]
  | cons x l ih =>
    have power : 0 < 256 ^ l.length := Nat.pow_pos (by decide)
    rw [bytesNatCons, List.length_cons, List.replicate_succ, List.cons.injEq, ← ih, ← UInt8.toNat_inj]
    simp only [UInt8.toNat_zero, Nat.add_eq_zero_iff, Nat.mul_eq_zero, Nat.pos_iff_ne_zero.mp power, or_false]

end Erc4337.Hex

namespace Erc4337

theorem Address.toNatOfBytes {l : List UInt8} (twenty : l.length = 20) : (Address.ofBytes l).toNat = Hex.bytesNat l := by
  have below := Hex.bytesNatLt l
  rw [twenty] at below
  exact Nat.mod_eq_of_lt (by simpa using below)

theorem Address.toBytesOfBytes {l : List UInt8} (twenty : l.length = 20) : (Address.ofBytes l).toBytes = l := by
  rw [Address.toBytes, Address.toNatOfBytes twenty, ← twenty, Hex.natBytesBytesNat]

theorem Address.isZeroOfBytes {l : List UInt8} (twenty : l.length = 20) :
    (Address.ofBytes l).isZero ↔ l = List.replicate 20 0 := by
  rw [Address.isZero, Address.toNatOfBytes twenty, beq_iff_eq, Hex.bytesNatEqZero, twenty]

def joinedAsRead (b : List UInt8) : List UInt8 := if b.take 20 = List.replicate 20 0 then [] else b

namespace UserOperation

theorem joinSplit {b : List UInt8} (whole : ¬(0 < b.length ∧ b.length < 20)) :
    (if !(splitAddress b).1.isZero then (splitAddress b).1.toBytes ++ (splitAddress b).2.getD [] else []) =
      joinedAsRead b := by
  by_cases short : b.length < 20
  · have empty : b = [] := List.eq_nil_of_length_eq_zero (by omega)
    subst empty
    rfl
  · have twenty : (b.take 20).length = 20 := by simp; omega
    simp only [splitAddress, if_neg short, joinedAsRead, Option.getD_some]
    by_cases zero : b.take 20 = List.replicate 20 0
    · rw [if_pos zero, (Address.isZeroOfBytes twenty).mpr zero]
      rfl
    · have nonzero : (Address.ofBytes (b.take 20)).isZero = false := by
        simpa using mt (Address.isZeroOfBytes twenty).mp zero
      rw [if_neg zero, nonzero, Address.toBytesOfBytes twenty, Bool.not_false, if_pos rfl, List.take_append_drop]

theorem initCodeWithInitCode (op : UserOperation) {b : List UInt8} (whole : ¬(0 < b.length ∧ b.length < 20)) :
    (op.withInitCode b).initCode = joinedAsRead b := by
  rw [← joinSplit whole]
  rfl

theorem paymasterAndDataWithPaymasterAndData (op : UserOperation) {b : List UInt8}
    (whole : ¬(0 < b.length ∧ b.length < 20)) : (op.withPaymasterAndData b).paymasterAndData = joinedAsRead b := by
  rw [← joinSplit whole]
  rfl

theorem initCodeWithPaymasterAndData (op : UserOperation) (b : List UInt8) :
    (op.withPaymasterAndData b).initCode = op.initCode := rfl

end UserOperation

end Erc4337

namespace Erc4337

namespace Wire

def entryPointTuple (w : Wire) : AbiValue :=
  .tuple [.address (w.sender.getD .zero), .uint (w.nonce.getD 0), .bytes (joinedAsRead (w.initCode.getD [])),
    .bytes (w.callData.getD []), .uint (w.callGasLimit.getD 0), .uint (w.verificationGasLimit.getD 0),
    .uint (w.preVerificationGas.getD 0), .uint (w.maxFeePerGas.getD 0), .uint (w.maxPriorityFeePerGas.getD 0),
    .bytes (joinedAsRead (w.paymasterAndData.getD [])), .bytes (w.signature.getD [])]

def entryPointPack (w : Wire) : List UInt8 :=
  (AbiValue.tuple [.address (w.sender.getD .zero), .uint (w.nonce.getD 0),
    .bytes32 (Hash.keccak (joinedAsRead (w.initCode.getD []))).toBytes, .bytes32 (Hash.keccak (w.callData.getD [])).toBytes,
    .uint (w.callGasLimit.getD 0), .uint (w.verificationGasLimit.getD 0), .uint (w.preVerificationGas.getD 0),
    .uint (w.maxFeePerGas.getD 0), .uint (w.maxPriorityFeePerGas.getD 0),
    .bytes32 (Hash.keccak (joinedAsRead (w.paymasterAndData.getD []))).toBytes]).encode

theorem decodedFields {w : Wire} {op : UserOperation} (ok : w.toUserOperation = .ok op) :
    op.sender = w.sender.getD .zero ∧ op.nonce = w.nonce.map Int.ofNat ∧ op.callData = w.callData ∧
      op.callGasLimit = w.callGasLimit.map Int.ofNat ∧
      op.verificationGasLimit = w.verificationGasLimit.map Int.ofNat ∧
      op.preVerificationGas = w.preVerificationGas.map Int.ofNat ∧ op.maxFeePerGas = w.maxFeePerGas.map Int.ofNat ∧
      op.maxPriorityFeePerGas = w.maxPriorityFeePerGas.map Int.ofNat ∧ op.signature = w.signature ∧
      op.initCode = joinedAsRead (w.initCode.getD []) ∧
      op.paymasterAndData = joinedAsRead (w.paymasterAndData.getD []) := by
  simp only [toUserOperation, bind, Except.bind, pure, Except.pure] at ok
  split at ok
  · cases ok
  split at ok
  · cases ok
  rename_i initCodeWhole
  split at ok
  · cases ok
  rename_i paymasterWhole
  cases ok
  exact ⟨rfl,rfl,rfl,rfl,rfl,rfl,rfl,rfl,rfl,
    (UserOperation.initCodeWithPaymasterAndData _ _).trans (UserOperation.initCodeWithInitCode _ initCodeWhole),
    UserOperation.paymasterAndDataWithPaymasterAndData _ paymasterWhole⟩

theorem getDMapOfNat (o : Option Nat) : (o.map Int.ofNat).getD 0 = ((o.getD 0 : Nat) : Int) := by
  cases o <;> rfl

end Wire

/-- An operation read from the wire carries the wire's fields to the entry point. Its `handleOps`
tuple holds the sender, the numbers, the call data and the signature as they stand, and the
`initCode` and `paymasterAndData` bytes unless they begin with the zero address, which reads as
none; so its packing, and its hash for every entry point and chain, are those of the wire fields. -/
theorem decodedOperationCarriesWire {w : Wire} {op : UserOperation} (ok : w.toUserOperation = .ok op) :
    op.toAbi = w.entryPointTuple ∧ op.pack = w.entryPointPack ∧
      ∀ entryPoint chainId, op.hash entryPoint chainId =
        Hash.keccak (AbiValue.tuple [.bytes32 (Hash.keccak w.entryPointPack).toBytes, .address entryPoint,
          .uint (chainId.getD 0)]).encode := by
  obtain ⟨sender,nonce,callData,callGas,verificationGas,preVerificationGas,maxFee,maxPriority,signature,initCode,
    paymasterAndData⟩ := Wire.decodedFields ok
  have pack : op.pack = w.entryPointPack := by
    rw [UserOperation.pack, Wire.entryPointPack, sender, nonce, callData, callGas, verificationGas, preVerificationGas,
      maxFee, maxPriority, initCode, paymasterAndData]
    simp only [Wire.getDMapOfNat]
  refine ⟨?_,pack,fun entryPoint chainId => by rw [UserOperation.hash, pack]⟩
  rw [UserOperation.toAbi, Wire.entryPointTuple, sender, nonce, callData, callGas, verificationGas, preVerificationGas,
    maxFee, maxPriority, signature, initCode, paymasterAndData]
  simp only [Wire.getDMapOfNat]

theorem decodedOperationWithFactory :
    let w : Wire :=
      { sender := some (.ofNat 16), nonce := some 0, initCode := some (List.replicate 19 0 ++ [153, 1]),
        callGasLimit := some 100000, verificationGasLimit := some 100000, preVerificationGas := some 21000,
        maxFeePerGas := some 2000000000, maxPriorityFeePerGas := some 1000000000 }
    let op : UserOperation :=
      { sender := .ofNat 16, nonce := some 0, factory := .ofNat 153, factoryData := some [1],
        callGasLimit := some 100000, verificationGasLimit := some 100000, preVerificationGas := some 21000,
        maxFeePerGas := some 2000000000, maxPriorityFeePerGas := some 1000000000 }
    w.toUserOperation = .ok op ∧ op.toAbi = w.entryPointTuple ∧ op.pack = w.entryPointPack ∧
      ∀ entryPoint chainId, op.hash entryPoint chainId =
        Hash.keccak (AbiValue.tuple [.bytes32 (Hash.keccak w.entryPointPack).toBytes, .address entryPoint,
          .uint (chainId.getD 0)]).encode := by
  intro w op
  have ok : w.toUserOperation = .ok op := rfl
  exact ⟨ok,decodedOperationCarriesWire ok⟩

theorem zeroFactoryInitCodeDropped :
    let w : Wire :=
      { sender := some (.ofNat 16), nonce := some 0, initCode := some (List.replicate 20 0 ++ [171]),
        callGasLimit := some 100000, verificationGasLimit := some 100000, preVerificationGas := some 21000,
        maxFeePerGas := some 2000000000, maxPriorityFeePerGas := some 1000000000 }
    let op : UserOperation :=
      { sender := .ofNat 16, nonce := some 0, factoryData := some [171],
        callGasLimit := some 100000, verificationGasLimit := some 100000, preVerificationGas := some 21000,
        maxFeePerGas := some 2000000000, maxPriorityFeePerGas := some 1000000000 }
    w.toUserOperation = .ok op ∧ op.initCode = [] ∧ op.initCode ≠ w.initCode.getD [] := by
  intro w op
  exact ⟨rfl,by decide,by decide⟩

end Erc4337
