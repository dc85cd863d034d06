import Mathlib
import Erc4337.Proofs.Json.Strings
import Erc4337.Proofs.Eth.HexCodec
import Erc4337.Proofs.Eth.Abi
/-! An operation's wire document read back from its compact text. The document is an object of
strings that need no escape (hex digits, `0x`, a minus sign, field names), so its text parses back
to it; every member's key is a field name, so reading stores the members in order. The sender
and the byte strings always read back; a number reads back exactly when it is at least zero and
below 2^256, an absent one being written as zero. The operation checked from those fields is
alike to the first one: the joined `initCode` and `paymasterAndData` begin with a used address
or are empty, so they are read back as they were, and so the packing, the hash, the `handleOps`
tuple and the wire text all agree. -/
namespace Erc4337

namespace HexCodec

theorem escapeDigitChar : ∀ html : Bool, ∀ d < 16, Json.escapeChar html (Nat.digitChar d) = [Nat.digitChar d] := by
  decide

theorem escapeHexDigit : ∀ html : Bool, ∀ n < 16, Json.escapeChar html (Hex.digit n) = [Hex.digit n] := by
  decide

theorem toDigitsPlain (html : Bool) (n : Nat) : ∀ c ∈ Nat.toDigits 16 n, Json.escapeChar html c = [c] := by
  intro c mem
  obtain ⟨d, digit, rfl⟩ := toDigitsNibbles n c mem
  exact escapeDigitChar html d digit

theorem bytesDigitsPlain (html : Bool) (b : List UInt8) : ∀ c ∈ Hex.bytesDigits b, Json.escapeChar html c = [c] := by
  intro c mem
  obtain ⟨x, -, inByte⟩ := List.mem_flatMap.mp mem
  simp only [Hex.byteDigits, List.mem_cons, List.not_mem_nil, or_false] at inByte
  rcases inByte with rfl | rfl
  · exact escapeHexDigit html _ (Nat.div_lt_of_lt_mul x.toNat_lt)
  · exact escapeHexDigit html _ (Nat.mod_lt _ (by decide))

theorem ofIntPlain (html : Bool) (n : Int) : Json.Plain html (ofInt n) := by
  have prefixPlain : Json.Plain html "0x" := Json.plainOfAll (by cases html <;> decide)
  unfold ofInt
  split
  · exact Json.plainOfAll (by cases html <;> decide)
  split
  · exact Json.plainPrefixed prefixPlain (toDigitsPlain html _)
  · exact Json.plainPrefixed (Json.plainOfAll (by cases html <;> decide)) (toDigitsPlain html _)

theorem ofBytesPlain (html : Bool) (b : List UInt8) : Json.Plain html (ofBytes b) :=
  Json.plainPrefixed (Json.plainOfAll (by cases html <;> decide)) (bytesDigitsPlain html b)

theorem paddedDigitsPlain (html : Bool) (width n : Nat) :
    ∀ c ∈ Hex.paddedDigits width n, Json.escapeChar html c = [c] := by
  intro c mem
  rcases List.mem_append.mp mem with zero | digit
  · rw [List.eq_of_mem_replicate zero]
    cases html <;> decide
  · exact toDigitsPlain html _ c digit

end HexCodec

theorem Address.lowerPlain (html : Bool) (a : Address) : Json.Plain html a.lower :=
  Json.plainPrefixed (Json.plainOfAll (by cases html <;> decide)) (HexCodec.paddedDigitsPlain html 40 a.toNat)

theorem Address.ofBytesToBytes (a : Address) : Address.ofBytes a.toBytes = a := by
  have below : a.toNat < 256 ^ 20 := by
    have := a.isLt
    rwa [show (2 : Nat) ^ 160 = 256 ^ 20 by decide] at this
  rw [Address.ofBytes, Address.toBytes, Hex.bytesNatNatBytes, Nat.mod_eq_of_lt below, Address.ofNatToNat]

theorem joinedAsReadJoined (a : Address) (d : List UInt8) :
    joinedAsRead (if !a.isZero then a.toBytes ++ d else []) = if !a.isZero then a.toBytes ++ d else [] := by
  cases used : !a.isZero with
  | false => rfl
  | true =>
    have twenty : a.toBytes.length = 20 := Hex.lengthNatBytes 20 _
    have notZero : a.toBytes ≠ List.replicate 20 0 := by
      intro zero
      have isZero := (Address.isZeroOfBytes twenty).mpr zero
      rw [Address.ofBytesToBytes] at isZero
      simp [isZero] at used
    simp only [if_true, joinedAsRead, List.take_left' twenty, if_neg notZero]

namespace Wire

theorem matchFieldName {k : String} (known : k ∈ fieldNames) : Json.matchField fieldNames k = some k := by
  simp [Json.matchField, known]

theorem foldKnownFields (ms : List (String × Json)) (init : Wire) (known : ∀ m ∈ ms, m.1 ∈ fieldNames) :
    ms.foldlM (fun w (k, v) => match Json.matchField fieldNames k with
      | some f => set w f v
      | none => .ok w) init = ms.foldlM (fun w m => w.set m.1 m.2) init := by
  induction ms generalizing init with
  | nil => rfl
  | cons m ms ih =>
    simp only [List.foldlM_cons, matchFieldName (known m List.mem_cons_self)]
    congr 1
    funext w
    exact ih w (fun n mem => known n (List.mem_cons_of_mem m mem))

theorem ofJsonKnown {ms : List (String × Json)} (known : ∀ m ∈ ms, m.1 ∈ fieldNames) :
    ofJson (.obj ms) = ms.foldlM (fun w m => w.set m.1 m.2) {} :=
  foldKnownFields ms {} known

theorem foldlMStepOk {ms : List (String × Json)} {init r : Wire}
    (ok : ms.foldlM (fun (w : Wire) m => w.set m.1 m.2) init = .ok r) :
    ∀ k v, (k, v) ∈ ms → ∃ w w' : Wire, w.set k v = .ok w' := by
  induction ms generalizing init with
  | nil => intro k v mem; cases mem
  | cons m ms ih =>
    rw [List.foldlM_cons] at ok
    cases first : init.set m.1 m.2 with
    | error e => rw [first] at ok; cases ok
    | ok next =>
      rw [first] at ok
      intro k v mem
      rcases List.mem_cons.mp mem with rfl | later
      · exact ⟨init, next, first⟩
      · exact ih ok k v later

theorem mapOk {α β ε : Type} {f : α → β} {e : Except ε α} {b : β} (ok : f <$> e = .ok b) : ∃ a, e = .ok a := by
  cases e with
  | error err => cases ok
  | ok a => exact ⟨a, rfl⟩

theorem setQuantityOk {w w' : Wire} {key : String} {v : Json}
    (quantityKey : key = "nonce" ∨ key = "callGasLimit" ∨ key = "verificationGasLimit" ∨
      key = "preVerificationGas" ∨ key = "maxFeePerGas" ∨ key = "maxPriorityFeePerGas")
    (ok : w.set key v = .ok w') : ∃ x, quantityField v = .ok x := by
  rcases quantityKey with rfl | rfl | rfl | rfl | rfl | rfl
  all_goals exact mapOk ok

theorem addressFieldLower (a : Address) : addressField (.str a.lower) = .ok (some a) := by
  obtain ⟨b, read, back⟩ := HexCodec.fixedLower a
  simp [addressField, Json.hexString, read, Except.mapError, Functor.map, Except.map, back]

theorem dataFieldOfBytes (b : List UInt8) : dataField (.str (HexCodec.ofBytes b)) = .ok (some b) := by
  simp [dataField, Json.hexString, HexCodec.dataOfBytes, Except.mapError, Functor.map, Except.map]

theorem quantityFieldOfInt {n : Int} (fits : 0 ≤ n ∧ n < 2 ^ 256) :
    quantityField (.str (HexCodec.ofInt n)) = .ok (some n.toNat) := by
  have notNegative : ¬ n < 0 := Int.not_lt.mpr fits.1
  simp only [quantityField, Json.hexString]
  rw [HexCodec.quantityOfInt, if_neg notNegative, if_pos fits.2]
  rfl

theorem quantityFieldOfIntOk {n : Int} {x : Option Nat} (ok : quantityField (.str (HexCodec.ofInt n)) = .ok x) :
    0 ≤ n ∧ n < 2 ^ 256 := by
  simp only [quantityField, Json.hexString] at ok
  rw [HexCodec.quantityOfInt] at ok
  by_cases negative : n < 0
  · rw [if_pos negative] at ok
    cases ok
  by_cases large : n < 2 ^ 256
  · exact ⟨Int.not_lt.mp negative, large⟩
  · rw [if_neg negative, if_neg large] at ok
    cases ok

end Wire

namespace UserOperation

def quantities (op : UserOperation) : List (Option Int) :=
  [op.nonce, op.callGasLimit, op.verificationGasLimit, op.preVerificationGas, op.maxFeePerGas,
    op.maxPriorityFeePerGas]

def wireFields (op : UserOperation) : Wire :=
  { sender := some op.sender, nonce := some (op.nonce.getD 0).toNat, initCode := some op.initCode,
    callData := some (op.callData.getD []), callGasLimit := some (op.callGasLimit.getD 0).toNat,
    verificationGasLimit := some (op.verificationGasLimit.getD 0).toNat,
    preVerificationGas := some (op.preVerificationGas.getD 0).toNat,
    maxFeePerGas := some (op.maxFeePerGas.getD 0).toNat,
    maxPriorityFeePerGas := some (op.maxPriorityFeePerGas.getD 0).toNat,
    paymasterAndData := some op.paymasterAndData, signature := some (op.signature.getD []) }

theorem ofJsonToWireJson {op : UserOperation}
    (fits : ∀ q ∈ op.quantities, ∀ n, q = some n → 0 ≤ n ∧ n < 2 ^ 256) :
    Wire.ofJson op.toWireJson = .ok op.wireFields := by
  have read : ∀ q ∈ op.quantities,
      Wire.quantityField (.str (HexCodec.ofInt (q.getD 0))) = .ok (some (q.getD 0).toNat) := by
    intro q mem
    apply Wire.quantityFieldOfInt
    cases q with
    | none => exact ⟨Int.le_refl 0, by decide⟩
    | some n => exact fits _ mem n rfl
  simp only [quantities, List.mem_cons, List.not_mem_nil, or_false, forall_eq_or_imp, forall_eq] at read
  obtain ⟨nonce, callGas, verificationGas, preVerificationGas, maxFee, maxPriority⟩ := read
  rw [toWireJson, Wire.ofJsonKnown (by simp [Wire.fieldNames])]
  simp only [List.foldlM_cons, List.foldlM_nil, Wire.set, Wire.addressFieldLower, Wire.dataFieldOfBytes, nonce,
    callGas, verificationGas, preVerificationGas, maxFee, maxPriority, Functor.map, Except.map, bind, Except.bind]
  rfl

theorem fitsOfOfJsonToWireJson {op : UserOperation} {w : Wire} (ok : Wire.ofJson op.toWireJson = .ok w) :
    ∀ q ∈ op.quantities, ∀ n, q = some n → 0 ≤ n ∧ n < 2 ^ 256 := by
  rw [toWireJson, Wire.ofJsonKnown (by simp [Wire.fieldNames])] at ok
  dsimp only at ok
  have steps := Wire.foldlMStepOk ok
  have member : ∀ (key : String) (q : Option Int),
      (∃ w w' : Wire, w.set key (Json.str (HexCodec.ofInt (q.getD 0))) = .ok w') →
      (key = "nonce" ∨ key = "callGasLimit" ∨ key = "verificationGasLimit" ∨
        key = "preVerificationGas" ∨ key = "maxFeePerGas" ∨ key = "maxPriorityFeePerGas") →
      ∀ n, q = some n → 0 ≤ n ∧ n < 2 ^ 256 := by
    intro key q ⟨w, w', stored⟩ quantityKey n written
    obtain ⟨x, read⟩ := Wire.setQuantityOk quantityKey stored
    have fits := Wire.quantityFieldOfIntOk read
    rwa [written, Option.getD_some] at fits
  intro q mem
  simp only [quantities, List.mem_cons, List.not_mem_nil, or_false] at mem
  rcases mem with rfl | rfl | rfl | rfl | rfl | rfl
  · exact member "nonce" _ (steps _ _ (by simp)) (by simp)
  · exact member "callGasLimit" _ (steps _ _ (by simp)) (by simp)
  · exact member "verificationGasLimit" _ (steps _ _ (by simp)) (by simp)
  · exact member "preVerificationGas" _ (steps _ _ (by simp)) (by simp)
  · exact member "maxFeePerGas" _ (steps _ _ (by simp)) (by simp)
  · exact member "maxPriorityFeePerGas" _ (steps _ _ (by simp)) (by simp)

theorem joinedWhole (a : Address) (d : List UInt8) (used : Bool) :
    ¬(0 < (if used then a.toBytes ++ d else []).length ∧ (if used then a.toBytes ++ d else []).length < 20) := by
  cases used with
  | false => simp
  | true => simp [Address.toBytes, Hex.lengthNatBytes]

theorem toUserOperationWireFields (op : UserOperation) : ∃ op', op.wireFields.toUserOperation = .ok op' := by
  have initCodeWhole := joinedWhole op.factory (op.factoryData.getD []) op.hasFactory
  have paymasterWhole := joinedWhole op.paymaster (op.paymasterData.getD []) op.hasPaymaster
  simp only [Wire.toUserOperation, wireFields, Option.getD_some, initCode, paymasterAndData]
  simp only [initCodeWhole, paymasterWhole]
  exact ⟨_, rfl⟩

structure WireAlike (op op' : UserOperation) : Prop where
  sender : op'.sender = op.sender
  nonce : op'.nonce.getD 0 = op.nonce.getD 0
  callGasLimit : op'.callGasLimit.getD 0 = op.callGasLimit.getD 0
  verificationGasLimit : op'.verificationGasLimit.getD 0 = op.verificationGasLimit.getD 0
  preVerificationGas : op'.preVerificationGas.getD 0 = op.preVerificationGas.getD 0
  maxFeePerGas : op'.maxFeePerGas.getD 0 = op.maxFeePerGas.getD 0
  maxPriorityFeePerGas : op'.maxPriorityFeePerGas.getD 0 = op.maxPriorityFeePerGas.getD 0
  initCode : op'.initCode = op.initCode
  callData : op'.callData.getD [] = op.callData.getD []
  paymasterAndData : op'.paymasterAndData = op.paymasterAndData
  signature : op'.signature.getD [] = op.signature.getD []

namespace WireAlike

variable {op op' : UserOperation}

theorem pack (alike : WireAlike op op') : op'.pack = op.pack := by
  rw [UserOperation.pack, UserOperation.pack, alike.sender, alike.nonce, alike.initCode, alike.callData,
    alike.callGasLimit, alike.verificationGasLimit, alike.preVerificationGas, alike.maxFeePerGas,
    alike.maxPriorityFeePerGas, alike.paymasterAndData]

theorem hash (alike : WireAlike op op') (entryPoint : Address) (chainId : Option Int) :
    op'.hash entryPoint chainId = op.hash entryPoint chainId := by
  rw [UserOperation.hash, UserOperation.hash, alike.pack]

theorem toAbi (alike : WireAlike op op') : op'.toAbi = op.toAbi := by
  rw [UserOperation.toAbi, UserOperation.toAbi, alike.sender, alike.nonce, alike.initCode, alike.callData,
    alike.callGasLimit, alike.verificationGasLimit, alike.preVerificationGas, alike.maxFeePerGas,
    alike.maxPriorityFeePerGas, alike.paymasterAndData, alike.signature]

theorem toWireJson (alike : WireAlike op op') : op'.toWireJson = op.toWireJson := by
  dsimp only [UserOperation.toWireJson]
  rw [alike.sender, alike.nonce, alike.initCode,
    alike.callData, alike.callGasLimit, alike.verificationGasLimit, alike.preVerificationGas,
    alike.maxFeePerGas, alike.maxPriorityFeePerGas, alike.paymasterAndData, alike.signature]

theorem handleOpsCalldata (alike : WireAlike op op') (before after : List UserOperation) (beneficiary : Address) :
    Erc4337.handleOpsCalldata (before ++ op' :: after) beneficiary =
      Erc4337.handleOpsCalldata (before ++ op :: after) beneficiary := by
  simp only [Erc4337.handleOpsCalldata, List.map_append, List.map_cons, alike.toAbi]

end WireAlike

theorem joinedAsReadInitCode (op : UserOperation) : joinedAsRead op.initCode = op.initCode :=
  joinedAsReadJoined op.factory (op.factoryData.getD [])

theorem joinedAsReadPaymasterAndData (op : UserOperation) :
    joinedAsRead op.paymasterAndData = op.paymasterAndData :=
  joinedAsReadJoined op.paymaster (op.paymasterData.getD [])

theorem wireFieldsAlike {op op' : UserOperation}
    (fits : ∀ q ∈ op.quantities, ∀ n, q = some n → 0 ≤ n ∧ n < 2 ^ 256)
    (ok : op.wireFields.toUserOperation = .ok op') : WireAlike op op' := by
  have number : ∀ q ∈ op.quantities, (((q.getD 0).toNat : Nat) : Int) = q.getD 0 := by
    intro q mem
    cases q with
    | none => rfl
    | some n => exact Int.toNat_of_nonneg (fits _ mem n rfl).1
  simp only [quantities, List.mem_cons, List.not_mem_nil, or_false, forall_eq_or_imp, forall_eq] at number
  obtain ⟨nonce, callGas, verificationGas, preVerificationGas, maxFee, maxPriority⟩ := number
  obtain ⟨sender, nonce', callData, callGas', verificationGas', preVerificationGas', maxFee', maxPriority',
    signature, initCode, paymasterAndData⟩ := Wire.decodedFields ok
  exact {
    sender := sender
    nonce := by rw [nonce']; simpa [wireFields] using nonce
    callGasLimit := by rw [callGas']; simpa [wireFields] using callGas
    verificationGasLimit := by rw [verificationGas']; simpa [wireFields] using verificationGas
    preVerificationGas := by rw [preVerificationGas']; simpa [wireFields] using preVerificationGas
    maxFeePerGas := by rw [maxFee']; simpa [wireFields] using maxFee
    maxPriorityFeePerGas := by rw [maxPriority']; simpa [wireFields] using maxPriority
    initCode := by rw [initCode]; exact joinedAsReadInitCode op
    callData := by rw [callData]; rfl
    paymasterAndData := by rw [paymasterAndData]; exact joinedAsReadPaymasterAndData op
    signature := by rw [signature]; rfl }

def wireTexts (op : UserOperation) : List String :=
  [op.sender.lower, HexCodec.ofInt (op.nonce.getD 0), HexCodec.ofBytes op.initCode,
    HexCodec.ofBytes (op.callData.getD []), HexCodec.ofInt (op.callGasLimit.getD 0),
    HexCodec.ofInt (op.verificationGasLimit.getD 0), HexCodec.ofInt (op.preVerificationGas.getD 0),
    HexCodec.ofInt (op.maxFeePerGas.getD 0), HexCodec.ofInt (op.maxPriorityFeePerGas.getD 0),
    HexCodec.ofBytes op.paymasterAndData, HexCodec.ofBytes (op.signature.getD [])]

theorem toWireJsonStrings (op : UserOperation) :
    op.toWireJson = Json.strings (Wire.fieldNames.zip op.wireTexts) := rfl

theorem wireTextsPlain (html : Bool) (op : UserOperation) : ∀ t ∈ op.wireTexts, Json.Plain html t := by
  simp only [wireTexts, List.forall_mem_cons]
  exact ⟨Address.lowerPlain html _, HexCodec.ofIntPlain html _, HexCodec.ofBytesPlain html _,
    HexCodec.ofBytesPlain html _, HexCodec.ofIntPlain html _, HexCodec.ofIntPlain html _,
    HexCodec.ofIntPlain html _, HexCodec.ofIntPlain html _, HexCodec.ofIntPlain html _,
    HexCodec.ofBytesPlain html _, HexCodec.ofBytesPlain html _, fun _ none => nomatch none⟩

theorem fieldNamesPlain (html : Bool) : ∀ k ∈ Wire.fieldNames, Json.Plain html k := by
  have all : (Wire.fieldNames.all fun k => k.toList.all fun c => Json.escapeChar html c == [c]) = true := by
    cases html <;> decide
  intro k mem
  exact Json.plainOfAll (List.all_eq_true.mp all k mem)

theorem parseDocCompact (op : UserOperation) : Json.parseDoc (Json.compact op.toWireJson) = .ok op.toWireJson := by
  have plain : ∀ m ∈ Wire.fieldNames.zip op.wireTexts, Json.Plain true m.1 ∧ Json.Plain true m.2 := by
    intro m mem
    exact ⟨fieldNamesPlain true _ (List.of_mem_zip mem).1, wireTextsPlain true op _ (List.of_mem_zip mem).2⟩
  rw [Json.parseDoc, Json.compact, toWireJsonStrings, Json.parseStrings plain]
  rfl

theorem ofWireTextCompact (op : UserOperation) :
    ofWireText (Json.compact op.toWireJson) = ofWireJson op.toWireJson := by
  simp only [ofWireText, parseDocCompact, Except.mapError, bind, Except.bind]

theorem ofWireJsonToWireJson {op op' : UserOperation} (ok : ofWireJson op.toWireJson = .ok op') :
    (∀ q ∈ op.quantities, ∀ n, q = some n → 0 ≤ n ∧ n < 2 ^ 256) ∧ WireAlike op op' := by
  simp only [ofWireJson, Except.mapError, bind, Except.bind] at ok
  cases read : Wire.ofJson op.toWireJson with
  | error e => rw [read] at ok; cases ok
  | ok w =>
    have fits := fitsOfOfJsonToWireJson read
    rw [ofJsonToWireJson fits] at read
    cases read
    rw [ofJsonToWireJson fits] at ok
    exact ⟨fits, wireFieldsAlike fits ok⟩

theorem ofWireJsonToWireJsonOfFits {op : UserOperation}
    (fits : ∀ q ∈ op.quantities, ∀ n, q = some n → 0 ≤ n ∧ n < 2 ^ 256) :
    ∃ op', ofWireJson op.toWireJson = .ok op' := by
  simp only [ofWireJson, ofJsonToWireJson fits, Except.mapError, bind, Except.bind]
  exact toUserOperationWireFields op

/-- The wire text of an operation reads back exactly when its numbers fit in 256 bits, absent
ones counted as zero; what it reads back as has the same sender, packing, hash, `handleOps`
tuple and calldata, and wire text. -/
theorem wireTextRoundTrip (op : UserOperation) :
    ((∃ op', ofWireText (Json.compact op.toWireJson) = .ok op') ↔
      ∀ q ∈ op.quantities, ∀ n, q = some n → 0 ≤ n ∧ n < 2 ^ 256) ∧
    ∀ op', ofWireText (Json.compact op.toWireJson) = .ok op' →
      op'.sender = op.sender ∧ op'.pack = op.pack ∧
      (∀ entryPoint chainId, op'.hash entryPoint chainId = op.hash entryPoint chainId) ∧
      op'.toAbi = op.toAbi ∧
      (∀ before after beneficiary, handleOpsCalldata (before ++ op' :: after) beneficiary =
        handleOpsCalldata (before ++ op :: after) beneficiary) ∧
      Json.compact op'.toWireJson = Json.compact op.toWireJson := by
  rw [ofWireTextCompact]
  refine ⟨⟨fun ⟨_, ok⟩ => (ofWireJsonToWireJson ok).1, ofWireJsonToWireJsonOfFits⟩, fun op' ok => ?_⟩
  have alike := (ofWireJsonToWireJson ok).2
  exact ⟨alike.sender, alike.pack, alike.hash, alike.toAbi, alike.handleOpsCalldata, by rw [alike.toWireJson]⟩

end UserOperation

end Erc4337
