import Erc4337.Eth.Abi
/-!
User operations of ERC-4337 as EntryPoint v0.6 sees them. Factory and paymaster are kept apart
from their payloads; the zero address means the operation has none, and then `initCode` or
`paymasterAndData` is empty whatever payload is stored. Gas and fee fields may be absent, and
an absent one counts as zero wherever a number is needed; a byte field may be absent too, which
reads as empty but is shown apart from an empty one.

The hash that identifies an operation is `keccak(abi.encode(keccak(pack op), entryPoint,
chainId))`, where `pack` encodes every field but the signature, byte fields by their hashes.
-/
namespace Erc4337

structure UserOperation where
  sender : Address := .zero
  nonce : Option Int := none
  factory : Address := .zero
  factoryData : Option (List UInt8) := none
  callData : Option (List UInt8) := none
  callGasLimit : Option Int := none
  verificationGasLimit : Option Int := none
  preVerificationGas : Option Int := none
  maxFeePerGas : Option Int := none
  maxPriorityFeePerGas : Option Int := none
  paymaster : Address := .zero
  paymasterData : Option (List UInt8) := none
  signature : Option (List UInt8) := none
  deriving Inhabited

namespace UserOperation

def hasFactory (op : UserOperation) : Bool := !op.factory.isZero

def hasPaymaster (op : UserOperation) : Bool := !op.paymaster.isZero

def initCode (op : UserOperation) : List UInt8 :=
  if op.hasFactory then op.factory.toBytes ++ op.factoryData.getD [] else []

def paymasterAndData (op : UserOperation) : List UInt8 :=
  if op.hasPaymaster then op.paymaster.toBytes ++ op.paymasterData.getD [] else []

def splitAddress (b : List UInt8) : Address × Option (List UInt8) :=
  if b.length < 20 then (.zero, none) else (.ofBytes (b.take 20), some (b.drop 20))

def withInitCode (op : UserOperation) (b : List UInt8) : UserOperation :=
  let (f, d) := splitAddress b
  { op with factory := f, factoryData := d }

def withPaymasterAndData (op : UserOperation) (b : List UInt8) : UserOperation :=
  let (p, d) := splitAddress b
  { op with paymaster := p, paymasterData := d }

def pack (op : UserOperation) : List UInt8 :=
  (AbiValue.tuple [.address op.sender, .uint (op.nonce.getD 0),
    .bytes32 (Hash.keccak op.initCode).toBytes, .bytes32 (Hash.keccak (op.callData.getD [])).toBytes,
    .uint (op.callGasLimit.getD 0), .uint (op.verificationGasLimit.getD 0),
    .uint (op.preVerificationGas.getD 0), .uint (op.maxFeePerGas.getD 0),
    .uint (op.maxPriorityFeePerGas.getD 0),
    .bytes32 (Hash.keccak op.paymasterAndData).toBytes]).encode

def hash (op : UserOperation) (entryPoint : Address) (chainId : Option Int) : Hash :=
  Hash.keccak (AbiValue.tuple [.bytes32 (Hash.keccak op.pack).toBytes, .address entryPoint,
    .uint (chainId.getD 0)]).encode

def toAbi (op : UserOperation) : AbiValue :=
  .tuple [.address op.sender, .uint (op.nonce.getD 0), .bytes op.initCode, .bytes (op.callData.getD []),
    .uint (op.callGasLimit.getD 0), .uint (op.verificationGasLimit.getD 0),
    .uint (op.preVerificationGas.getD 0), .uint (op.maxFeePerGas.getD 0),
    .uint (op.maxPriorityFeePerGas.getD 0), .bytes op.paymasterAndData, .bytes (op.signature.getD [])]

def abiType : String :=
  "(address,uint256,bytes,bytes,uint256,uint256,uint256,uint256,uint256,bytes,bytes)"

theorem initCodeOfNoFactory (op : UserOperation) (h : op.hasFactory = false) :
    op.initCode = [] := by
  simp [initCode, h]

end UserOperation

def defaultEntryPoint : Address := .ofNat 0x5FF137D4b0FDCD49DcA30c7CF57E578a026d2789

def handleOpsCalldata (ops : List UserOperation) (beneficiary : Address) : List UInt8 :=
  Abi.call ("handleOps(" ++ UserOperation.abiType ++ "[],address)")
    [.array (ops.map UserOperation.toAbi), .address beneficiary]

end Erc4337
