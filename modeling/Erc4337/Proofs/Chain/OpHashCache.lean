import Erc4337.Chain.OpHasher
import Erc4337.Proofs.Eth.Abi
import Erc4337.Proofs.Validation.StorageMerge
/-! The operation-hash cache answers as the contract does. Take the contract's answer to be a
function `g` of the entry point and the call's bytes that does not read the signature, and
Keccak to tell apart the byte strings that two keys hash, input by input. Then over any history
of requests, to any entry points, with the cache losing any entries between requests, every hash
a request returns is `g`'s answer for its operation, which is what an uncached call returns.

The key is the Keccak hash of the entry point and the packed operation. The packing writes the
sender and every quantity as the same word the call writes, and every byte field but the
signature by its hash, so two operations with one key are called alike but for the signature. -/
namespace Erc4337

theorem Hash.toBytesInj {a b : Hash} (same : a.toBytes = b.toBytes) : a = b := by
  have width : (256 : Nat) ^ 32 = 2 ^ 256 := by decide
  have read := congrArg Hex.bytesNat same
  rw [Hash.toBytes, Hash.toBytes, Hex.bytesNatNatBytes, Hex.bytesNatNatBytes, width,
    Nat.mod_eq_of_lt a.isLt, Nat.mod_eq_of_lt b.isLt] at read
  exact Hash.toNatInj read

theorem Hash.ofBytesToBytes (h : Hash) : Hash.ofBytes h.toBytes = h := by
  have width : (256 : Nat) ^ 32 = 2 ^ 256 := by decide
  apply Hash.toNatInj
  show Hex.bytesNat (Hex.natBytes 32 h.toNat) % 2 ^ 256 = h.toNat
  rw [Hex.bytesNatNatBytes, width, Nat.mod_mod, Nat.mod_eq_of_lt h.isLt]

theorem Address.toBytesInj {a b : Address} (same : a.toBytes = b.toBytes) : a = b := by
  have width : (256 : Nat) ^ 20 = 2 ^ 160 := by decide
  have read := congrArg Hex.bytesNat same
  rw [Address.toBytes, Address.toBytes, Hex.bytesNatNatBytes, Hex.bytesNatNatBytes, width,
    Nat.mod_eq_of_lt a.isLt, Nat.mod_eq_of_lt b.isLt] at read
  exact Address.toNatInj read

theorem Address.wordInj {a b : Address} (same : Abi.word a.toNat = Abi.word b.toNat) : a = b := by
  have wide : (2 : Nat) ^ 160 ≤ 2 ^ 256 := Nat.pow_le_pow_right (by decide) (by decide)
  have read := congrArg Hex.bytesNat same
  rw [Abi.bytesNatWord, Abi.bytesNatWord, Nat.mod_eq_of_lt (Nat.lt_of_lt_of_le a.isLt wide),
    Nat.mod_eq_of_lt (Nat.lt_of_lt_of_le b.isLt wide)] at read
  exact Address.toNatInj read

theorem bytes32Hash (h : Hash) : (AbiValue.bytes32 h.toBytes).encode = h.toBytes := by
  rw [AbiValue.encode, List.take_left' (Hash.lengthToBytes h)]

namespace UserOperation

def packWords (op : UserOperation) : List (List UInt8) :=
  [Abi.word op.sender.toNat, Abi.word (op.nonce.getD 0), (Hash.keccak op.initCode).toBytes,
    (Hash.keccak (op.callData.getD [])).toBytes, Abi.word (op.callGasLimit.getD 0),
    Abi.word (op.verificationGasLimit.getD 0), Abi.word (op.preVerificationGas.getD 0),
    Abi.word (op.maxFeePerGas.getD 0), Abi.word (op.maxPriorityFeePerGas.getD 0),
    (Hash.keccak op.paymasterAndData).toBytes]

theorem packFlatten (op : UserOperation) : op.pack = op.packWords.flatten := by
  rw [pack, AbiValue.encodeStaticTuple _ (by simp [AbiValue.isDynamic])]
  simp only [List.map_cons, List.map_nil, bytes32Hash]
  rfl

theorem packWordsInj {op op' : UserOperation} (same : op.pack = op'.pack) : op.packWords = op'.packWords := by
  have wide : ∀ o : UserOperation, ∀ x ∈ o.packWords, x.length = 32 := fun o => by
    simp [packWords, Abi.wordLength, Hash.lengthToBytes]
  rw [packFlatten, packFlatten] at same
  exact Abi.flattenWordsInj (wide op) (wide op') (by simp [packWords]) same

end UserOperation

namespace OpHasher
variable {σ : Type}

theorem callDataOfPackWords {op op' : UserOperation} (same : op.packWords = op'.packWords)
    (initCode : Hash.keccak op.initCode = Hash.keccak op'.initCode → op.initCode = op'.initCode)
    (callData : Hash.keccak (op.callData.getD []) = Hash.keccak (op'.callData.getD []) →
      op.callData.getD [] = op'.callData.getD [])
    (paymasterAndData : Hash.keccak op.paymasterAndData = Hash.keccak op'.paymasterAndData →
      op.paymasterAndData = op'.paymasterAndData)
    (signature : op.signature = op'.signature) :
    OpHasher.callData op = OpHasher.callData op' := by
  simp only [UserOperation.packWords, List.cons.injEq] at same
  obtain ⟨sender, nonce, inits, calls, callGas, verificationGas, preVerificationGas, maxFee, maxPriorityFee,
    paymasters, -⟩ := same
  have senders := Address.wordInj sender
  have initCodes := initCode (Hash.toBytesInj inits)
  have callDatas := callData (Hash.toBytesInj calls)
  have paymasterAndDatas := paymasterAndData (Hash.toBytesInj paymasters)
  have tuple : op.toAbi.isDynamic = op'.toAbi.isDynamic ∧ op.toAbi.encode = op'.toAbi.encode := by
    unfold UserOperation.toAbi
    apply AbiValue.tupleAlike
    simp [AbiValue.isDynamic, AbiValue.encode, senders, nonce, initCodes, callDatas, callGas, verificationGas,
      preVerificationGas, maxFee, maxPriorityFee, paymasterAndDatas, signature]
  have args := @AbiValue.tupleAlike [op.toAbi] [op'.toAbi] (by simp [tuple.1, tuple.2])
  rw [OpHasher.callData, OpHasher.callData, Abi.call, Abi.call, args.2]

def keyInputs (ep : Address) (op : UserOperation) : List (List UInt8) :=
  [ep.toBytes ++ op.pack, op.initCode, op.callData.getD [], op.paymasterAndData]

theorem keyInputsSignature (ep : Address) (op : UserOperation) (sig : Option (List UInt8)) :
    keyInputs ep { op with signature := sig } = keyInputs ep op := rfl

theorem sameKeySameCall {ep ep' : Address} {op op' : UserOperation}
    (separates : ∀ p ∈ (keyInputs ep op).zip (keyInputs ep' op'), Hash.keccak p.1 = Hash.keccak p.2 → p.1 = p.2)
    (same : cacheKey ep op = cacheKey ep' op') :
    ep = ep' ∧ callData op = callData { op' with signature := op.signature } := by
  simp only [keyInputs, List.zip_cons_cons, List.zip_nil_right, List.mem_cons, List.not_mem_nil, or_false,
    forall_eq_or_imp, forall_eq] at separates
  obtain ⟨whole, initCode, callData, paymasterAndData⟩ := separates
  have twenty : ep.toBytes.length = ep'.toBytes.length := by simp [Address.toBytes, Hex.lengthNatBytes]
  obtain ⟨eps, packs⟩ := List.append_inj (whole same) twenty
  exact ⟨Address.toBytesInj eps,
    callDataOfPackWords (UserOperation.packWordsInj packs) initCode callData paymasterAndData rfl⟩

def IgnoresSignature (g : Address → List UInt8 → Hash) : Prop :=
  ∀ ep op sig, g ep (callData { op with signature := sig }) = g ep (callData op)

def KeccakSeparates (asked : List (Address × UserOperation)) : Prop :=
  ∀ x ∈ asked, ∀ y ∈ asked, ∀ p ∈ (keyInputs x.1 x.2).zip (keyInputs y.1 y.2),
    Hash.keccak p.1 = Hash.keccak p.2 → p.1 = p.2

theorem KeccakSeparates.mono {asked asked' : List (Address × UserOperation)} (separates : KeccakSeparates asked')
    (sub : ∀ x ∈ asked, x ∈ asked') : KeccakSeparates asked :=
  fun x hx y hy => separates x (sub x hx) y (sub y hy)

def Remembers (g : Address → List UInt8 → Hash) (asked : List (Address × UserOperation)) (h : OpHasher) : Prop :=
  ∀ kv ∈ h.cache, ∃ x ∈ asked, kv = (cacheKey x.1 x.2,g x.1 (callData x.2))

theorem Remembers.mono {g : Address → List UInt8 → Hash} {asked asked' : List (Address × UserOperation)}
    {h : OpHasher} (remembers : Remembers g asked h) (sub : ∀ x ∈ asked, x ∈ asked') : Remembers g asked' h :=
  fun kv mem => (remembers kv mem).imp fun x found => ⟨sub x found.1,found.2⟩

theorem Remembers.answer {g : Address → List UInt8 → Hash} (ignores : IgnoresSignature g)
    {asked : List (Address × UserOperation)} (separates : KeccakSeparates asked) {h : OpHasher}
    (remembers : Remembers g asked h) {ep : Address} {op : UserOperation} (mem : (ep,op) ∈ asked) {v : Hash}
    (found : h.cache.lookup (cacheKey ep op) = some v) : v = g ep (callData op) := by
  obtain ⟨before,after,split,-⟩ := List.lookup_eq_some_iff.mp found
  obtain ⟨⟨ep',op'⟩,asked',entry⟩ := remembers (cacheKey ep op,v) (by rw [split]; simp)
  simp only [Prod.mk.injEq] at entry
  obtain ⟨sameEp,sameCall⟩ : ep = ep' ∧ callData op = callData { op' with signature := op.signature } :=
    sameKeySameCall (separates (ep,op) mem (ep',op') asked') entry.1
  rw [entry.2, ← sameEp, ← ignores ep op' op.signature, ← sameCall]

theorem computeNil (c : Contract.Caller (StateM σ)) (ep : Address) (h : OpHasher) (i : Nat) (τ : σ) :
    (compute c ep h i []).run τ = ((h,.ok []),τ) := rfl

theorem computeHit (c : Contract.Caller (StateM σ)) (ep : Address) (h : OpHasher) (i : Nat) (op : UserOperation)
    (rest : List UserOperation) (τ : σ) {v : Hash} (found : h.cache.lookup (cacheKey ep op) = some v) :
    (compute c ep h i (op :: rest)).run τ =
      ((((compute c ep h (i + 1) rest).run τ).1.1,((compute c ep h (i + 1) rest).run τ).1.2.map (v :: ·)),
        ((compute c ep h (i + 1) rest).run τ).2) := by
  simp only [compute, found]
  rfl

theorem computeMiss (c : Contract.Caller (StateM σ)) (ep : Address) (h : OpHasher) (i : Nat) (op : UserOperation)
    (rest : List UserOperation) (τ : σ) (found : h.cache.lookup (cacheKey ep op) = none) :
    (compute c ep h i (op :: rest)).run τ =
      match (Contract.boundCall c ep (callData op)).run τ with
      | (.error e,τ') => ((h,.error (e.wrap ("getUserOpHash for op " ++ toString i))),τ')
      | (.ok out,τ') =>
        let r := (compute c ep { cache := (cacheKey ep op,Hash.ofBytes (out.take 32)) :: h.cache } (i + 1) rest).run τ'
        ((r.1.1,r.1.2.map (Hash.ofBytes (out.take 32) :: ·)),r.2) := by
  simp only [compute, found, StateT.run_bind]
  generalize (Contract.boundCall c ep (callData op)).run τ = called
  obtain ⟨_ | out,τ'⟩ := called <;> rfl

theorem boundCallAnswer {c : Contract.Caller (StateM σ)} {target : Address} {data out : List UInt8} {τ τ' : σ}
    (ok : (Contract.boundCall c target data).run τ = (.ok out,τ')) : ((c.call target data).run τ).1 = .ok out := by
  simp only [Contract.boundCall, StateT.run_bind] at ok
  generalize (c.call target data).run τ = called at ok ⊢
  obtain ⟨_ | answer,τ1⟩ := called
  · cases ok
  · -- an empty or ragged answer is refused, whatever the code lookup says
    simp only [bind] at ok
    split at ok
    · simp only [StateT.run, StateT.bind, bind] at ok
      generalize c.code target τ1 = looked at ok
      obtain ⟨_ | code,τ2⟩ := looked
      · cases ok
      · simp only at ok
        split at ok <;> cases ok
    · split at ok
      · cases ok
      · cases ok
        rfl

inductive Requests (c : Contract.Caller (StateM σ)) :
    List (Address × List UserOperation × Except Fault (List Hash)) → OpHasher → σ → Prop
  | start (τ : σ) : Requests c [] {} τ
  | evict {reqs h τ} (run : Requests c reqs h τ) (h' : OpHasher) (τ' : σ) (kept : ∀ kv ∈ h'.cache, kv ∈ h.cache) :
      Requests c reqs h' τ'
  | request {reqs h τ} (run : Requests c reqs h τ) (ep : Address) (ops : List UserOperation) :
      Requests c (reqs ++ [(ep,ops,((compute c ep h 0 ops).run τ).1.2)]) ((compute c ep h 0 ops).run τ).1.1
        ((compute c ep h 0 ops).run τ).2

def asked (reqs : List (Address × List UserOperation × Except Fault (List Hash))) : List (Address × UserOperation) :=
  reqs.flatMap fun r => r.2.1.map (r.1,·)

theorem mapConsOk {r : Except Fault (List Hash)} {v : Hash} {hs : List Hash} (ok : r.map (v :: ·) = .ok hs) :
    ∃ rest, r = .ok rest ∧ hs = v :: rest := by
  cases r with
  | error e => cases ok
  | ok rest => exact ⟨rest,rfl,by simpa [Except.map] using ok.symm⟩

section Answers
variable {c : Contract.Caller (StateM σ)} {g : Address → List UInt8 → Hash}
  (answers : ∀ ep data τ out, ((c.call ep data).run τ).1 = .ok out → out.take 32 = (g ep data).toBytes)
  (ignores : IgnoresSignature g)
include answers ignores

theorem computeAnswers {asked : List (Address × UserOperation)} (separates : KeccakSeparates asked) (ep : Address)
    (ops : List UserOperation) (mem : ∀ op ∈ ops, (ep,op) ∈ asked) (h : OpHasher) (i : Nat) (τ : σ)
    (remembers : Remembers g asked h) :
    Remembers g asked ((compute c ep h i ops).run τ).1.1 ∧
      ∀ hs, ((compute c ep h i ops).run τ).1.2 = .ok hs → hs = ops.map fun op => g ep (callData op) := by
  induction ops generalizing h i τ with
  | nil =>
    rw [computeNil]
    exact ⟨remembers,fun hs ok => by cases ok; rfl⟩
  | cons op rest ih =>
    have asked' : (ep,op) ∈ asked := mem op (List.mem_cons_self ..)
    have later := fun op' (inRest : op' ∈ rest) => mem op' (List.mem_cons_of_mem _ inRest)
    cases found : h.cache.lookup (cacheKey ep op) with
    | some v =>
      have hit := remembers.answer ignores separates asked' found
      obtain ⟨kept,returned⟩ := ih later h (i + 1) τ remembers
      rw [computeHit c ep h i op rest τ found]
      refine ⟨kept,fun hs ok => ?_⟩
      obtain ⟨more,restOk,rfl⟩ := mapConsOk ok
      rw [hit, returned more restOk, List.map_cons]
    | none =>
      rw [computeMiss c ep h i op rest τ found]
      generalize called : (Contract.boundCall c ep (callData op)).run τ = result
      obtain ⟨_ | out,τ'⟩ := result
      · exact ⟨remembers,fun hs ok => by cases ok⟩
      ·
        have answer : Hash.ofBytes (out.take 32) = g ep (callData op) := by
          rw [answers ep (callData op) τ out (boundCallAnswer called), Hash.ofBytesToBytes]
        have remembers' : Remembers g asked { cache := (cacheKey ep op,Hash.ofBytes (out.take 32)) :: h.cache } := by
          intro kv kvMem
          rcases List.mem_cons.mp kvMem with rfl | old
          · exact ⟨(ep,op),asked',by rw [answer]⟩
          · exact remembers kv old
        obtain ⟨kept,returned⟩ := ih later _ (i + 1) τ' remembers'
        refine ⟨kept,fun hs ok => ?_⟩
        obtain ⟨more,restOk,rfl⟩ := mapConsOk ok
        rw [answer, returned more restOk, List.map_cons]

theorem Requests.sound {reqs : List (Address × List UserOperation × Except Fault (List Hash))} {h : OpHasher}
    {τ : σ} (run : Requests c reqs h τ) (separates : KeccakSeparates (asked reqs)) :
    Remembers g (asked reqs) h ∧ ∀ r ∈ reqs, ∀ hs, r.2.2 = .ok hs → hs = r.2.1.map fun op => g r.1 (callData op) := by
  induction run with
  | start τ => refine ⟨fun kv mem => ?_,fun r mem => ?_⟩ <;> cases mem
  | evict _ h' τ' kept ih =>
    obtain ⟨remembers,returned⟩ := ih separates
    exact ⟨fun kv mem => remembers kv (kept kv mem),returned⟩
  | @request reqs h τ _ ep ops ih =>
    have grown : ∀ x ∈ asked reqs, x ∈ asked (reqs ++ [(ep,ops,((compute c ep h 0 ops).run τ).1.2)]) := by
      intro x mem
      simp only [asked, List.flatMap_append, List.mem_append]
      exact Or.inl mem
    have now : ∀ op ∈ ops, (ep,op) ∈ asked (reqs ++ [(ep,ops,((compute c ep h 0 ops).run τ).1.2)]) := by
      intro op mem
      simp [asked, mem]
    obtain ⟨remembers,returned⟩ := ih (separates.mono grown)
    obtain ⟨kept,answered⟩ := computeAnswers answers ignores separates ep ops now h 0 τ (remembers.mono grown)
    refine ⟨kept,fun r mem hs ok => ?_⟩
    rcases List.mem_append.mp mem with old | new
    · exact returned r old hs ok
    · rw [List.mem_singleton] at new
      subst new
      exact answered hs ok

/-- Over any history of requests to any entry points, with the cache losing any entries between
them, every hash a request returns is `g`'s answer for its operation at its entry point: the
contract's own answer, the one an uncached call returns. -/
theorem cachedHashesAreContractAnswers {reqs : List (Address × List UserOperation × Except Fault (List Hash))}
    {h : OpHasher} {τ : σ} (run : Requests c reqs h τ) (separates : KeccakSeparates (asked reqs)) :
    ∀ r ∈ reqs, ∀ hs, r.2.2 = .ok hs → hs = r.2.1.map fun op => g r.1 (callData op) :=
  (run.sound answers ignores separates).2

end Answers

theorem cachedHashesOnResignedOperation :
    let g : Address → List UInt8 → Hash := fun ep _ => Hash.ofNat ep.toNat
    let c : Contract.Caller (StateM Unit) := ⟨fun ep data => pure (.ok (g ep data).toBytes),fun _ => pure (.ok [])⟩
    let op : UserOperation := { sender := .ofNat 16, nonce := some 0, signature := some [1] }
    let op' : UserOperation := { op with signature := some [2] }
    (∀ ep data τ out, ((c.call ep data).run τ).1 = .ok out → out.take 32 = (g ep data).toBytes) ∧
      IgnoresSignature g ∧
      ∃ reqs h τ, Requests c reqs h τ ∧
        reqs.map (fun r => (r.1,r.2.1)) = [(defaultEntryPoint,[op]),(defaultEntryPoint,[op'])] ∧
        KeccakSeparates (asked reqs) ∧ ∀ r ∈ reqs, ∀ hs, r.2.2 = .ok hs → hs = r.2.1.map fun op => g r.1 (callData op) := by
  intro g c op op'
  have answers : ∀ ep data τ out, ((c.call ep data).run τ).1 = .ok out → out.take 32 = (g ep data).toBytes := by
    intro ep data τ out ok
    cases ok
    exact List.take_of_length_le (by simp [Hash.lengthToBytes])
  have ignores : IgnoresSignature g := fun _ _ _ => rfl
  have run := ((@Requests.start Unit c ()).request defaultEntryPoint [op]).request defaultEntryPoint [op']
  refine ⟨answers,ignores,_,_,_,run,rfl,
    (fun separates => ⟨separates,cachedHashesAreContractAnswers answers ignores run separates⟩) ?_⟩
  -- both operations key the same inputs, the packing leaving the signature out
  have same : ∀ x ∈ [(defaultEntryPoint,op),(defaultEntryPoint,op')], keyInputs x.1 x.2 = keyInputs defaultEntryPoint op := by
    intro x mem
    simp only [List.mem_cons, List.not_mem_nil, or_false] at mem
    rcases mem with rfl | rfl
    · rfl
    · exact keyInputsSignature defaultEntryPoint op (some [2])
  intro x hx y hy p hp _
  simp only [asked, List.nil_append, List.cons_append, List.flatMap_cons, List.flatMap_nil, List.map_cons,
    List.map_nil, List.append_nil] at hx hy
  rw [same x hx, same y hy] at hp
  simp only [List.zip, List.zipWith_self, List.mem_map] at hp
  obtain ⟨a,-,rfl⟩ := hp
  rfl

end OpHasher

end Erc4337
