import Batchit.Properties.Lifecycle
import Batchit.Tests.Builders

/-! The tests' two clients: what they build is the call they mean, and reaches its handler. -/

namespace Batchit

open Localnet

/-- A call that a client asks for, before any of its numbers is checked. -/
inductive Request where
  | createPool (params : CreatePoolParams)
  | contribute (params : ContributeParams)
  | beginLaunch (params : BeginLaunchParams)
  | markRefundable (params : MarkRefundableParams)
  | refund (params : RefundParams)
  | completeBuy (params : CompleteBuyParams)
  deriving DecidableEq, Repr

namespace Request

section Build

variable (addressing : Addressing) (getAssociatedTokenAddressSync : (mint owner : Pubkey) → Pubkey)

/-- What the client sends, unless it throws. -/
def build : Request → Option TransactionInstruction
  | createPool params => createPoolIx params
  | contribute params => contributeIx params
  | beginLaunch params => beginLaunchIx addressing params
  | markRefundable params => markRefundableIx params
  | refund params => refundIx params
  | completeBuy params => completeBuyIx getAssociatedTokenAddressSync params

/-- The call that is meant, if every number in it is a word. -/
def instruction : Request → Option Instruction
  | createPool params => do
    let seed ← wordOf params.seed
    let launchAt ← signedOf params.launchAt
    let graceSecs ← signedOf params.graceSecs
    let minRaiseLamports ← wordOf params.minRaise
    let maxPoolLamports ← wordOf params.maxPool
    let minContributionLamports ← wordOf params.minContribution
    let pool := Pubkey.pool params.creator seed
    return .createPool { creator := params.creator, pool, buyer := .buyer pool }
      { seed, launchAt, graceSecs, minRaiseLamports, maxPoolLamports, minContributionLamports }
  | contribute params => do
    let seed ← wordOf params.seed
    let amount ← wordOf params.amount
    let pool := Pubkey.pool params.creator seed
    let contribution := Pubkey.contribution pool params.contributor
    return .contribute { contributor := params.contributor, pool, contribution } amount
  | beginLaunch params => do
    let seed ← wordOf params.seed
    return .beginLaunch { caller := params.caller, pool := .pool params.creator seed } params.mint
  | markRefundable params => do
    let seed ← wordOf params.seed
    return .markRefundable { caller := params.caller, pool := .pool params.creator seed }
  | refund params => do
    let seed ← wordOf params.seed
    let pool := Pubkey.pool params.creator seed
    let contribution := Pubkey.contribution pool params.contributor
    return .refund { contributor := params.contributor, pool, contribution }
  | completeBuy params => do
    let seed ← wordOf params.seed
    let minTokensOut ← wordOf (params.minTokensOut.getD 1)
    let pool := Pubkey.pool params.creator seed
    let buyer := Pubkey.buyer pool
    let bondingCurve := bondingCurvePda params.mint
    return .completeBuy {
      caller := params.caller
      pool
      buyer
      mint := params.mint
      global := globalPda
      feeRecipient := params.feeRecipient
      bondingCurve
      associatedBondingCurve := getAssociatedTokenAddressSync params.mint bondingCurve
      associatedUser := getAssociatedTokenAddressSync params.mint buyer
      creatorVault := creatorVaultPda buyer
      eventAuthority := eventAuthorityPda
      pumpProgram := PUMP_PROGRAM_ID
      globalVolumeAccumulator := globalVolumeAccumulatorPda
      userVolumeAccumulator := userVolumeAccumulatorPda buyer
      feeConfig := feeConfigPda
      feeProgram := PUMP_FEE_PROGRAM_ID
      bondingCurveV2 := bondingCurveV2Pda params.mint
      buybackFeeRecipient := params.buybackFeeRecipient } minTokensOut

end Build

end Request

/-- The pool's address comes from the word of its seed. -/
theorem poolPda_eq (creator : Pubkey) (seed : Int) :
    poolPda creator seed = (wordOf seed).map (Pubkey.pool creator) := by
  unfold poolPda
  rw [Buffer.writeBigUInt64LE_front seed 0]
  cases wordOf seed with
  | none => rfl
  | some word =>
    -- The buffer holds the word, and nothing behind it.
    have read : Bytes.number (Borsh.u64 word ++ Buffer.alloc 0) = word.toNat := by
      rw [Buffer.alloc, List.replicate_zero, List.append_nil, Borsh.u64,
        Bytes.number_ofNumber_of_lt word.toNat_lt]
    simp only [Option.map_some, Option.bind_eq_bind, Option.bind_some, Option.pure_def, read,
      UInt64.ofNat_toNat]

section Build

variable {addressing : Addressing}
  {getAssociatedTokenAddressSync : (mint owner : Pubkey) → Pubkey}

/-- What the client writes at offsets for `create_pool` is the call's own carrier. -/
theorem createPoolIx_eq (params : CreatePoolParams) : createPoolIx params =
    ((Request.createPool params).instruction getAssociatedTokenAddressSync).bind
      (Instruction.carrier addressing) := by
  have front := Buffer.copy_front (disc "create_pool") 48
  rw [length_disc] at front
  simp only [createPoolIx, poolPda_eq, Request.instruction, front, Option.bind_eq_bind,
    Option.bind_map, Option.bind_assoc, Function.comp_def]
  refine Option.bind_congr fun seed word => ?_
  rw [Buffer.writeBigUInt64LE_behind (length_disc _) _ 40, word, Option.map_some, Option.bind_some]
  -- Behind the seed every number is written where the one before it ends.
  refine Buffer.writeBigInt64LE_bind (by simp) fun launchAt => ?_
  refine Buffer.writeBigInt64LE_bind (by simp) fun graceSecs => ?_
  refine Buffer.writeBigUInt64LE_bind (by simp) fun minRaiseLamports => ?_
  refine Buffer.writeBigUInt64LE_bind (by simp) fun maxPoolLamports => ?_
  refine Buffer.writeBigUInt64LE_bind (by simp) fun minContributionLamports => ?_
  rw [Buffer.alloc, List.replicate_zero, List.append_nil]
  simp only [List.append_assoc]
  rfl

/-- What the client writes at offsets for `contribute` is the call's own carrier. -/
theorem contributeIx_eq (params : ContributeParams) : contributeIx params =
    ((Request.contribute params).instruction getAssociatedTokenAddressSync).bind
      (Instruction.carrier addressing) := by
  have front := Buffer.copy_front (disc "contribute") 8
  rw [length_disc] at front
  simp only [contributeIx, poolPda_eq, Request.instruction, front, Option.bind_eq_bind,
    Option.bind_map, Option.bind_assoc, Function.comp_def]
  -- The pool comes from the seed, and the one word stands behind the discriminator.
  refine Option.bind_congr fun seed _ => ?_
  refine Buffer.writeBigUInt64LE_bind (length_disc _) fun amount => ?_
  rw [Buffer.alloc, List.replicate_zero, List.append_nil]
  rfl

/-- What the client writes at offsets for `begin_launch` is the call's own carrier. -/
theorem beginLaunchIx_eq (params : BeginLaunchParams) : beginLaunchIx addressing params =
    ((Request.beginLaunch params).instruction getAssociatedTokenAddressSync).bind
      (Instruction.carrier addressing) := by
  have front := Buffer.copy_front (disc "begin_launch") 32
  have behind := Buffer.copy_behind (length_disc "begin_launch")
    (addressing.address params.mint).toList 0
  rw [length_disc] at front
  rw [List.Vector.toList_length] at behind
  simp only [beginLaunchIx, poolPda_eq, Request.instruction, front, Option.bind_eq_bind,
    Option.bind_map, Option.bind_assoc, Function.comp_def]
  -- The pool comes from the seed, and the key stands behind the discriminator.
  refine Option.bind_congr fun seed _ => ?_
  rw [behind, Buffer.alloc, List.replicate_zero, List.append_nil]
  rfl

/-- What the client writes at offsets for `mark_refundable` is the call's own carrier. -/
theorem markRefundableIx_eq (params : MarkRefundableParams) : markRefundableIx params =
    ((Request.markRefundable params).instruction getAssociatedTokenAddressSync).bind
      (Instruction.carrier addressing) := by
  simp only [markRefundableIx, poolPda_eq, Request.instruction, Option.bind_eq_bind,
    Option.bind_map, Option.bind_assoc, Function.comp_def]
  refine Option.bind_congr fun seed _ => ?_
  -- The method takes no arguments.
  rw [← List.append_nil (disc "mark_refundable")]
  rfl

/-- What the client writes at offsets for `refund` is the call's own carrier. -/
theorem refundIx_eq (params : RefundParams) : refundIx params =
    ((Request.refund params).instruction getAssociatedTokenAddressSync).bind
      (Instruction.carrier addressing) := by
  simp only [refundIx, poolPda_eq, Request.instruction, Option.bind_eq_bind,
    Option.bind_map, Option.bind_assoc, Function.comp_def]
  refine Option.bind_congr fun seed _ => ?_
  -- The method takes no arguments.
  rw [← List.append_nil (disc "refund")]
  rfl

/-- What the client writes at offsets for `complete_buy` is the call's own carrier. -/
theorem completeBuyIx_eq (params : CompleteBuyParams) :
    completeBuyIx getAssociatedTokenAddressSync params =
      ((Request.completeBuy params).instruction getAssociatedTokenAddressSync).bind
        (Instruction.carrier addressing) := by
  have front := Buffer.copy_front (disc "complete_buy") 8
  rw [length_disc] at front
  simp only [completeBuyIx, poolPda_eq, Request.instruction, front, Option.bind_eq_bind,
    Option.bind_map, Option.bind_assoc, Function.comp_def]
  -- The pool comes from the seed, and the one word stands behind the discriminator.
  refine Option.bind_congr fun seed _ => ?_
  refine Buffer.writeBigUInt64LE_bind (length_disc _) fun minTokensOut => ?_
  rw [Buffer.alloc, List.replicate_zero, List.append_nil]
  rfl

/-- A client builds the instruction that carries the call it means, or throws. -/
theorem Request.build_eq (request : Request) :
    request.build addressing getAssociatedTokenAddressSync =
      (request.instruction getAssociatedTokenAddressSync).bind
        (Instruction.carrier addressing) := by
  -- Each kind of request has a lemma of its own.
  cases request with
  | createPool params => exact createPoolIx_eq params
  | contribute params => exact contributeIx_eq params
  | beginLaunch params => exact beginLaunchIx_eq params
  | markRefundable params => exact markRefundableIx_eq params
  | refund params => exact refundIx_eq params
  | completeBuy params => exact completeBuyIx_eq params

/--
An instruction with a call's own bytes and accounts is read as the call.

As the runtime hands it on, it is refused if it asks to write a reserved account.
-/
theorem dispatch_carrier (platform : Platform) {instruction : Instruction} {method : Method}
    (asked : instruction.method = some method) (known : method.Known addressing) :
    ∃ carrier, instruction.carrier addressing = some carrier ∧
      dispatch platform addressing carrier = .ok instruction ∧
      dispatch platform addressing (platform.handed carrier)
        = if platform.admits instruction then .ok instruction else .error .AccountsRefused := by
  refine ⟨_, by rw [Instruction.carrier, asked, Option.map_some],
    dispatch_of_readAs ⟨method, ?_⟩, dispatch_handed rfl asked known List.prefix_rfl rfl⟩
  -- Its accounts are the very ones asked for.
  exact {
    program := rfl
    asks := asked
    known := known
    data := List.prefix_rfl
    keys := AccountMeta.covers_self _ }

end Build

/-! ### Requests sent one after the other -/

/-- Why a request changes nothing: the client threw, or the program refused its instruction. -/
inductive SendError where
  | thrown
  | dispatch (error : DispatchError)
  | refused (error : Error)
  deriving DecidableEq, Repr

/-- A request and the clock under which its instruction executes. -/
structure TimedRequest where
  now : Int64
  request : Request
  deriving DecidableEq, Repr

section Send

variable (env : Env) (platform : Platform) (addressing : Addressing)
  (getAssociatedTokenAddressSync : (mint owner : Pubkey) → Pubkey)

/-- The instruction is built, handed on, dispatched on its bytes and accounts, and handled. -/
def send (world : World) (sent : TimedRequest) : Except SendError World :=
  match sent.request.build addressing getAssociatedTokenAddressSync with
  | none => .error .thrown
  | some carrier => match dispatch platform addressing (platform.handed carrier) with
    | .error error => .error (.dispatch error)
    | .ok instruction => (step env world ⟨sent.now, instruction⟩).mapError .refused

/-- The call that is meant is handled, if it is one and asks to write no reserved account. -/
def perform (world : World) (sent : TimedRequest) : Except SendError World :=
  match sent.request.instruction getAssociatedTokenAddressSync with
  | none => .error .thrown
  | some instruction =>
    if platform.admits instruction then
      (step env world ⟨sent.now, instruction⟩).mapError .refused
    else .error (.dispatch .AccountsRefused)

/-- The mint that a request names, if any, is read back as itself. -/
def Request.Known : Request → Prop
  | .beginLaunch params => addressing.Knows params.mint
  | _ => True

end Send

section Send

variable {env : Env} {platform : Platform} {addressing : Addressing}
  {getAssociatedTokenAddressSync : (mint owner : Pubkey) → Pubkey}

/-- A request means a method of the program, which takes no key but the mint it names. -/
theorem Request.method_of_meant {request : Request} (known : request.Known addressing)
    {instruction : Instruction}
    (meant : request.instruction getAssociatedTokenAddressSync = some instruction) :
    ∃ method, instruction.method = some method ∧ method.Known addressing := by
  -- Past the words that were checked, the call is spelled out.
  cases request <;>
    simp only [Request.instruction, Option.bind_eq_bind, Option.bind_eq_some_iff, Option.pure_def,
      Option.some.injEq] at meant
  case createPool params =>
    obtain ⟨_, _, _, _, _, _, _, _, _, _, _, _, rfl⟩ := meant
    exact ⟨_, rfl, trivial⟩
  case contribute params =>
    obtain ⟨_, _, _, _, rfl⟩ := meant
    exact ⟨_, rfl, trivial⟩
  case beginLaunch params =>
    obtain ⟨_, _, rfl⟩ := meant
    exact ⟨_, rfl, known⟩
  case markRefundable params =>
    obtain ⟨_, _, rfl⟩ := meant
    exact ⟨_, rfl, trivial⟩
  case refund params =>
    obtain ⟨_, _, rfl⟩ := meant
    exact ⟨_, rfl, trivial⟩
  case completeBuy params =>
    obtain ⟨_, _, _, _, rfl⟩ := meant
    exact ⟨_, rfl, trivial⟩

/-- A request that names no unknown mint is handled as the call it means. -/
theorem send_eq_perform {sent : TimedRequest} (known : sent.request.Known addressing)
    (world : World) :
    send env platform addressing getAssociatedTokenAddressSync world sent
      = perform env platform getAssociatedTokenAddressSync world sent := by
  unfold send perform
  rw [sent.request.build_eq]
  cases meant : sent.request.instruction getAssociatedTokenAddressSync with
  | none => rfl
  | some instruction =>
    obtain ⟨method, asked, taken⟩ := Request.method_of_meant known meant
    obtain ⟨carrier, carried, -, dispatched⟩ := dispatch_carrier platform asked taken
    simp only [Option.bind_some, carried, dispatched]
    -- The accounts are refused in dispatch or the call is handled, on both sides alike.
    cases platform.admits instruction <;> rfl

/--
Requests sent as bytes do what the calls they mean do, one after the other.

No number is written at a wrong place or width, and no account in a wrong order.
-/
theorem requests_performed (world : World) (requests : List TimedRequest)
    (known : ∀ sent ∈ requests, sent.request.Known addressing) :
    Machine.exec (send env platform addressing getAssociatedTokenAddressSync) world requests
      = Machine.exec (perform env platform getAssociatedTokenAddressSync) world requests := by
  induction requests generalizing world with
  | nil => rfl
  | cons sent rest ih =>
    rw [Machine.exec, Machine.exec, send_eq_perform (known sent List.mem_cons_self) world]
    -- The rest starts from whatever state the first request leaves.
    cases perform env platform getAssociatedTokenAddressSync world sent with
    | error refusal => rfl
    | ok next => exact ih next fun other member => known other (List.mem_cons_of_mem _ member)

end Send

namespace Sample

/-- The sample keys, each read back from its own number. -/
def addressing : Addressing where
  address := encoding.address
  resolve bytes := .key (Bytes.number bytes.toList.reverse)
  address_resolve bytes := by
    have back := Bytes.ofNumber_number bytes.toList.reverse
    rw [List.length_reverse, bytes.toList_length] at back
    apply List.Vector.eq
    change (Bytes.ofNumber 32 _).reverse = bytes.toList
    rw [back, List.reverse_reverse]

/-- A platform that reserves the System Program's key alone, and tags events alone. -/
def platform : Platform where
  otherReserved _ := false
  otherTags := []

/-- A pool is asked for and contributed to, and launched when its time has come. -/
def requests : List TimedRequest := [
  ⟨0, .createPool {
    creator
    seed := 7
    launchAt := 100
    graceSecs := 50
    minRaise := 1000000000
    maxPool := 10000000000
    minContribution := 100000000 }⟩,
  ⟨10, .contribute { contributor := alice, creator, seed := 7, amount := 2000000000 }⟩,
  ⟨100, .beginLaunch { caller := bob, creator, seed := 7, mint }⟩]

end Sample

/-- The sample requests are carried out, sent as bytes. -/
theorem requests_performed_sample :
    (Machine.exec (send Sample.env Sample.platform Sample.addressing fun _ _ => Sample.vault)
      Sample.start Sample.requests).isOk = true := by
  have read : Sample.addressing.Knows Sample.mint := by
    change Pubkey.key _ = _
    decide +kernel
  -- Sent as bytes they do what is meant, and what is meant is executed.
  rw [requests_performed Sample.start Sample.requests]
  · decide +kernel
  · simp only [Sample.requests, List.forall_mem_cons]
    exact ⟨trivial, trivial, read, nofun⟩

/-! ### The two clients -/

/-- The number of a word is that word. -/
theorem wordOf_toNat (word : UInt64) : wordOf word.toNat = some word := by
  have small := word.toNat_lt
  rw [wordOf, if_pos (by omega), Int.toNat_natCast, UInt64.ofNat_toNat]

/-- The number of a signed word is that word. -/
theorem signedOf_toInt (word : Int64) : signedOf word.toInt = some word := by
  have low := word.le_toInt
  have high := word.toInt_lt
  rw [signedOf, if_pos ⟨low, high⟩, Int64.ofInt_toInt]

section Agree

variable {addressing : Addressing}
  {getAssociatedTokenAddressSync : (mint owner : Pubkey) → Pubkey}

/-- Both clients send one instruction for one set of words. -/
theorem createPoolIx_agree (creator : Pubkey) (seed : UInt64) (launchAt graceSecs : Int64)
    (minRaise maxPool minC : UInt64) :
    (Request.createPool {
      creator
      seed := seed.toNat
      launchAt := launchAt.toInt
      graceSecs := graceSecs.toInt
      minRaise := minRaise.toNat
      maxPool := maxPool.toNat
      minContribution := minC.toNat }).build addressing getAssociatedTokenAddressSync
      = some (PlMatrix.createPoolIx creator seed launchAt graceSecs minRaise maxPool minC) := by
  rw [Request.build_eq]
  -- In range, the numbers are the words that the other client is given.
  simp only [Request.instruction, wordOf_toNat, signedOf_toInt, Option.bind_eq_bind,
    Option.bind_some, PlMatrix.createPoolIx, List.append_assoc]
  rfl

/-- Both clients send one contribution for one set of words. -/
theorem contributeIx_agree (contributor creator : Pubkey) (seed amount : UInt64) :
    (Request.contribute {
      contributor
      creator
      seed := seed.toNat
      amount := amount.toNat }).build addressing getAssociatedTokenAddressSync
      = some (PlMatrix.contributeIx contributor creator seed amount) := by
  rw [Request.build_eq]
  simp only [Request.instruction, wordOf_toNat, Option.bind_eq_bind, Option.bind_some]
  rfl

/-- Both clients send one launch for one set of words. -/
theorem beginLaunchIx_agree (caller creator : Pubkey) (seed : UInt64) (mint : Pubkey) :
    (Request.beginLaunch { caller, creator, seed := seed.toNat, mint }).build addressing
      getAssociatedTokenAddressSync
      = some (PlMatrix.beginLaunchIx addressing caller creator seed mint) := by
  rw [Request.build_eq]
  simp only [Request.instruction, wordOf_toNat, Option.bind_eq_bind, Option.bind_some]
  rfl

/-- Both clients send one refund for one set of words. -/
theorem refundIx_agree (contributor creator : Pubkey) (seed : UInt64) :
    (Request.refund { contributor, creator, seed := seed.toNat }).build addressing
      getAssociatedTokenAddressSync
      = some (PlMatrix.refundIx contributor creator seed) := by
  rw [Request.build_eq, PlMatrix.refundIx, List.nil_append, ← List.append_nil (disc "refund")]
  simp only [Request.instruction, wordOf_toNat, Option.bind_eq_bind, Option.bind_some]
  rfl

/--
The buy of the Rust tests does not reach its handler.

It asks to write the System Program's account as a fee recipient, which the runtime does not grant.
-/
theorem dispatch_completeBuyMinimalIx (platform : Platform) (caller creator : Pubkey)
    (seed : UInt64) (mint bondingCurve associatedUser : Pubkey) :
    dispatch platform addressing (platform.handed
      (PlMatrix.completeBuyMinimalIx caller creator seed mint bondingCurve associatedUser))
      = .error .AccountsRefused := by
  let instruction : Instruction := .completeBuy {
    caller
    pool := .pool creator seed
    buyer := .buyer (.pool creator seed)
    mint
    global := SYSTEM_PROGRAM_ID
    feeRecipient := SYSTEM_PROGRAM_ID
    bondingCurve
    associatedBondingCurve := SYSTEM_PROGRAM_ID
    associatedUser
    creatorVault := SYSTEM_PROGRAM_ID
    eventAuthority := SYSTEM_PROGRAM_ID
    pumpProgram := PUMP_PROGRAM_ID
    globalVolumeAccumulator := SYSTEM_PROGRAM_ID
    userVolumeAccumulator := SYSTEM_PROGRAM_ID
    feeConfig := SYSTEM_PROGRAM_ID
    feeProgram := SYSTEM_PROGRAM_ID
    bondingCurveV2 := SYSTEM_PROGRAM_ID
    buybackFeeRecipient := SYSTEM_PROGRAM_ID } 1
  -- The sixth account of a buy is writable, and here it is the System Program's.
  have reserved : platform.admits instruction = false := by
    refine List.all_eq_false.mpr ⟨AccountMeta.new SYSTEM_PROGRAM_ID false, ?_, ?_⟩
    · simp [instruction, Instruction.metas, CompleteBuyAccounts.metas]
    · simp [AccountMeta.new, Platform.reserves]
  have refused := @dispatch_handed platform addressing
    (PlMatrix.completeBuyMinimalIx caller creator seed mint bondingCurve associatedUser)
    instruction (.completeBuy 1) rfl rfl trivial List.prefix_rfl rfl
  rw [refused, reserved]
  rfl

/--
The two clients send the same instructions for the same words.

Only the buys differ: the one with dummies asks to write the System Program's account, and is refused before it is handled.
-/
theorem clients_agree (platform : Platform)
    (caller creator contributor mint bondingCurve associatedUser : Pubkey)
    (seed amount minRaise maxPool minC : UInt64) (launchAt graceSecs : Int64) :
    (Request.createPool {
      creator
      seed := seed.toNat
      launchAt := launchAt.toInt
      graceSecs := graceSecs.toInt
      minRaise := minRaise.toNat
      maxPool := maxPool.toNat
      minContribution := minC.toNat }).build addressing getAssociatedTokenAddressSync
      = some (PlMatrix.createPoolIx creator seed launchAt graceSecs minRaise maxPool minC) ∧
    (Request.contribute {
      contributor
      creator
      seed := seed.toNat
      amount := amount.toNat }).build addressing getAssociatedTokenAddressSync
      = some (PlMatrix.contributeIx contributor creator seed amount) ∧
    (Request.beginLaunch { caller, creator, seed := seed.toNat, mint }).build addressing
      getAssociatedTokenAddressSync
      = some (PlMatrix.beginLaunchIx addressing caller creator seed mint) ∧
    (Request.refund { contributor, creator, seed := seed.toNat }).build addressing
      getAssociatedTokenAddressSync
      = some (PlMatrix.refundIx contributor creator seed) ∧
    dispatch platform addressing (platform.handed
      (PlMatrix.completeBuyMinimalIx caller creator seed mint bondingCurve associatedUser))
      = .error .AccountsRefused :=
  -- Each kind of instruction has a lemma of its own.
  ⟨createPoolIx_agree creator seed launchAt graceSecs minRaise maxPool minC,
    contributeIx_agree contributor creator seed amount,
    beginLaunchIx_agree caller creator seed mint,
    refundIx_agree contributor creator seed,
    dispatch_completeBuyMinimalIx platform caller creator seed mint bondingCurve associatedUser⟩

end Agree

end Batchit
