import Batchit.Instructions.BeginLaunch
import Batchit.Instructions.Claim
import Batchit.Instructions.ClosePool
import Batchit.Instructions.CompleteBuy
import Batchit.Instructions.Contribute
import Batchit.Instructions.CreatePool
import Batchit.Instructions.Finalize
import Batchit.Instructions.MarkRefundable
import Batchit.Instructions.Refund
import Batchit.Lib.Machine

/-! The system as one machine: the program's nine instructions among everyone else's. -/

namespace Batchit

/-- The two directions of a trade on a bonding curve. -/
inductive Side where
  | buy
  | sell
  deriving DecidableEq, Repr

/--
Everything that can change the accounts: calls into the program, and the rest of the chain.

The tokens and the fees of a trade, the supply written in a mint, and the rent of accounts that others open or close, are instructions of their own.
-/
inductive Instruction where
  | createPool (accounts : CreatePoolAccounts) (args : CreatePoolArgs)
  | contribute (accounts : ContributeAccounts) (amount : UInt64)
  | beginLaunch (accounts : BeginLaunchAccounts) (mint : Pubkey)
  | completeBuy (accounts : CompleteBuyAccounts) (minTokensOut : UInt64)
  | finalize (accounts : FinalizeAccounts)
  | claim (accounts : ClaimAccounts)
  | refund (accounts : RefundAccounts)
  | markRefundable (accounts : MarkRefundableAccounts)
  | closePool (accounts : ClosePoolAccounts)
  /-- Lamports sent by anyone to any account. -/
  | systemTransfer (source target : Pubkey) (amount : UInt64)
  /-- A token instruction sent by anyone. -/
  | token (instruction : TokenInstruction)
  /-- Another program writing an account of its own. -/
  | writeAccount (address : Pubkey) (info : AccountInfo)
  /-- A coin created on pump, its curve holding the given bytes. -/
  | pumpCreate (mint : Pubkey) (data : List UInt8)
  /-- A third party's trade on a curve for so many lamports, leaving it with the given bytes. -/
  | pumpTrade (side : Side) (trader mint : Pubkey) (amount : UInt64) (data : List UInt8)
  deriving DecidableEq, Repr

/-- An instruction and the clock it executes under. -/
structure Action where
  now : Int64
  instruction : Instruction
  deriving DecidableEq, Repr

/-- The account that pays in a trade on a coin's curve. -/
def Side.payer (side : Side) (trader mint : Pubkey) : Pubkey :=
  match side with
  | .buy => trader
  | .sell => bondingCurvePda mint

/-- The account that is paid in a trade on a coin's curve. -/
def Side.payee (side : Side) (trader mint : Pubkey) : Pubkey :=
  match side with
  | .buy => bondingCurvePda mint
  | .sell => trader

/-- What one action does to the accounts, or why it is refused. -/
def step (env : Env) (world : World) (action : Action) : Except Error World :=
  match action.instruction with
  | .createPool accounts args => createPool env world action.now accounts args
  | .contribute accounts amount => contribute env world action.now accounts amount
  | .beginLaunch accounts mint => beginLaunch env world action.now accounts mint
  | .completeBuy accounts minTokensOut => completeBuy env world action.now accounts minTokensOut
  | .finalize accounts => finalize env world accounts
  | .claim accounts => claim env world accounts
  | .refund accounts => refund env world action.now accounts
  | .markRefundable accounts => markRefundable env world action.now accounts
  | .closePool accounts => closePool env world accounts
  | .systemTransfer source target amount => do
    -- The source signs, and the program lends its signature to no transfer but its own.
    constraint (source.isProgramDerived = false) .MissingRequiredSignature
    constraint (source ≠ target) .AccountAlreadyInUse
    world.systemTransfer source target amount
  | .token instruction => do
    let tokens ← world.tokens.process instruction
    return world.setTokens tokens
  | .writeAccount address info => do
    -- Neither an account derived from seeds nor one of pump's is any other program's to write.
    constraint (address.isPlain = true) .AccountNotWritable
    constraint ((world.info address).owner ≠ PUMP_PROGRAM_ID ∧ info.owner ≠ PUMP_PROGRAM_ID)
      .AccountNotWritable
    return world.setInfo address info
  | .pumpCreate mint data => do
    constraint ((world.info (bondingCurvePda mint)).data = [] ∧ data ≠ []) .AccountAlreadyInUse
    return world.setInfo (bondingCurvePda mint) { owner := PUMP_PROGRAM_ID, data }
  | .pumpTrade side trader mint amount data => do
    -- A trade needs a curve that has landed, and leaves it with new bytes.
    constraint ((world.info (bondingCurvePda mint)).owner = PUMP_PROGRAM_ID ∧
      (world.info (bondingCurvePda mint)).data ≠ [] ∧ data ≠ []) .AccountNotInitialized
    constraint (trader.isProgramDerived = false) .MissingRequiredSignature
    constraint (trader ≠ bondingCurvePda mint) .AccountAlreadyInUse
    let paid ← world.systemTransfer (side.payer trader mint) (side.payee trader mint) amount
    return paid.setInfo (bondingCurvePda mint) { owner := PUMP_PROGRAM_ID, data }

/-- Neither side of a trade is an account this program derives. -/
theorem Side.foreign {trader : Pubkey} (side : Side) (mint : Pubkey)
    (signs : trader.isProgramDerived = false) :
    (side.payer trader mint).isProgramDerived = false ∧
      (side.payee trader mint).isProgramDerived = false := by
  -- One side is the trader, and the other the curve.
  cases side with
  | buy => exact ⟨signs, rfl⟩
  | sell => exact ⟨rfl, signs⟩

/-- A trade moves lamports between its trader and a curve that has landed, and writes the curve. -/
theorem pumpTrade_ok {env : Env} {world after : World} {now : Int64} {side : Side}
    {trader mint : Pubkey} {amount : UInt64} {data : List UInt8}
    (taken : step env world ⟨now, .pumpTrade side trader mint amount data⟩ = .ok after) :
    ∃ paid, (world.info (bondingCurvePda mint)).data ≠ [] ∧ data ≠ [] ∧
      trader.isProgramDerived = false ∧ side.payer trader mint ≠ side.payee trader mint ∧
      world.systemTransfer (side.payer trader mint) (side.payee trader mint) amount = .ok paid ∧
      after = paid.setInfo (bondingCurvePda mint) { owner := PUMP_PROGRAM_ID, data } := by
  simp only [step, bind_eq_ok, constraint_eq_ok, exists_const, pure_eq_ok] at taken
  obtain ⟨⟨-, landed, named⟩, signs, differ, paid, transferred, rfl⟩ := taken
  refine ⟨paid, landed, named, signs, ?_, transferred, rfl⟩
  -- Whichever of the two pays, it pays the other.
  cases side with
  | buy => exact differ
  | sell => exact differ.symm

/-- One recorded step of the system. -/
abbrev Transition := Machine.Transition World Action

/-- The runs of the system from a state, newest step first. -/
abbrev Run (env : Env) (start : World) : List Transition → World → Prop :=
  Machine.Run (step env) start

/-- A chain the program has not been used on, its mints within their 64-bit supplies. -/
structure Genesis (world : World) : Prop where
  noPools : ∀ address, world.pools address = none
  noContributions : world.contributions = ∅
  supply : ∀ mint, world.tokens.supply mint < 2 ^ 64

end Batchit
