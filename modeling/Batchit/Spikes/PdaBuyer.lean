import Batchit.Tests.Builders

/-! Pump's buy as an instruction, and the two spike programs that make it as a derived address. -/

namespace Batchit

open AccountMeta

/-- The discriminator of pump's buy. -/
def BUY_EXACT_SOL_IN_DISCRIMINATOR : List UInt8 := [56, 252, 116, 8, 158, 223, 205, 95]

/-- A call into another program, and the seeds of each address it is signed for. -/
structure Invocation where
  instruction : TransactionInstruction
  signerSeeds : List (List (List UInt8))
  deriving DecidableEq, Repr

namespace BuyExactSolIn

/-- The accounts of a buy in pump's order, with the privileges asked for. -/
def metas (accounts : BuyExactSolIn) : List AccountMeta :=
  [newReadonly accounts.global false, new accounts.feeRecipient false,
    newReadonly accounts.mint false, new accounts.bondingCurve false,
    new accounts.associatedBondingCurve false, new accounts.associatedUser false,
    new accounts.user true, newReadonly accounts.systemProgram false,
    newReadonly accounts.tokenProgram false, new accounts.creatorVault false,
    newReadonly accounts.eventAuthority false, newReadonly accounts.program false,
    newReadonly accounts.globalVolumeAccumulator false,
    new accounts.userVolumeAccumulator false, newReadonly accounts.feeConfig false,
    newReadonly accounts.feeProgram false, newReadonly accounts.bondingCurveV2 false,
    new accounts.buybackFeeRecipient false]

/-- The bytes of a buy. -/
def data (spendableSolIn minTokensOut : UInt64) (trackVolume : Bool) : List UInt8 :=
  BUY_EXACT_SOL_IN_DISCRIMINATOR ++ Borsh.u64 spendableSolIn ++ Borsh.u64 minTokensOut
    ++ [if trackVolume then 1 else 0]

/-- A buy as pump receives it. -/
def instruction (accounts : BuyExactSolIn) (spendableSolIn minTokensOut : UInt64)
    (trackVolume : Bool) : TransactionInstruction where
  programId := PUMP_PROGRAM_ID
  keys := accounts.metas
  data := data spendableSolIn minTokensOut trackVolume

end BuyExactSolIn

/-- What `complete_buy` invokes, signed for the pool's buyer. -/
def cpiBuyInvocation (addressing : Addressing) (poolAddress : Pubkey) (buyerBump : UInt8)
    (accounts : BuyExactSolIn) (spendableSolIn minTokensOut : UInt64) : Invocation where
  instruction := accounts.instruction spendableSolIn minTokensOut false
  signerSeeds :=
    [["buyer".toUTF8.toList, (addressing.address poolAddress).toList, [buyerBump]]]

/-! ### The spike without Anchor -/

namespace SpikeLite

/-- Why the program refuses an instruction. -/
inductive ProgramError where
  | InvalidInstructionData
  | InvalidArgument
  | NotEnoughAccountKeys
  | MissingRequiredSignature
  | InvalidSeeds
  | IncorrectProgramId
  deriving DecidableEq, Repr

/-- The seed of the program's buyer. -/
def BUYER_SEED : List UInt8 := "buyer".toUTF8.toList

/-- A transfer by the system program: the tag of the variant, then the lamports. -/
def transfer (source target : Pubkey) (lamports : UInt64) : TransactionInstruction where
  programId := SYSTEM_PROGRAM_ID
  keys := [new source true, new target false]
  data := Borsh.u32 2 ++ Borsh.u64 lamports

section Program

variable (findProgramAddress : (seeds : List (List UInt8)) → (programId : Pubkey) → Pubkey × UInt8)
  (programId : Pubkey)

/-- The buyer is paid lamports out of an account that signs. -/
def fundBuyer (accounts : List AccountMeta) (data : List UInt8) : Except ProgramError Invocation :=
  if data.length < 8 then .error .InvalidInstructionData
  else
    let lamports := wordAt data 0
    if lamports = 0 then .error .InvalidArgument
    else match accounts with
      | payer :: buyer :: system :: _ =>
        if payer.isSigner = false then .error .MissingRequiredSignature
        else
          let (expected, _) := findProgramAddress [BUYER_SEED] programId
          if buyer.pubkey ≠ expected then .error .InvalidSeeds
          else if system.pubkey ≠ SYSTEM_PROGRAM_ID then .error .IncorrectProgramId
          else .ok { instruction := transfer payer.pubkey buyer.pubkey lamports, signerSeeds := [] }
      | _ => .error .NotEnoughAccountKeys

/-- The buyer spends lamports at pump, signed for by its seed. -/
def buyExactSolInWithPda (accounts : List AccountMeta) (data : List UInt8) :
    Except ProgramError Invocation :=
  if data.length < 17 then .error .InvalidInstructionData
  else
    let spendableSolIn := wordAt data 0
    let minTokensOut := wordAt data 8
    let trackVolume := data[16]? ≠ some 0
    if spendableSolIn = 0 then .error .InvalidArgument
    else match accounts.map pubkey with
      | buyer :: global :: feeRecipient :: mint :: bondingCurve :: associatedBondingCurve
          :: associatedUser :: creatorVault :: eventAuthority :: pumpProgram
          :: globalVolumeAccumulator :: userVolumeAccumulator :: feeConfig :: feeProgram
          :: system :: tokenProgram :: bondingCurveV2 :: buybackFeeRecipient :: _ =>
        let (expected, bump) := findProgramAddress [BUYER_SEED] programId
        if buyer ≠ expected then .error .InvalidSeeds
        else if pumpProgram ≠ PUMP_PROGRAM_ID then .error .IncorrectProgramId
        else
          let handed : BuyExactSolIn := {
            global, feeRecipient, mint, bondingCurve, associatedBondingCurve, associatedUser
            user := buyer
            systemProgram := system
            tokenProgram, creatorVault, eventAuthority
            program := pumpProgram
            globalVolumeAccumulator, userVolumeAccumulator, feeConfig, feeProgram
            bondingCurveV2, buybackFeeRecipient }
          .ok {
            instruction := handed.instruction spendableSolIn minTokensOut trackVolume
            signerSeeds := [[BUYER_SEED, [bump]]] }
      | _ => .error .NotEnoughAccountKeys

/-- The program's entry: the first byte tells the two instructions apart. -/
def processInstruction (accounts : List AccountMeta) (data : List UInt8) :
    Except ProgramError Invocation :=
  match data with
  | [] => .error .InvalidInstructionData
  | tag :: rest =>
    if tag = 0 then fundBuyer findProgramAddress programId accounts rest
    else if tag = 1 then buyExactSolInWithPda findProgramAddress programId accounts rest
    else .error .InvalidInstructionData

end Program

end SpikeLite

/-! ### The spike in Anchor -/

namespace SpikeAnchor

/-- Refusals of the buy's own checks. -/
inductive SpikeError where
  | ZeroAmount
  | BadRemainingAccounts
  deriving DecidableEq, Repr

/-- The accounts that the buy declares. -/
structure BuyExactSolInWithPda where
  buyer : Pubkey
  global : Pubkey
  feeRecipient : Pubkey
  mint : Pubkey
  bondingCurve : Pubkey
  associatedBondingCurve : Pubkey
  associatedUser : Pubkey
  creatorVault : Pubkey
  eventAuthority : Pubkey
  pumpProgram : Pubkey
  globalVolumeAccumulator : Pubkey
  userVolumeAccumulator : Pubkey
  feeConfig : Pubkey
  feeProgram : Pubkey
  systemProgram : Pubkey
  tokenProgram : Pubkey
  associatedTokenProgram : Pubkey
  deriving DecidableEq, Repr

/-- The accounts the instruction declares; none of them signs. -/
def BuyExactSolInWithPda.metas (accounts : BuyExactSolInWithPda) : List AccountMeta :=
  [new accounts.buyer false, newReadonly accounts.global false, new accounts.feeRecipient false,
    newReadonly accounts.mint false, new accounts.bondingCurve false,
    new accounts.associatedBondingCurve false, new accounts.associatedUser false,
    new accounts.creatorVault false, newReadonly accounts.eventAuthority false,
    newReadonly accounts.pumpProgram false, newReadonly accounts.globalVolumeAccumulator false,
    new accounts.userVolumeAccumulator false, newReadonly accounts.feeConfig false,
    newReadonly accounts.feeProgram false, newReadonly accounts.systemProgram false,
    newReadonly accounts.tokenProgram false, newReadonly accounts.associatedTokenProgram false]

/-- The handler of a buy, on accounts that passed their constraints under the buyer's bump. -/
def buyExactSolInWithPda (bump : UInt8) (accounts : BuyExactSolInWithPda)
    (remainingAccounts : List Pubkey) (spendableSolIn minTokensOut : UInt64)
    (trackVolume : Bool) : Except SpikeError Invocation :=
  if ¬ spendableSolIn > 0 then .error .ZeroAmount
  else match remainingAccounts with
    | [bondingCurveV2, buybackFeeRecipient] =>
      let handed : BuyExactSolIn := {
        global := accounts.global
        feeRecipient := accounts.feeRecipient
        mint := accounts.mint
        bondingCurve := accounts.bondingCurve
        associatedBondingCurve := accounts.associatedBondingCurve
        associatedUser := accounts.associatedUser
        user := accounts.buyer
        systemProgram := accounts.systemProgram
        tokenProgram := accounts.tokenProgram
        creatorVault := accounts.creatorVault
        eventAuthority := accounts.eventAuthority
        program := accounts.pumpProgram
        globalVolumeAccumulator := accounts.globalVolumeAccumulator
        userVolumeAccumulator := accounts.userVolumeAccumulator
        feeConfig := accounts.feeConfig
        feeProgram := accounts.feeProgram
        bondingCurveV2
        buybackFeeRecipient }
      .ok {
        instruction := handed.instruction spendableSolIn minTokensOut trackVolume
        signerSeeds := [[SpikeLite.BUYER_SEED, [bump]]] }
    | _ => .error .BadRemainingAccounts

end SpikeAnchor

/-! ### The clients -/

section Clients

open Buffer

variable
  (findProgramAddress : (seeds : List (List UInt8)) → (programId : Pubkey) → Pubkey × UInt8)
  (getAssociatedTokenAddressSync : (mint owner tokenProgram : Pubkey) → Pubkey)

/-- What a wallet asks for when it buys. -/
structure BuyParams where
  user : Pubkey
  mint : Pubkey
  creator : Pubkey
  spendableSolIn : Int
  minTokensOut : Int
  feeRecipient : Pubkey
  buybackFeeRecipient : Pubkey
  deriving DecidableEq, Repr

/-- A wallet's own buy, as the integration tests build it. -/
def Localnet.buildBuyExactSolInIx (params : BuyParams) : Option TransactionInstruction := do
  let bondingCurve := bondingCurvePda params.mint
  let assocBc := getAssociatedTokenAddressSync params.mint bondingCurve TOKEN_PROGRAM_ID
  let associatedUser := getAssociatedTokenAddressSync params.mint params.user TOKEN_PROGRAM_ID
  let data := alloc (8 + 8 + 8 + 1)
  let data := copy [56, 252, 116, 8, 158, 223, 205, 95] data 0
  let data ← writeBigUInt64LE data params.spendableSolIn 8
  let data ← writeBigUInt64LE data params.minTokensOut 16
  let data := copy [0] data 24
  return {
    programId := PUMP_PROGRAM_ID
    keys := [
      { pubkey := globalPda, isSigner := false, isWritable := false },
      { pubkey := params.feeRecipient, isSigner := false, isWritable := true },
      { pubkey := params.mint, isSigner := false, isWritable := false },
      { pubkey := bondingCurve, isSigner := false, isWritable := true },
      { pubkey := assocBc, isSigner := false, isWritable := true },
      { pubkey := associatedUser, isSigner := false, isWritable := true },
      { pubkey := params.user, isSigner := true, isWritable := true },
      { pubkey := SYSTEM_PROGRAM_ID, isSigner := false, isWritable := false },
      { pubkey := TOKEN_PROGRAM_ID, isSigner := false, isWritable := false },
      { pubkey := creatorVaultPda params.creator, isSigner := false, isWritable := true },
      { pubkey := eventAuthorityPda, isSigner := false, isWritable := false },
      { pubkey := PUMP_PROGRAM_ID, isSigner := false, isWritable := false },
      { pubkey := globalVolumeAccumulatorPda, isSigner := false, isWritable := false },
      { pubkey := userVolumeAccumulatorPda params.user, isSigner := false, isWritable := true },
      { pubkey := feeConfigPda, isSigner := false, isWritable := false },
      { pubkey := PUMP_FEE_PROGRAM_ID, isSigner := false, isWritable := false },
      { pubkey := bondingCurveV2Pda params.mint, isSigner := false, isWritable := false },
      { pubkey := params.buybackFeeRecipient, isSigner := false, isWritable := true }]
    data }

namespace SpikeClient

/-- The program whose addresses token accounts are found at. -/
def ASSOCIATED_TOKEN_PROGRAM_ID : Pubkey :=
  .key 0x8c97258f4e2489f1bb3d1029148e0d830b5a1399daff1084048e7bd8dbe9f859

/-- The recipient used when none is given. -/
def defaultBuyback : Pubkey :=
  .key 0x439e6510c03d65fad931e89d04be0bb70d51971f51c415fb344c07db419f2122

/-- The buyer's address and its bump. -/
def buyerPda (programId : Pubkey) : Pubkey × UInt8 :=
  findProgramAddress ["buyer".toUTF8.toList] programId

/-- A wallet's own buy, as the spikes build it. -/
def buildBuyExactSolInIx (user mint creator : Pubkey) (spendableSolIn minTokensOut : Int)
    (feeRecipient : Pubkey) (buybackFeeRecipient tokenProgram : Option Pubkey)
    (trackVolume : Option Bool) : Option TransactionInstruction := do
  let tokenProgram := tokenProgram.getD TOKEN_PROGRAM_ID
  let bondingCurve := bondingCurvePda mint
  let assocBc := getAssociatedTokenAddressSync mint bondingCurve tokenProgram
  let associatedUser := getAssociatedTokenAddressSync mint user tokenProgram
  let spendable ← writeBigUInt64LE (alloc 8) spendableSolIn 0
  let minOut ← writeBigUInt64LE (alloc 8) minTokensOut 0
  let data := [56, 252, 116, 8, 158, 223, 205, 95] ++ spendable ++ minOut
    ++ [if trackVolume.getD false then 1 else 0]
  let buyback := buybackFeeRecipient.getD defaultBuyback
  return {
    programId := PUMP_PROGRAM_ID
    keys := [
      { pubkey := globalPda, isSigner := false, isWritable := false },
      { pubkey := feeRecipient, isSigner := false, isWritable := true },
      { pubkey := mint, isSigner := false, isWritable := false },
      { pubkey := bondingCurve, isSigner := false, isWritable := true },
      { pubkey := assocBc, isSigner := false, isWritable := true },
      { pubkey := associatedUser, isSigner := false, isWritable := true },
      { pubkey := user, isSigner := true, isWritable := true },
      { pubkey := SYSTEM_PROGRAM_ID, isSigner := false, isWritable := false },
      { pubkey := tokenProgram, isSigner := false, isWritable := false },
      { pubkey := creatorVaultPda creator, isSigner := false, isWritable := true },
      { pubkey := eventAuthorityPda, isSigner := false, isWritable := false },
      { pubkey := PUMP_PROGRAM_ID, isSigner := false, isWritable := false },
      { pubkey := globalVolumeAccumulatorPda, isSigner := false, isWritable := false },
      { pubkey := userVolumeAccumulatorPda user, isSigner := false, isWritable := true },
      { pubkey := feeConfigPda, isSigner := false, isWritable := false },
      { pubkey := PUMP_FEE_PROGRAM_ID, isSigner := false, isWritable := false },
      { pubkey := bondingCurveV2Pda mint, isSigner := false, isWritable := false },
      { pubkey := buyback, isSigner := false, isWritable := true }]
    data }

/-- The fund of the spike without Anchor. -/
def fundIx (programId payer : Pubkey) (lamports : Int) : Option TransactionInstruction := do
  let (buyer, _) := buyerPda findProgramAddress programId
  let data := alloc (1 + 8)
  let data := copy [0] data 0
  let data ← writeBigUInt64LE data lamports 1
  return {
    programId
    keys := [
      { pubkey := payer, isSigner := true, isWritable := true },
      { pubkey := buyer, isSigner := false, isWritable := true },
      { pubkey := SYSTEM_PROGRAM_ID, isSigner := false, isWritable := false }]
    data }

/-- The buy of the spike without Anchor. -/
def buyIx (programId mint creator feeRecipient buybackFeeRecipient : Pubkey)
    (spendableSolIn minTokensOut : Int) : Option TransactionInstruction := do
  let (buyer, _) := buyerPda findProgramAddress programId
  let bondingCurve := bondingCurvePda mint
  let assocBc := getAssociatedTokenAddressSync mint bondingCurve TOKEN_PROGRAM_ID
  let associatedUser := getAssociatedTokenAddressSync mint buyer TOKEN_PROGRAM_ID
  let data := alloc (1 + 8 + 8 + 1)
  let data := copy [1] data 0
  let data ← writeBigUInt64LE data spendableSolIn 1
  let data ← writeBigUInt64LE data minTokensOut 9
  let data := copy [0] data 17
  return {
    programId
    keys := [
      { pubkey := buyer, isSigner := false, isWritable := true },
      { pubkey := globalPda, isSigner := false, isWritable := false },
      { pubkey := feeRecipient, isSigner := false, isWritable := true },
      { pubkey := mint, isSigner := false, isWritable := false },
      { pubkey := bondingCurve, isSigner := false, isWritable := true },
      { pubkey := assocBc, isSigner := false, isWritable := true },
      { pubkey := associatedUser, isSigner := false, isWritable := true },
      { pubkey := creatorVaultPda creator, isSigner := false, isWritable := true },
      { pubkey := eventAuthorityPda, isSigner := false, isWritable := false },
      { pubkey := PUMP_PROGRAM_ID, isSigner := false, isWritable := false },
      { pubkey := globalVolumeAccumulatorPda, isSigner := false, isWritable := false },
      { pubkey := userVolumeAccumulatorPda buyer, isSigner := false, isWritable := true },
      { pubkey := feeConfigPda, isSigner := false, isWritable := false },
      { pubkey := PUMP_FEE_PROGRAM_ID, isSigner := false, isWritable := false },
      { pubkey := SYSTEM_PROGRAM_ID, isSigner := false, isWritable := false },
      { pubkey := TOKEN_PROGRAM_ID, isSigner := false, isWritable := false },
      { pubkey := bondingCurveV2Pda mint, isSigner := false, isWritable := false },
      { pubkey := buybackFeeRecipient, isSigner := false, isWritable := true }]
    data }

/-- The buy of the spike in Anchor. -/
def buildPdaBuyIx (programId mint creator feeRecipient buybackFeeRecipient : Pubkey)
    (spendableSolIn minTokensOut : Int) (trackVolume : Option Bool)
    (tokenProgram : Option Pubkey) : Option TransactionInstruction := do
  let tokenProgram := tokenProgram.getD TOKEN_PROGRAM_ID
  let (buyer, _) := buyerPda findProgramAddress programId
  let bondingCurve := bondingCurvePda mint
  let assocBc := getAssociatedTokenAddressSync mint bondingCurve tokenProgram
  let associatedUser := getAssociatedTokenAddressSync mint buyer tokenProgram
  let data := alloc (8 + 8 + 8 + 1)
  let data := copy (disc "buy_exact_sol_in_with_pda") data 0
  let data ← writeBigUInt64LE data spendableSolIn 8
  let data ← writeBigUInt64LE data minTokensOut 16
  let data := copy [if trackVolume.getD false then 1 else 0] data 24
  return {
    programId
    keys := [
      { pubkey := buyer, isSigner := false, isWritable := true },
      { pubkey := globalPda, isSigner := false, isWritable := false },
      { pubkey := feeRecipient, isSigner := false, isWritable := true },
      { pubkey := mint, isSigner := false, isWritable := false },
      { pubkey := bondingCurve, isSigner := false, isWritable := true },
      { pubkey := assocBc, isSigner := false, isWritable := true },
      { pubkey := associatedUser, isSigner := false, isWritable := true },
      { pubkey := creatorVaultPda creator, isSigner := false, isWritable := true },
      { pubkey := eventAuthorityPda, isSigner := false, isWritable := false },
      { pubkey := PUMP_PROGRAM_ID, isSigner := false, isWritable := false },
      { pubkey := globalVolumeAccumulatorPda, isSigner := false, isWritable := false },
      { pubkey := userVolumeAccumulatorPda buyer, isSigner := false, isWritable := true },
      { pubkey := feeConfigPda, isSigner := false, isWritable := false },
      { pubkey := PUMP_FEE_PROGRAM_ID, isSigner := false, isWritable := false },
      { pubkey := SYSTEM_PROGRAM_ID, isSigner := false, isWritable := false },
      { pubkey := tokenProgram, isSigner := false, isWritable := false },
      { pubkey := ASSOCIATED_TOKEN_PROGRAM_ID, isSigner := false, isWritable := false },
      { pubkey := bondingCurveV2Pda mint, isSigner := false, isWritable := false },
      { pubkey := buybackFeeRecipient, isSigner := false, isWritable := true }]
    data }

end SpikeClient

end Clients

end Batchit
