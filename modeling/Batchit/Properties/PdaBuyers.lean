import Batchit.Properties.Clients
import Batchit.PumpAccounts
import Batchit.Spikes.PdaBuyer

/-! The programs that buy as a derived address: what they accept, and what reaches pump. -/

namespace Batchit

/-- One byte stands at a position when it is the byte there. -/
theorem byte_prefix_iff {data : List UInt8} {start : Nat} {byte : UInt8} :
    [byte] <+: data.drop start ↔ data[start]? = some byte := by
  rw [← List.head?_drop]
  -- The byte at the position is the first of what is left from there.
  cases data.drop start with
  | nil => simp
  | cons first rest => simp [List.cons_prefix_cons, eq_comm]

namespace SpikeLite

/-- The accounts of a buy in the order the program takes them. -/
def inOrder (handed : BuyExactSolIn) : List Pubkey :=
  [handed.user, handed.global, handed.feeRecipient, handed.mint, handed.bondingCurve,
    handed.associatedBondingCurve, handed.associatedUser, handed.creatorVault,
    handed.eventAuthority, handed.program, handed.globalVolumeAccumulator,
    handed.userVolumeAccumulator, handed.feeConfig, handed.feeProgram, handed.systemProgram,
    handed.tokenProgram, handed.bondingCurveV2, handed.buybackFeeRecipient]

section Accepts

variable (findProgramAddress : (seeds : List (List UInt8)) → (programId : Pubkey) → Pubkey × UInt8)
  (programId : Pubkey)

/-- What the program is to be given, and what it then invokes. -/
inductive Accepts (accounts : List AccountMeta) (data : List UInt8) : Invocation → Prop
  | fund {payer buyer system : AccountMeta} {rest : List AccountMeta} {lamports : UInt64}
      (given : accounts = payer :: buyer :: system :: rest)
      (written : 0 :: Borsh.u64 lamports <+: data) (positive : lamports ≠ 0)
      (signed : payer.isSigner = true)
      (derived : buyer.pubkey = (findProgramAddress [BUYER_SEED] programId).1)
      (system : system.pubkey = SYSTEM_PROGRAM_ID) :
      Accepts accounts data {
        instruction := transfer payer.pubkey buyer.pubkey lamports
        signerSeeds := [] }
  | buy {handed : BuyExactSolIn} {rest : List Pubkey} {spendableSolIn minTokensOut : UInt64}
      {trackVolume : UInt8} (given : accounts.map AccountMeta.pubkey = inOrder handed ++ rest)
      (written : 1 :: (Borsh.u64 spendableSolIn ++ (Borsh.u64 minTokensOut ++ [trackVolume]))
        <+: data)
      (positive : spendableSolIn ≠ 0)
      (derived : handed.user = (findProgramAddress [BUYER_SEED] programId).1)
      (pump : handed.program = PUMP_PROGRAM_ID) :
      Accepts accounts data {
        instruction := handed.instruction spendableSolIn minTokensOut (trackVolume ≠ 0)
        signerSeeds := [[BUYER_SEED, [(findProgramAddress [BUYER_SEED] programId).2]]] }

end Accepts

section Process

variable
  {findProgramAddress : (seeds : List (List UInt8)) → (programId : Pubkey) → Pubkey × UInt8}
  {programId : Pubkey} {accounts : List AccountMeta} {data : List UInt8} {invocation : Invocation}

/-- A fund goes through when each of its checks does, in the order they are made. -/
theorem fundBuyer_ok :
    fundBuyer findProgramAddress programId accounts data = .ok invocation ↔
      ∃ (payer buyer system : AccountMeta) (rest : List AccountMeta) (lamports : UInt64),
        accounts = payer :: buyer :: system :: rest ∧ Borsh.u64 lamports <+: data ∧
        lamports ≠ 0 ∧ payer.isSigner = true ∧
        buyer.pubkey = (findProgramAddress [BUYER_SEED] programId).1 ∧
        system.pubkey = SYSTEM_PROGRAM_ID ∧
        { instruction := transfer payer.pubkey buyer.pubkey lamports, signerSeeds := [] }
          = invocation := by
  constructor
  · intro taken
    -- Each check that goes through is kept as a fact, in the order of the program.
    unfold fundBuyer at taken
    split at taken
    · cases taken
    rename_i long
    dsimp only at taken
    split at taken
    · cases taken
    rename_i positive
    split at taken
    · rename_i payer buyer system rest
      split at taken
      · cases taken
      rename_i signed
      split at taken
      · cases taken
      rename_i derived
      split at taken
      · cases taken
      rename_i system'
      exact ⟨payer, buyer, system, rest, wordAt data 0, rfl, (wordAt_eq_iff (by omega)).mp rfl,
        positive, Bool.eq_true_of_not_eq_false signed, not_not.mp derived, not_not.mp system',
        Except.ok.inj taken⟩
    · cases taken
  · intro facts
    obtain ⟨payer, buyer, system, rest, lamports, rfl, written, positive, signed, derived, system',
      rfl⟩ := facts
    -- The word that stands in front is what the program takes from the first eight bytes.
    have long : 8 ≤ data.length := Borsh.length_u64 lamports ▸ written.length_le
    have read : wordAt data 0 = lamports := (wordAt_eq_iff (by omega)).mpr written
    rw [fundBuyer, if_neg (Nat.not_lt.mpr long)]
    simp [read, positive, signed, derived, system']

/-- A buy goes through when each of its checks does, in the order they are made. -/
theorem buyExactSolInWithPda_ok :
    buyExactSolInWithPda findProgramAddress programId accounts data = .ok invocation ↔
      ∃ (handed : BuyExactSolIn) (rest : List Pubkey) (spendableSolIn minTokensOut : UInt64)
        (trackVolume : UInt8),
        accounts.map AccountMeta.pubkey = inOrder handed ++ rest ∧
        Borsh.u64 spendableSolIn ++ (Borsh.u64 minTokensOut ++ [trackVolume]) <+: data ∧
        spendableSolIn ≠ 0 ∧ handed.user = (findProgramAddress [BUYER_SEED] programId).1 ∧
        handed.program = PUMP_PROGRAM_ID ∧
        { instruction := handed.instruction spendableSolIn minTokensOut (trackVolume ≠ 0)
          signerSeeds := [[BUYER_SEED, [(findProgramAddress [BUYER_SEED] programId).2]]] }
          = invocation := by
  constructor
  · intro taken
    unfold buyExactSolInWithPda at taken
    split at taken
    · cases taken
    rename_i long
    dsimp only at taken
    split at taken
    · cases taken
    rename_i positive
    split at taken
    · rename_i buyer global feeRecipient mint bondingCurve associatedBondingCurve associatedUser
        creatorVault eventAuthority pumpProgram globalVolumeAccumulator userVolumeAccumulator
        feeConfig feeProgram system tokenProgram bondingCurveV2 buybackFeeRecipient rest given
      split at taken
      · cases taken
      rename_i derived
      split at taken
      · cases taken
      rename_i pump
      -- Seventeen bytes have one at the place of the flag.
      obtain ⟨trackVolume, flag⟩ : ∃ byte, data[16]? = some byte :=
        ⟨_, List.getElem?_eq_getElem (by omega)⟩
      rw [flag] at taken
      refine ⟨{
        global, feeRecipient, mint, bondingCurve, associatedBondingCurve, associatedUser
        user := buyer
        systemProgram := system
        tokenProgram, creatorVault, eventAuthority
        program := pumpProgram
        globalVolumeAccumulator, userVolumeAccumulator, feeConfig, feeProgram
        bondingCurveV2, buybackFeeRecipient }, rest, wordAt data 0, wordAt data 8, trackVolume,
        given, ?_, positive, not_not.mp derived, not_not.mp pump, ?_⟩
      · -- The two words and the flag stand one behind the other.
        simp only [Bytes.append_prefix_iff, Borsh.length_u64, List.drop_drop, byte_prefix_iff]
        exact ⟨(wordAt_eq_iff (by omega)).mp rfl, (wordAt_eq_iff (by omega)).mp rfl, flag⟩
      · rw [← Except.ok.inj taken]
        simp
    · cases taken
  · intro facts
    obtain ⟨handed, rest, spendableSolIn, minTokensOut, trackVolume, given, written, positive,
      derived, pump, rfl⟩ := facts
    have long : 17 ≤ data.length := by simpa using written.length_le
    simp only [Bytes.append_prefix_iff, Borsh.length_u64, List.drop_drop, byte_prefix_iff] at written
    obtain ⟨first, second, flag⟩ := written
    -- Read back, the words and the flag pass the checks they come from.
    have spend : wordAt data 0 = spendableSolIn := (wordAt_eq_iff (by omega)).mpr first
    have least : wordAt data 8 = minTokensOut := (wordAt_eq_iff (by omega)).mpr second
    rw [buyExactSolInWithPda, if_neg (Nat.not_lt.mpr long)]
    simp [spend, least, flag, positive, given, inOrder, ← derived, ← pump]

/-- What the program accepts is a well-formed fund or buy. -/
theorem accepts_of_processInstruction
    (taken : processInstruction findProgramAddress programId accounts data = .ok invocation) :
    Accepts findProgramAddress programId accounts data invocation := by
  unfold processInstruction at taken
  split at taken
  · cases taken
  -- The first byte decides, and the rest is the instruction's own.
  rename_i tag rest
  split at taken
  · rename_i fund
    obtain ⟨payer, buyer, system, others, lamports, given, written, positive, signed, derived,
      system', rfl⟩ := fundBuyer_ok.mp taken
    rw [fund]
    exact .fund given (List.cons_prefix_cons.mpr ⟨rfl, written⟩) positive signed derived system'
  split at taken
  · rename_i buy
    obtain ⟨handed, others, spendableSolIn, minTokensOut, trackVolume, given, written, positive,
      derived, pump, rfl⟩ := buyExactSolInWithPda_ok.mp taken
    rw [buy]
    exact .buy given (List.cons_prefix_cons.mpr ⟨rfl, written⟩) positive derived pump
  · cases taken

/-- A well-formed fund or buy goes through all the program's checks. -/
theorem processInstruction_of_accepts
    (accepted : Accepts findProgramAddress programId accounts data invocation) :
    processInstruction findProgramAddress programId accounts data = .ok invocation := by
  cases accepted with
  | fund given written positive signed derived system =>
    cases data with
    | nil => cases List.prefix_nil.mp written
    | cons tag rest =>
      -- The tag is the fund's, and what stands behind it its amount.
      obtain ⟨rfl, behind⟩ := List.cons_prefix_cons.mp written
      rw [processInstruction, if_pos rfl]
      exact fundBuyer_ok.mpr
        ⟨_, _, _, _, _, given, behind, positive, signed, derived, system, rfl⟩
  | buy given written positive derived pump =>
    cases data with
    | nil => cases List.prefix_nil.mp written
    | cons tag rest =>
      -- The tag is the buy's, and what stands behind it its two words and its flag.
      obtain ⟨rfl, behind⟩ := List.cons_prefix_cons.mp written
      rw [processInstruction, if_neg (by decide), if_pos rfl]
      exact buyExactSolInWithPda_ok.mpr
        ⟨_, _, _, _, _, given, behind, positive, derived, pump, rfl⟩

end Process

/-- The program accepts a well-formed fund or buy, makes the one call it asks for, and no other. -/
theorem lite_accepts_iff
    (findProgramAddress : (seeds : List (List UInt8)) → (programId : Pubkey) → Pubkey × UInt8)
    (programId : Pubkey) (accounts : List AccountMeta) (data : List UInt8)
    (invocation : Invocation) :
    processInstruction findProgramAddress programId accounts data = .ok invocation ↔
      Accepts findProgramAddress programId accounts data invocation :=
  ⟨accepts_of_processInstruction, processInstruction_of_accepts⟩

/--
Of the accounts that have to sign a call the program makes, the buyer signs only buys on pump.

The others signed the instruction themselves.
-/
theorem lite_signs_buys
    {findProgramAddress : (seeds : List (List UInt8)) → (programId : Pubkey) → Pubkey × UInt8}
    {programId : Pubkey} {accounts : List AccountMeta} {data : List UInt8}
    {invocation : Invocation}
    (accepted : processInstruction findProgramAddress programId accounts data = .ok invocation)
    {key : AccountMeta} (among : key ∈ invocation.instruction.keys)
    (signs : key.isSigner = true) :
    (invocation.signerSeeds = [] ∧
      ∃ given ∈ accounts, given.pubkey = key.pubkey ∧ given.isSigner = true) ∨
    (invocation.instruction.programId = PUMP_PROGRAM_ID ∧
      BUY_EXACT_SOL_IN_DISCRIMINATOR <+: invocation.instruction.data ∧
      key.pubkey = (findProgramAddress [BUYER_SEED] programId).1 ∧
      invocation.signerSeeds = [[BUYER_SEED, [(findProgramAddress [BUYER_SEED] programId).2]]]) := by
  -- What is accepted is a fund, which no seeds are used for, or a buy, which the buyer signs.
  cases accepts_of_processInstruction accepted with
  | @fund payer _ _ _ _ given written positive signed derived system =>
    left
    refine ⟨rfl, payer, ?_, ?_, signed⟩
    · rw [given]
      exact List.mem_cons_self
    · -- The buyer is only paid, so the payer is the one signer.
      rcases List.mem_pair.mp among with rfl | rfl
      · rfl
      · cases signs
  | buy given written positive derived pump =>
    right
    -- The user is the one signer of a buy.
    have user := List.mem_singleton.mp
      (show key ∈ [AccountMeta.new _ true] from List.mem_filter.mpr ⟨among, signs⟩)
    refine ⟨rfl, ?_, by rw [user, ← derived]; rfl, rfl⟩
    exact (List.prefix_append _ _).trans ((List.prefix_append _ _).trans (List.prefix_append _ _))

/-- The buyer's signature on a sample buy is one on a buy at pump. -/
theorem lite_signs_buys_sample :
    BUY_EXACT_SOL_IN_DISCRIMINATOR <+:
      ((Sample.buyAccounts Sample.vault).handedOn.instruction 1000000000 1
        false).data := by
  have accepted : processInstruction (fun _ _ => (.buyer Sample.pool, 254)) BATCHIT_PROGRAM_ID
      ((inOrder (Sample.buyAccounts Sample.vault).handedOn).map
        fun key => ⟨key, false, true⟩)
      (1 :: (Borsh.u64 1000000000 ++ (Borsh.u64 1 ++ [0]))) = .ok _ :=
    processInstruction_of_accepts (.buy rfl List.prefix_rfl (by decide) rfl rfl)
  have signer : AccountMeta.new (.buyer Sample.pool) true ∈
      ((Sample.buyAccounts Sample.vault).handedOn.instruction 1000000000 1
        false).keys := by
    decide
  -- The call is signed for by seeds, so it is not the fund.
  rcases lite_signs_buys accepted signer rfl with unsigned | bought
  · cases unsigned.1
  · exact bought.2.1

end SpikeLite

end Batchit
