import Batchit.Properties.PdaBuyers
import Batchit.Properties.Submissions

/-! One buy at pump, whoever makes it: a wallet, a spike, or the pool of a launch. -/

namespace Batchit

open AccountMeta

section Canonical

variable (getAssociatedTokenAddressSync : (mint owner tokenProgram : Pubkey) → Pubkey)

/-- The accounts of a user's buy, every derived one where pump has it. -/
def BuyExactSolIn.canonical
    (user mint creator feeRecipient buybackFeeRecipient tokenProgram : Pubkey) : BuyExactSolIn where
  global := globalPda
  feeRecipient
  mint
  bondingCurve := bondingCurvePda mint
  associatedBondingCurve := getAssociatedTokenAddressSync mint (bondingCurvePda mint) tokenProgram
  associatedUser := getAssociatedTokenAddressSync mint user tokenProgram
  user
  systemProgram := SYSTEM_PROGRAM_ID
  tokenProgram
  creatorVault := creatorVaultPda creator
  eventAuthority := eventAuthorityPda
  program := PUMP_PROGRAM_ID
  globalVolumeAccumulator := globalVolumeAccumulatorPda
  userVolumeAccumulator := userVolumeAccumulatorPda user
  feeConfig := feeConfigPda
  feeProgram := PUMP_FEE_PROGRAM_ID
  bondingCurveV2 := bondingCurveV2Pda mint
  buybackFeeRecipient

end Canonical

/-- The accounts of a buy as a client hands them to the spike without Anchor. -/
def SpikeLite.metas (handed : BuyExactSolIn) : List AccountMeta :=
  [new handed.user false, newReadonly handed.global false, new handed.feeRecipient false,
    newReadonly handed.mint false, new handed.bondingCurve false,
    new handed.associatedBondingCurve false, new handed.associatedUser false,
    new handed.creatorVault false, newReadonly handed.eventAuthority false,
    newReadonly handed.program false, newReadonly handed.globalVolumeAccumulator false,
    new handed.userVolumeAccumulator false, newReadonly handed.feeConfig false,
    newReadonly handed.feeProgram false, newReadonly handed.systemProgram false,
    newReadonly handed.tokenProgram false, newReadonly handed.bondingCurveV2 false,
    new handed.buybackFeeRecipient false]

/-- The accounts of a buy that the spike in Anchor declares. -/
def SpikeAnchor.declared (handed : BuyExactSolIn) : SpikeAnchor.BuyExactSolInWithPda where
  buyer := handed.user
  global := handed.global
  feeRecipient := handed.feeRecipient
  mint := handed.mint
  bondingCurve := handed.bondingCurve
  associatedBondingCurve := handed.associatedBondingCurve
  associatedUser := handed.associatedUser
  creatorVault := handed.creatorVault
  eventAuthority := handed.eventAuthority
  pumpProgram := handed.program
  globalVolumeAccumulator := handed.globalVolumeAccumulator
  userVolumeAccumulator := handed.userVolumeAccumulator
  feeConfig := handed.feeConfig
  feeProgram := handed.feeProgram
  systemProgram := handed.systemProgram
  tokenProgram := handed.tokenProgram
  associatedTokenProgram := SpikeClient.ASSOCIATED_TOKEN_PROGRAM_ID

/-- The two accounts of a buy that it does not declare. -/
def SpikeAnchor.remaining (handed : BuyExactSolIn) : List AccountMeta :=
  [newReadonly handed.bondingCurveV2 false, new handed.buybackFeeRecipient false]

section Built

variable
  {findProgramAddress : (seeds : List (List UInt8)) → (programId : Pubkey) → Pubkey × UInt8}
  {getAssociatedTokenAddressSync : (mint owner tokenProgram : Pubkey) → Pubkey}

/-- A wallet's buy in the integration tests has the canonical accounts. -/
theorem Localnet.buildBuyExactSolInIx_eq (params : BuyParams) :
    Localnet.buildBuyExactSolInIx getAssociatedTokenAddressSync params =
      (wordOf params.spendableSolIn).bind fun spendableSolIn =>
        (wordOf params.minTokensOut).bind fun minTokensOut =>
          some ((BuyExactSolIn.canonical getAssociatedTokenAddressSync params.user params.mint
            params.creator params.feeRecipient params.buybackFeeRecipient
            TOKEN_PROGRAM_ID).instruction spendableSolIn minTokensOut false) := by
  have front : Buffer.copy [56, 252, 116, 8, 158, 223, 205, 95] (Buffer.alloc (8 + 8 + 8 + 1)) 0
      = BUY_EXACT_SOL_IN_DISCRIMINATOR ++ Buffer.alloc 17 :=
    Buffer.copy_front BUY_EXACT_SOL_IN_DISCRIMINATOR 17
  simp only [Localnet.buildBuyExactSolInIx, front, Option.bind_eq_bind]
  -- Behind the discriminator the buffer fills up from front to back.
  refine Buffer.writeBigUInt64LE_bind rfl fun spendableSolIn => ?_
  refine Buffer.writeBigUInt64LE_bind (by simp; rfl) fun minTokensOut => ?_
  rw [Buffer.copy_last (by simp; rfl)]
  rfl

/-- A wallet's buy in the spikes has the canonical accounts, whatever is left to default. -/
theorem SpikeClient.buildBuyExactSolInIx_eq (user mint creator feeRecipient : Pubkey)
    (spendableSolIn minTokensOut : Int) (buybackFeeRecipient tokenProgram : Option Pubkey)
    (trackVolume : Option Bool) :
    SpikeClient.buildBuyExactSolInIx getAssociatedTokenAddressSync user mint creator spendableSolIn
        minTokensOut feeRecipient buybackFeeRecipient tokenProgram trackVolume =
      (wordOf spendableSolIn).bind fun spendableSolIn =>
        (wordOf minTokensOut).bind fun minTokensOut =>
          some ((BuyExactSolIn.canonical getAssociatedTokenAddressSync user mint creator
            feeRecipient (buybackFeeRecipient.getD SpikeClient.defaultBuyback)
            (tokenProgram.getD TOKEN_PROGRAM_ID)).instruction spendableSolIn minTokensOut
            (trackVolume.getD false)) := by
  simp only [SpikeClient.buildBuyExactSolInIx, Option.bind_eq_bind]
  -- Each number has a buffer of its own here, and the buffers are joined.
  refine @Buffer.writeBigUInt64LE_bind _ [] 0 _ 0 _ _ List.length_nil fun spendableSolIn => ?_
  refine @Buffer.writeBigUInt64LE_bind _ [] 0 _ 0 _ _ List.length_nil fun minTokensOut => ?_
  simp only [Buffer.alloc, List.replicate_zero, List.append_nil, List.nil_append]
  rfl

/-- The client of the spike without Anchor sends the canonical accounts in the spike's order. -/
theorem SpikeClient.buyIx_eq (programId mint creator feeRecipient buybackFeeRecipient : Pubkey)
    (spendableSolIn minTokensOut : Int) :
    SpikeClient.buyIx findProgramAddress getAssociatedTokenAddressSync programId mint creator
        feeRecipient buybackFeeRecipient spendableSolIn minTokensOut =
      (wordOf spendableSolIn).bind fun spendableSolIn =>
        (wordOf minTokensOut).bind fun minTokensOut =>
          some {
            programId
            keys := SpikeLite.metas (BuyExactSolIn.canonical getAssociatedTokenAddressSync
              (findProgramAddress [SpikeLite.BUYER_SEED] programId).1 mint creator feeRecipient
              buybackFeeRecipient TOKEN_PROGRAM_ID)
            data := 1 :: (Borsh.u64 spendableSolIn ++ (Borsh.u64 minTokensOut ++ [0])) } := by
  have front : Buffer.copy [1] (Buffer.alloc (1 + 8 + 8 + 1)) 0 = [1] ++ Buffer.alloc 17 :=
    Buffer.copy_front [1] 17
  simp only [SpikeClient.buyIx, front, Option.bind_eq_bind]
  -- The two words follow the tag, and the flag is the last byte.
  refine Buffer.writeBigUInt64LE_bind rfl fun spendableSolIn => ?_
  refine Buffer.writeBigUInt64LE_bind (by simp) fun minTokensOut => ?_
  rw [Buffer.copy_last (by simp)]
  simp only [List.append_assoc]
  rfl

/-- The client of the spike in Anchor sends the canonical accounts, and the last two behind them. -/
theorem SpikeClient.buildPdaBuyIx_eq
    (programId mint creator feeRecipient buybackFeeRecipient : Pubkey)
    (spendableSolIn minTokensOut : Int) (trackVolume : Option Bool) (tokenProgram : Option Pubkey) :
    SpikeClient.buildPdaBuyIx findProgramAddress getAssociatedTokenAddressSync programId mint
        creator feeRecipient buybackFeeRecipient spendableSolIn minTokensOut trackVolume
        tokenProgram =
      (wordOf spendableSolIn).bind fun spendableSolIn =>
        (wordOf minTokensOut).bind fun minTokensOut =>
          let handed := BuyExactSolIn.canonical getAssociatedTokenAddressSync
            (findProgramAddress [SpikeLite.BUYER_SEED] programId).1 mint creator feeRecipient
            buybackFeeRecipient (tokenProgram.getD TOKEN_PROGRAM_ID)
          some {
            programId
            keys := (SpikeAnchor.declared handed).metas ++ SpikeAnchor.remaining handed
            data := disc "buy_exact_sol_in_with_pda" ++ (Borsh.u64 spendableSolIn ++
              (Borsh.u64 minTokensOut ++ [if trackVolume.getD false then 1 else 0])) } := by
  have front := Buffer.copy_front (disc "buy_exact_sol_in_with_pda") 17
  rw [length_disc] at front
  simp only [SpikeClient.buildPdaBuyIx, front, Option.bind_eq_bind]
  -- The two words follow the discriminator, and the flag is the last byte.
  refine Buffer.writeBigUInt64LE_bind (length_disc _) fun spendableSolIn => ?_
  refine Buffer.writeBigUInt64LE_bind (by simp) fun minTokensOut => ?_
  rw [Buffer.copy_last (by simp)]
  simp only [List.append_assoc]
  rfl

end Built

/-! ### What the spikes do with what is sent -/

/-- The number a word comes from is the word's own. -/
theorem wordOf_eq_some {value : Int} {word : UInt64} :
    wordOf value = some word ↔ value = word.toNat := by
  -- In the range of a word, a number and its word are the same.
  constructor
  · intro read
    unfold wordOf at read
    split at read
    · rename_i range
      have small : value.toNat < 2 ^ 64 := by omega
      rw [← Option.some.inj read, UInt64.toNat_ofNat_of_lt' small, Int.toNat_of_nonneg range.1]
    · cases read
  · rintro rfl
    exact wordOf_toNat word

/-- A buy for nothing is refused, and any other one made as asked. -/
theorem SpikeLite.processInstruction_buy
    {findProgramAddress : (seeds : List (List UInt8)) → (programId : Pubkey) → Pubkey × UInt8}
    {programId : Pubkey} {handed : BuyExactSolIn}
    (derived : handed.user = (findProgramAddress [BUYER_SEED] programId).1)
    (pump : handed.program = PUMP_PROGRAM_ID) (spendableSolIn minTokensOut : UInt64) :
    processInstruction findProgramAddress programId (metas handed)
        (1 :: (Borsh.u64 spendableSolIn ++ (Borsh.u64 minTokensOut ++ [0]))) =
      if spendableSolIn = 0 then .error .InvalidArgument
      else .ok {
        instruction := handed.instruction spendableSolIn minTokensOut false
        signerSeeds := [[BUYER_SEED, [(findProgramAddress [BUYER_SEED] programId).2]]] } := by
  by_cases zero : spendableSolIn = 0
  · -- The amount is checked before any account is looked at.
    rw [if_pos zero, processInstruction, if_neg (by decide), if_pos rfl, buyExactSolInWithPda,
      if_neg (by simp)]
    exact if_pos ((wordAt_eq_iff (by simp)).mpr (zero ▸ List.prefix_append _ _))
  · rw [if_neg zero]
    exact processInstruction_of_accepts
      (.buy (List.append_nil _).symm List.prefix_rfl zero derived pump)

/-- A fund that is sent pays the buyer what is asked; nothing, or no word, is not paid. -/
theorem SpikeLite.processInstruction_fundIx
    (findProgramAddress : (seeds : List (List UInt8)) → (programId : Pubkey) → Pubkey × UInt8)
    (programId payer : Pubkey) (lamports : Int) :
    (SpikeClient.fundIx findProgramAddress programId payer lamports).map
        (fun sent => processInstruction findProgramAddress sent.programId sent.keys sent.data) =
      (wordOf lamports).bind fun lamports =>
        some (if lamports = 0 then .error .InvalidArgument
          else .ok {
            instruction :=
              transfer payer (findProgramAddress [BUYER_SEED] programId).1 lamports
            signerSeeds := [] }) := by
  have front : Buffer.copy [0] (Buffer.alloc (1 + 8)) 0 = [0] ++ Buffer.alloc 8 :=
    Buffer.copy_front [0] 8
  simp only [SpikeClient.fundIx, front, Option.bind_eq_bind, Option.map_bind]
  refine Buffer.writeBigUInt64LE_bind rfl fun word => ?_
  rw [Buffer.alloc, List.replicate_zero, List.append_nil, Function.comp_apply]
  refine congrArg some ?_
  -- The buyer's address and the signature are right by construction, so only the amount is left.
  by_cases zero : word = 0
  · rw [if_pos zero]
    change processInstruction _ _ _ (0 :: Borsh.u64 word) = _
    rw [processInstruction, if_pos rfl, fundBuyer, if_neg (by simp)]
    exact if_pos ((wordAt_eq_iff (by simp)).mpr (zero ▸ List.prefix_rfl))
  · rw [if_neg zero]
    exact processInstruction_of_accepts (.fund rfl List.prefix_rfl zero rfl rfl rfl)

/-- A buy for nothing is refused, and any other one made as asked. -/
theorem SpikeAnchor.buyExactSolInWithPda_declared (bump : UInt8) {handed : BuyExactSolIn}
    (spendableSolIn minTokensOut : UInt64) (trackVolume : Bool) :
    buyExactSolInWithPda bump (declared handed) ((remaining handed).map pubkey) spendableSolIn
        minTokensOut trackVolume =
      if spendableSolIn = 0 then .error .ZeroAmount
      else .ok {
        instruction := handed.instruction spendableSolIn minTokensOut trackVolume
        signerSeeds := [[SpikeLite.BUYER_SEED, [bump]]] } := by
  unfold buyExactSolInWithPda
  -- The accounts are right by construction, so only the amount is left.
  by_cases zero : spendableSolIn = 0
  · rw [if_pos zero, if_pos (by simp [zero])]
  · rw [if_neg zero, if_neg (not_not_intro (UInt64.pos_iff_ne_zero.mpr zero))]
    rfl

/--
A buy sent to the spike without Anchor is made as the very instruction a wallet would send.

Only a buy for nothing, or with a number that is no word, goes nowhere.
-/
theorem lite_buys_directly
    (findProgramAddress : (seeds : List (List UInt8)) → (programId : Pubkey) → Pubkey × UInt8)
    (getAssociatedTokenAddressSync : (mint owner tokenProgram : Pubkey) → Pubkey)
    (programId mint creator feeRecipient buybackFeeRecipient : Pubkey)
    (spendableSolIn minTokensOut : Int) :
    let buyer := findProgramAddress [SpikeLite.BUYER_SEED] programId
    let direct := SpikeClient.buildBuyExactSolInIx getAssociatedTokenAddressSync buyer.1 mint
      creator spendableSolIn minTokensOut feeRecipient (some buybackFeeRecipient) none none
    (SpikeClient.buyIx findProgramAddress getAssociatedTokenAddressSync programId mint creator
        feeRecipient buybackFeeRecipient spendableSolIn minTokensOut).map
        (fun sent => SpikeLite.processInstruction findProgramAddress sent.programId sent.keys
          sent.data)
      = direct.map (fun instruction =>
          if spendableSolIn = 0 then .error .InvalidArgument
          else .ok { instruction, signerSeeds := [[SpikeLite.BUYER_SEED, [buyer.2]]] }) ∧
    Localnet.buildBuyExactSolInIx getAssociatedTokenAddressSync {
        user := buyer.1
        mint, creator, spendableSolIn, minTokensOut, feeRecipient, buybackFeeRecipient }
      = direct := by
  intro buyer direct
  have built : direct = _ := SpikeClient.buildBuyExactSolInIx_eq buyer.1 mint creator feeRecipient
    spendableSolIn minTokensOut (some buybackFeeRecipient) none none
  refine ⟨?_, (Localnet.buildBuyExactSolInIx_eq _).trans built.symm⟩
  -- Both sides throw for the same numbers, so the words may be taken as given.
  rw [SpikeClient.buyIx_eq, built, Option.map_bind, Option.map_bind]
  refine Option.bind_congr fun spendable word => ?_
  rw [Function.comp_apply, Function.comp_apply, Option.map_bind, Option.map_bind]
  refine Option.bind_congr fun least _ => ?_
  have nothing : spendableSolIn = 0 ↔ spendable = 0 := by
    rw [wordOf_eq_some.mp word, ← UInt64.toNat_inj]
    exact Int.natCast_eq_zero
  simp only [Function.comp_apply, Option.map_some, nothing]
  rw [SpikeLite.processInstruction_buy rfl rfl]
  rfl

/-- A buy handed to the spike in Anchor is made as the very instruction a wallet would send. -/
theorem anchor_buys_directly
    (findProgramAddress : (seeds : List (List UInt8)) → (programId : Pubkey) → Pubkey × UInt8)
    (getAssociatedTokenAddressSync : (mint owner tokenProgram : Pubkey) → Pubkey)
    (programId mint creator feeRecipient buybackFeeRecipient : Pubkey)
    (spendableSolIn minTokensOut : UInt64) (trackVolume : Option Bool)
    (tokenProgram : Option Pubkey) :
    let buyer := findProgramAddress [SpikeLite.BUYER_SEED] programId
    ∃ (accounts : SpikeAnchor.BuyExactSolInWithPda) (remaining : List AccountMeta)
      (instruction : TransactionInstruction),
      SpikeClient.buildPdaBuyIx findProgramAddress getAssociatedTokenAddressSync programId mint
          creator feeRecipient buybackFeeRecipient spendableSolIn.toNat minTokensOut.toNat
          trackVolume tokenProgram
        = some {
          programId
          keys := accounts.metas ++ remaining
          data := disc "buy_exact_sol_in_with_pda" ++ (Borsh.u64 spendableSolIn ++
            (Borsh.u64 minTokensOut ++ [if trackVolume.getD false then 1 else 0])) } ∧
      SpikeClient.buildBuyExactSolInIx getAssociatedTokenAddressSync buyer.1 mint creator
          spendableSolIn.toNat minTokensOut.toNat feeRecipient (some buybackFeeRecipient)
          tokenProgram trackVolume
        = some instruction ∧
      SpikeAnchor.buyExactSolInWithPda buyer.2 accounts (remaining.map pubkey) spendableSolIn
          minTokensOut (trackVolume.getD false)
        = if spendableSolIn = 0 then .error .ZeroAmount
          else .ok { instruction, signerSeeds := [[SpikeLite.BUYER_SEED, [buyer.2]]] } := by
  intro buyer
  let handed := BuyExactSolIn.canonical getAssociatedTokenAddressSync buyer.1 mint creator
    feeRecipient buybackFeeRecipient (tokenProgram.getD TOKEN_PROGRAM_ID)
  -- All three are about the one list of accounts that a canonical buy is handed.
  refine ⟨SpikeAnchor.declared handed, SpikeAnchor.remaining handed,
    handed.instruction spendableSolIn minTokensOut (trackVolume.getD false), ?_, ?_,
    SpikeAnchor.buyExactSolInWithPda_declared buyer.2 _ _ _⟩
  · rw [SpikeClient.buildPdaBuyIx_eq, wordOf_toNat, wordOf_toNat]
    rfl
  · rw [SpikeClient.buildBuyExactSolInIx_eq, wordOf_toNat, wordOf_toNat]
    rfl

/-! ### What the program does with a launch's buy -/

/--
The buy a client asks of the program is the very instruction the pool's buyer would send as a wallet.

The buyer is the curve's creator too, and spends what the pool raised.
As the runtime hands it on, the client's instruction is read as that buy unless it asks to write a reserved account.
-/
theorem launch_buys_directly (platform : Platform) (addressing : Addressing)
    (getAssociatedTokenAddressSync : (mint owner tokenProgram : Pubkey) → Pubkey)
    {params : Localnet.CompleteBuyParams} {sent : TransactionInstruction}
    (built : Localnet.completeBuyIx
      (fun mint owner => getAssociatedTokenAddressSync mint owner TOKEN_PROGRAM_ID) params
      = some sent) :
    ∃ (accounts : CompleteBuyAccounts) (minTokensOut : UInt64),
      dispatch platform addressing sent = .ok (.completeBuy accounts minTokensOut) ∧
      dispatch platform addressing (platform.handed sent)
        = (if platform.admits (.completeBuy accounts minTokensOut)
          then .ok (.completeBuy accounts minTokensOut) else .error .AccountsRefused) ∧
      ∀ (buyerBump : UInt8) (spendable : UInt64),
        Localnet.buildBuyExactSolInIx getAssociatedTokenAddressSync {
            user := accounts.buyer
            mint := params.mint
            creator := accounts.buyer
            spendableSolIn := spendable.toNat
            minTokensOut := params.minTokensOut.getD 1
            feeRecipient := params.feeRecipient
            buybackFeeRecipient := params.buybackFeeRecipient }
          = some (cpiBuyInvocation addressing accounts.pool buyerBump accounts.handedOn spendable
              minTokensOut).instruction := by
  -- The client builds what carries a call, so the call is what the program reads.
  rw [@completeBuyIx_eq addressing] at built
  simp only [Request.instruction, Option.bind_eq_bind, Option.bind_assoc,
    Option.bind_eq_some_iff, Option.pure_def, Option.bind_some] at built
  obtain ⟨seed, -, minTokensOut, least, carried⟩ := built
  obtain ⟨carrier, same, dispatched, handed⟩ :=
    @dispatch_carrier addressing platform (.completeBuy _ minTokensOut) (.completeBuy minTokensOut)
      rfl trivial
  rw [carried] at same
  rw [← Option.some.inj same] at dispatched handed
  refine ⟨_, minTokensOut, dispatched, handed, fun buyerBump spendable => ?_⟩
  rw [Localnet.buildBuyExactSolInIx_eq, wordOf_toNat, least]
  rfl

/-- A sample buy built by the client is read back, to be made by the sample pool's buyer. -/
theorem launch_buys_directly_sample :
    ∃ (sent : TransactionInstruction) (accounts : CompleteBuyAccounts) (minTokensOut : UInt64),
      dispatch Sample.platform Sample.addressing sent
        = .ok (.completeBuy accounts minTokensOut) := by
  have sends : (Localnet.completeBuyIx (fun _ _ => Sample.vault) {
      caller := Sample.alice
      creator := Sample.creator
      seed := 7
      mint := Sample.mint
      feeRecipient := .key 30
      buybackFeeRecipient := .key 31
      minTokensOut := none }).isSome = true := by
    decide +kernel
  -- All numbers are in range, so the client does not throw.
  obtain ⟨sent, built⟩ := Option.isSome_iff_exists.mp sends
  obtain ⟨accounts, minTokensOut, dispatched, -⟩ :=
    launch_buys_directly Sample.platform Sample.addressing (fun _ _ _ => Sample.vault) built
  exact ⟨sent, accounts, minTokensOut, dispatched⟩

/-- What pump is handed was handed to the program, with the privileges asked for. -/
theorem CompleteBuyAccounts.asked_of_handedOn {accounts : CompleteBuyAccounts} {key : AccountMeta}
    (handed : key ∈ accounts.handedOn.metas) : { key with isSigner := false } ∈ accounts.metas := by
  simp only [BuyExactSolIn.metas, handedOn, List.mem_cons, List.not_mem_nil, or_false] at handed
  simp only [metas, List.mem_cons, List.not_mem_nil, or_false]
  -- Each of the eighteen accounts is found among those declared.
  rcases handed with rfl | rfl | rfl | rfl | rfl | rfl | rfl | rfl | rfl | rfl | rfl | rfl | rfl |
    rfl | rfl | rfl | rfl | rfl <;> simp [new, newReadonly]

/--
A buy that is accepted asks nothing of pump that the caller did not grant, but the buyer's signature.

The seeds the program signs with are those of the pool's own buyer.
-/
theorem buy_within_privileges {env : Env} {platform : Platform} {addressing : Addressing}
    {world next : World} {now : Int64} {carrier : TransactionInstruction}
    {accounts : CompleteBuyAccounts} {minTokensOut : UInt64}
    (dispatched : dispatch platform addressing (platform.handed carrier)
      = .ok (.completeBuy accounts minTokensOut))
    (accepted : submit env platform addressing world (.toProgram now carrier) = .ok next) :
    ∃ account, world.pools accounts.pool = some account ∧
      account.buyerBump = env.bump (.buyer accounts.pool) ∧
      ∀ key ∈ (cpiBuyInvocation addressing accounts.pool account.buyerBump accounts.handedOn
          account.totalContributed minTokensOut).instruction.keys,
        (key.isSigner = true → key.pubkey = .buyer accounts.pool) ∧
        ∃ given ∈ carrier.keys, given.pubkey = key.pubkey ∧
          (key.isWritable = true → given.isWritable = true) := by
  rw [submit, dispatched] at accepted
  -- The handler's own constraint ties the buyer to the pool and its recorded bump.
  obtain ⟨account, _, checked, -⟩ := completeBuy_ok.mp (refused_eq_ok accepted)
  obtain ⟨buyer, bump⟩ := buyerSeeds_ok.mp checked.buyer
  refine ⟨account, (loadPool_ok.mp checked.loaded).1, bump, fun key handed => ⟨fun signs => ?_, ?_⟩⟩
  · -- The user is the one signer of a buy.
    have user := List.mem_singleton.mp
      (show key ∈ [new accounts.buyer true] from List.mem_filter.mpr ⟨handed, signs⟩)
    rw [user, ← buyer]
    rfl
  · -- What pump is handed the program declares, and what it declares it was given.
    obtain ⟨method, carries⟩ := readAs_of_dispatch dispatched
    obtain ⟨declared, among, serves⟩ := served_of_covers carries.keys
      (CompleteBuyAccounts.asked_of_handedOn handed)
    obtain ⟨same, -, writes⟩ := serves_iff.mp serves
    obtain ⟨given, sent, grants⟩ := Platform.given_of_handed among
    obtain ⟨again, -, writable⟩ := serves_iff.mp grants
    exact ⟨given, sent, again.trans same, fun asks => writable (writes asks)⟩

/-- The sample buy is accepted, and only its pool's buyer signs for it. -/
theorem buy_within_privileges_sample :
    ∃ account, (Sample.reach (Sample.raise ++ Sample.market)).pools Sample.pool = some account ∧
      ∀ key ∈ (cpiBuyInvocation Sample.addressing Sample.pool account.buyerBump
          (Sample.buyAccounts Sample.vault).handedOn account.totalContributed
          1).instruction.keys,
        key.isSigner = true → key.pubkey = .buyer Sample.pool := by
  obtain ⟨carrier, -, -, dispatched⟩ :=
    @dispatch_carrier Sample.addressing Sample.platform
      (.completeBuy (Sample.buyAccounts Sample.vault) 1) (.completeBuy 1) rfl trivial
  -- None of the buy's accounts is reserved.
  rw [if_pos (by decide +kernel)] at dispatched
  have passes : (step Sample.env (Sample.reach (Sample.raise ++ Sample.market))
      (Sample.buy Sample.vault)).isOk = true := by
    decide +kernel
  obtain ⟨next, taken⟩ := Machine.exists_of_isOk passes
  have accepted : submit Sample.env Sample.platform Sample.addressing
      (Sample.reach (Sample.raise ++ Sample.market)) (.toProgram 110 carrier) = .ok next := by
    rw [submit, dispatched]
    exact congrArg (Except.mapError SubmissionError.refused) taken
  obtain ⟨account, stored, -, within⟩ := buy_within_privileges dispatched accepted
  exact ⟨account, stored, fun key handed => (within key handed).1⟩

end Batchit
