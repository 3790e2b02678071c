import Batchit.Instructions.Accounts

/-! The pool's one buy: escrow to buyer, a signed call into pump, and the fill recorded. -/

namespace Batchit

/-- The accounts of a buy, every one of them chosen by the caller. -/
structure CompleteBuyAccounts where
  caller : Pubkey
  pool : Pubkey
  buyer : Pubkey
  mint : Pubkey
  global : Pubkey
  feeRecipient : Pubkey
  bondingCurve : Pubkey
  associatedBondingCurve : Pubkey
  associatedUser : Pubkey
  creatorVault : Pubkey
  eventAuthority : Pubkey
  pumpProgram : Pubkey
  globalVolumeAccumulator : Pubkey
  userVolumeAccumulator : Pubkey
  feeConfig : Pubkey
  feeProgram : Pubkey
  bondingCurveV2 : Pubkey
  buybackFeeRecipient : Pubkey
  deriving DecidableEq, Repr

namespace CompleteBuyAccounts

/-- Every account of the instruction, the two pinned programs last. -/
def listed (accounts : CompleteBuyAccounts) : List Pubkey :=
  [accounts.caller, accounts.pool, accounts.buyer, accounts.mint, accounts.global,
    accounts.feeRecipient, accounts.bondingCurve, accounts.associatedBondingCurve,
    accounts.associatedUser, accounts.creatorVault, accounts.eventAuthority,
    accounts.pumpProgram, accounts.globalVolumeAccumulator, accounts.userVolumeAccumulator,
    accounts.feeConfig, accounts.feeProgram, accounts.bondingCurveV2,
    accounts.buybackFeeRecipient, TOKEN_PROGRAM_ID, SYSTEM_PROGRAM_ID]

/-- The accounts handed on to pump, in its order; the pool is not one of them. -/
def handedOn (accounts : CompleteBuyAccounts) : BuyExactSolIn where
  global := accounts.global
  feeRecipient := accounts.feeRecipient
  mint := accounts.mint
  bondingCurve := accounts.bondingCurve
  associatedBondingCurve := accounts.associatedBondingCurve
  associatedUser := accounts.associatedUser
  user := accounts.buyer
  systemProgram := SYSTEM_PROGRAM_ID
  tokenProgram := TOKEN_PROGRAM_ID
  creatorVault := accounts.creatorVault
  eventAuthority := accounts.eventAuthority
  program := accounts.pumpProgram
  globalVolumeAccumulator := accounts.globalVolumeAccumulator
  userVolumeAccumulator := accounts.userVolumeAccumulator
  feeConfig := accounts.feeConfig
  feeProgram := accounts.feeProgram
  bondingCurveV2 := accounts.bondingCurveV2
  buybackFeeRecipient := accounts.buybackFeeRecipient

section HandedOn

variable (accounts : CompleteBuyAccounts)

/-- Pump is handed the buy's own mint. -/
@[simp] theorem handedOn_mint : accounts.handedOn.mint = accounts.mint := rfl

/-- Pump is handed the buy's own curve. -/
@[simp] theorem handedOn_bondingCurve : accounts.handedOn.bondingCurve = accounts.bondingCurve :=
  rfl

/-- Pump is handed the token account named for the curve. -/
@[simp] theorem handedOn_associatedBondingCurve :
    accounts.handedOn.associatedBondingCurve = accounts.associatedBondingCurve := rfl

/-- Pump is handed the token account named for the user. -/
@[simp] theorem handedOn_associatedUser :
    accounts.handedOn.associatedUser = accounts.associatedUser := rfl

/-- The user pump sees is the pool's buyer. -/
@[simp] theorem handedOn_user : accounts.handedOn.user = accounts.buyer := rfl

end HandedOn

/-- Everything handed on to pump is an account of the buy. -/
theorem listed_of_handed {accounts : CompleteBuyAccounts} {address : Pubkey}
    (handed : address ∈ accounts.handedOn.handed) : address ∈ accounts.listed := by
  simp only [handedOn, BuyExactSolIn.handed, List.mem_cons, List.not_mem_nil, or_false] at handed
  simp only [listed, List.mem_cons, List.not_mem_nil, or_false]
  -- Each of pump's eighteen accounts is one of the buy's twenty.
  tauto

end CompleteBuyAccounts

/-- The reserves recorded when the curve cannot be read back. -/
def BondingCurveReserves.zero : BondingCurveReserves where
  virtualTokenReserves := 0
  virtualQuoteReserves := 0
  realTokenReserves := 0
  realQuoteReserves := 0

/-- The reserves recorded from the curve's bytes after the buy. -/
def recordedReserves (data : List UInt8) : BondingCurveReserves :=
  (decodeBondingCurveReserves data).toOption.getD .zero

/-- The pool account a buy leaves. -/
def Pool.bought (pool : Pool) (tokensBought : UInt64) (reserves : BondingCurveReserves) : Pool :=
  { pool with
    tokensBought
    postVirtualTokenReserves := reserves.virtualTokenReserves
    postVirtualQuoteReserves := reserves.virtualQuoteReserves
    status := .Bought }

/-- Anyone may spend what a launching pool has raised on its coin, once, before its grace ends. -/
def completeBuy (env : Env) (world : World) (now : Int64) (accounts : CompleteBuyAccounts)
    (minTokensOut : UInt64) : Except Error World := do
  signer accounts.caller
  let pool ← loadPool env world accounts.pool
  buyerSeeds env pool accounts.buyer accounts.pool
  let associatedUser ← found (world.tokens.lookup accounts.associatedUser) .AccountNotInitialized
  constraint (accounts.pumpProgram = PUMP_PROGRAM_ID) .ConstraintAddress
  -- A repeated call succeeds without doing anything, once the accounts pass.
  if pool.status = .Bought then
    return world
  else do
    require (pool.status = .Launching) .BadStatus
    require (now < pool.graceEndsAt) .LaunchGraceExpired
    require (pool.mint ≠ .default) .MintNotSet
    require (accounts.mint = pool.mint) .MintMismatch
    let curve := world.info accounts.bondingCurve
    require (curve.data ≠ [] ∧ curve.owner = PUMP_PROGRAM_ID) .CreateNotLanded
    let spendable := pool.totalContributed
    require (spendable > 0) .ZeroAmount
    -- The pool's lamports go to its buyer, who pays pump.
    let edited ← world.editLamports accounts.pool accounts.buyer spendable
    let filled ← cpiBuyExactSolIn env world edited accounts.listed accounts.handedOn spendable
      minTokensOut
    let reloaded ← found (filled.tokens.lookup accounts.associatedUser) .AccountNotInitialized
    -- What counts as bought is the gain of whichever account was named.
    let tokensBought := reloaded.amount.saturatingSub associatedUser.amount
    require (tokensBought > 0) .ZeroTokensBought
    let reserves := recordedReserves (filled.info accounts.bondingCurve).data
    return filled.setPool accounts.pool (some (pool.bought tokensBought reserves))

/-- The accounts of a buy that the instruction itself checks. -/
structure CompleteBuyAccounts.Checked (env : Env) (world : World) (accounts : CompleteBuyAccounts)
    (pool : Pool) (associatedUser : TokenAccount) : Prop where
  signed : accounts.caller.canSign = true
  loaded : loadPool env world accounts.pool = .ok pool
  buyer : buyerSeeds env pool accounts.buyer accounts.pool = .ok ()
  user : world.tokens.lookup accounts.associatedUser = some associatedUser
  program : accounts.pumpProgram = PUMP_PROGRAM_ID

/-- A call on a pool that has bought succeeds without doing anything; any other one buys. -/
theorem completeBuy_ok {env : Env} {world after : World} {now : Int64}
    {accounts : CompleteBuyAccounts} {minTokensOut : UInt64} :
    completeBuy env world now accounts minTokensOut = .ok after ↔
      ∃ (pool : Pool) (associatedUser : TokenAccount),
        accounts.Checked env world pool associatedUser ∧
        ((pool.status = .Bought ∧ after = world) ∨
          ∃ (edited filled : World) (reloaded : TokenAccount),
            pool.status = .Launching ∧
            now < pool.graceEndsAt ∧
            pool.mint ≠ .default ∧
            accounts.mint = pool.mint ∧
            (world.info accounts.bondingCurve).data ≠ [] ∧
            (world.info accounts.bondingCurve).owner = PUMP_PROGRAM_ID ∧
            0 < pool.totalContributed ∧
            world.editLamports accounts.pool accounts.buyer pool.totalContributed = .ok edited ∧
            cpiBuyExactSolIn env world edited accounts.listed accounts.handedOn
              pool.totalContributed minTokensOut = .ok filled ∧
            filled.tokens.lookup accounts.associatedUser = some reloaded ∧
            0 < reloaded.amount.saturatingSub associatedUser.amount ∧
            after = filled.setPool accounts.pool
              (some (pool.bought (reloaded.amount.saturatingSub associatedUser.amount)
                (recordedReserves (filled.info accounts.bondingCurve).data)))) := by
  -- The status decides between the empty success and the buy.
  simp only [completeBuy, bind_eq_ok, signer_ok, found_eq_ok, constraint_eq_ok, exists_const]
  constructor
  · intro taken
    obtain ⟨signed, pool, loaded, _, buyer, associatedUser, user, program, done⟩ := taken
    refine ⟨pool, associatedUser, ⟨signed, loaded, buyer, user, program⟩, ?_⟩
    split at done
    · -- The early return leaves the accounts as they were.
      rename_i already
      exact .inl ⟨already, (pure_eq_ok.mp done).symm⟩
    · simp only [bind_eq_ok, require_eq_ok, found_eq_ok, pure_eq_ok, exists_const] at done
      obtain ⟨launching, early, named, sameMint, ⟨landed, owned⟩, positive, edited, moved, filled,
        called, reloaded, user', some', rfl⟩ := done
      exact .inr ⟨edited, filled, reloaded, launching, early, named, sameMint, landed, owned,
        positive, moved, called, user', some', rfl⟩
  · intro facts
    obtain ⟨pool, associatedUser, ⟨signed, loaded, buyer, user, program⟩, done⟩ := facts
    refine ⟨signed, pool, loaded, (), buyer, associatedUser, user, program, ?_⟩
    rcases done with ⟨already, rfl⟩ | ⟨edited, filled, reloaded, launching, early, named, sameMint,
      landed, owned, positive, moved, called, user', some', rfl⟩
    · rw [if_pos already, pure_eq_ok]
    · rw [if_neg (by rw [launching]; decide)]
      simp only [bind_eq_ok, require_eq_ok, found_eq_ok, pure_eq_ok, exists_const]
      exact ⟨launching, early, named, sameMint, ⟨landed, owned⟩, positive, edited, moved, filled,
        called, reloaded, user', some', rfl⟩

end Batchit
