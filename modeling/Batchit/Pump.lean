import Batchit.World

/-! The pump buy: its account list, the reserves read back after it, and the call into it. -/

namespace Batchit

/-- The system program, whose address is the default key. -/
def SYSTEM_PROGRAM_ID : Pubkey := .default

/-- The token program. -/
def TOKEN_PROGRAM_ID : Pubkey :=
  .key 0x06ddf6e1d765a193d9cbe146ceeb79ac1cb485ed5f5b37913a8cf5857eff00a9

/-- Pump's own address. -/
def PUMP_PROGRAM_ID : Pubkey :=
  .key 0x0156e0f693665acf44db1568bf175baa5189cb97f5d2ff3b655d2bb6fd6d18b0

/-- The program of pump's fees. -/
def PUMP_FEE_PROGRAM_ID : Pubkey :=
  .key 0x0c35ffa9055a8e568da8f7bc075615274cf1c92ca41f40009c516aa414c27c70

/-- The curve of a coin. -/
def bondingCurvePda (mint : Pubkey) : Pubkey := .pump .bondingCurve mint

/-- The second curve account of a coin. -/
def bondingCurveV2Pda (mint : Pubkey) : Pubkey := .pump .bondingCurveV2 mint

/-- Where a creator's fees are collected. -/
def creatorVaultPda (creator : Pubkey) : Pubkey := .pump .creatorVault creator

/-- Pump's settings. -/
def globalPda : Pubkey := .pump .global .default

/-- The account that pump's events are signed by. -/
def eventAuthorityPda : Pubkey := .pump .eventAuthority .default

/-- Where the volume of all trades is counted. -/
def globalVolumeAccumulatorPda : Pubkey := .pump .globalVolumeAccumulator .default

/-- Where the volume of a user's trades is counted. -/
def userVolumeAccumulatorPda (user : Pubkey) : Pubkey := .pump .userVolumeAccumulator user

/-- The fees that the fee program sets for pump. -/
def feeConfigPda : Pubkey := .pump .feeConfig PUMP_PROGRAM_ID

/-- The reserves at the front of a bonding curve account. -/
structure BondingCurveReserves where
  virtualTokenReserves : UInt64
  virtualQuoteReserves : UInt64
  realTokenReserves : UInt64
  realQuoteReserves : UInt64
  deriving DecidableEq, Repr

/-- The 64-bit word written at a position of a byte string. -/
def wordAt (data : List UInt8) (start : Nat) : UInt64 :=
  UInt64.ofNat (Bytes.number ((data.drop start).take 8))

/-- Read the reserves that follow the eight-byte discriminator. -/
def decodeBondingCurveReserves (data : List UInt8) : Except Error BondingCurveReserves := do
  require (data.length ≥ 8 + 32) .CreateNotLanded
  let d := data.drop 8
  return {
    virtualTokenReserves := wordAt d 0
    virtualQuoteReserves := wordAt d 8
    realTokenReserves := wordAt d 16
    realQuoteReserves := wordAt d 24 }

/-- The accounts handed to `buy_exact_sol_in`, in the order of its instruction. -/
structure BuyExactSolIn where
  global : Pubkey
  feeRecipient : Pubkey
  mint : Pubkey
  bondingCurve : Pubkey
  associatedBondingCurve : Pubkey
  associatedUser : Pubkey
  user : Pubkey
  systemProgram : Pubkey
  tokenProgram : Pubkey
  creatorVault : Pubkey
  eventAuthority : Pubkey
  program : Pubkey
  globalVolumeAccumulator : Pubkey
  userVolumeAccumulator : Pubkey
  feeConfig : Pubkey
  feeProgram : Pubkey
  bondingCurveV2 : Pubkey
  buybackFeeRecipient : Pubkey
  deriving DecidableEq, Repr

/-- Every account handed to the call, which is also every account it can touch. -/
def BuyExactSolIn.handed (accounts : BuyExactSolIn) : List Pubkey :=
  [accounts.global, accounts.feeRecipient, accounts.mint, accounts.bondingCurve,
    accounts.associatedBondingCurve, accounts.associatedUser, accounts.user,
    accounts.systemProgram, accounts.tokenProgram, accounts.creatorVault,
    accounts.eventAuthority, accounts.program, accounts.globalVolumeAccumulator,
    accounts.userVolumeAccumulator, accounts.feeConfig, accounts.feeProgram,
    accounts.bondingCurveV2, accounts.buybackFeeRecipient]

/-- What pump answers a buy with: whom it pays out of the budget, the tokens, the curve it leaves. -/
structure Fill where
  toCurve : UInt64
  toFeeRecipient : UInt64
  toCreatorVault : UInt64
  toVolumeAccumulator : UInt64
  toBuyback : UInt64
  tokensOut : UInt64
  curve : List UInt8
  deriving DecidableEq, Repr

/-- The accounts the user pays in a buy, each with its part. -/
def Fill.payments (fill : Fill) (accounts : BuyExactSolIn) : List (Pubkey × UInt64) :=
  [(accounts.bondingCurve, fill.toCurve), (accounts.feeRecipient, fill.toFeeRecipient),
    (accounts.creatorVault, fill.toCreatorVault),
    (accounts.userVolumeAccumulator, fill.toVolumeAccumulator),
    (accounts.buybackFeeRecipient, fill.toBuyback)]

/-- The lamports a buy takes from the user in all. -/
def Fill.taken (fill : Fill) : Nat :=
  fill.toCurve.toNat + fill.toFeeRecipient.toNat + fill.toCreatorVault.toNat
    + fill.toVolumeAccumulator.toNat + fill.toBuyback.toNat

/-- What is taken is what is paid. -/
theorem Fill.payments_sum (fill : Fill) (accounts : BuyExactSolIn) :
    ((fill.payments accounts).map fun payment => payment.2.toNat).sum = fill.taken := by
  simp only [payments, taken, List.map_cons, List.map_nil, List.sum_cons, List.sum_nil]
  omega

/--
What the program relies on from outside its own code.

Nothing is assumed of these here.
A result that rests on a documented behaviour of one of them names it as a hypothesis.
-/
structure Env where
  /-- The bytes keys and account types are known by. -/
  encoding : Encoding
  /-- The canonical bump of a derived address. -/
  bump : Pubkey → UInt8
  /-- The rent-exempt minimum for an account of a size. -/
  minimumBalance : Nat → UInt64
  /-- How pump fills a buy of the given budget and minimum, or that it refuses. -/
  buyExactSolIn : World → BuyExactSolIn → UInt64 → UInt64 → Option Fill
  /--
  Whether the runtime lets a call through.

  It sees the lamports at the caller's start and as the caller has edited them, the caller's accounts, and the accounts handed on.
  -/
  admitsCall : (start edited : Pubkey → UInt64) → (accounts handed : List Pubkey) → Bool

/--
Call `buy_exact_sol_in` with the buyer as signer.

Pump derives the curve's address from the mint, credits the account passed as the user's from the curve's own token account, and asks of it only that it holds the mint.
The lamports go to accounts of its own and to those its settings list, and this program derives none of them.
-/
def cpiBuyExactSolIn (env : Env) (start world : World) (callerAccounts : List Pubkey)
    (accounts : BuyExactSolIn) (spendableSolIn minTokensOut : UInt64) : Except Error World := do
  require (env.admitsCall start.lamports world.lamports callerAccounts accounts.handed = true)
    .BuyFailed
  require (accounts.bondingCurve = bondingCurvePda accounts.mint) .BuyFailed
  let credited ← okOr (world.tokens.lookup accounts.associatedUser) .BuyFailed
  require (credited.mint = accounts.mint) .BuyFailed
  let fill ← okOr (env.buyExactSolIn world accounts spendableSolIn minTokensOut) .BuyFailed
  require (minTokensOut ≤ fill.tokensOut) .BuyFailed
  require (∀ payment ∈ fill.payments accounts, payment.1.isProgramDerived = false) .BuyFailed
  let paid ← world.payOut (.batchit .BuyFailed) accounts.user (fill.payments accounts)
  let tokens ← paid.tokens.transfer accounts.associatedBondingCurve accounts.associatedUser
    accounts.bondingCurve fill.tokensOut
  return (paid.setTokens tokens).setInfo accounts.bondingCurve
    { owner := PUMP_PROGRAM_ID, data := fill.curve }

/-- A buy that goes through is admitted, filled, paid for by the user, and credited as asked. -/
theorem cpiBuyExactSolIn_ok {env : Env} {start world after : World}
    {callerAccounts : List Pubkey} {accounts : BuyExactSolIn}
    {spendableSolIn minTokensOut : UInt64} :
    cpiBuyExactSolIn env start world callerAccounts accounts spendableSolIn minTokensOut
        = .ok after ↔
      ∃ (credited : TokenAccount) (fill : Fill) (paid : World) (tokens : Tokens),
        env.admitsCall start.lamports world.lamports callerAccounts accounts.handed = true ∧
        accounts.bondingCurve = bondingCurvePda accounts.mint ∧
        world.tokens.lookup accounts.associatedUser = some credited ∧
        credited.mint = accounts.mint ∧
        env.buyExactSolIn world accounts spendableSolIn minTokensOut = some fill ∧
        minTokensOut ≤ fill.tokensOut ∧
        (∀ payment ∈ fill.payments accounts, payment.1.isProgramDerived = false) ∧
        world.payOut (.batchit .BuyFailed) accounts.user (fill.payments accounts) = .ok paid ∧
        paid.tokens.transfer accounts.associatedBondingCurve accounts.associatedUser
          accounts.bondingCurve fill.tokensOut = .ok tokens ∧
        after = (paid.setTokens tokens).setInfo
          accounts.bondingCurve { owner := PUMP_PROGRAM_ID, data := fill.curve } := by
  -- The checks come in the order the call makes them.
  simp only [cpiBuyExactSolIn, bind_eq_ok, require_eq_ok, okOr_eq_ok, pure_eq_ok, exists_const]
  constructor
  · intro taken
    obtain ⟨admitted, curve, credited, stored, ofMint, fill, filled, enough, foreign, paid, left,
      tokens, moved, rfl⟩ := taken
    exact ⟨credited, fill, paid, tokens, admitted, curve, stored, ofMint, filled, enough, foreign,
      left, moved, rfl⟩
  · intro facts
    obtain ⟨credited, fill, paid, tokens, admitted, curve, stored, ofMint, filled, enough, foreign,
      left, moved, rfl⟩ := facts
    exact ⟨admitted, curve, credited, stored, ofMint, fill, filled, enough, foreign, paid, left,
      tokens, moved, rfl⟩

/-- Whom a buy pays is handed to pump. -/
theorem Fill.paid_handed {fill : Fill} {accounts : BuyExactSolIn} {address : Pubkey}
    (paid : address ∈ (fill.payments accounts).map Prod.fst) : address ∈ accounts.handed := by
  simp only [payments, List.map_cons, List.map_nil, List.mem_cons, List.not_mem_nil, or_false]
    at paid
  simp only [BuyExactSolIn.handed, List.mem_cons, List.not_mem_nil, or_false]
  -- Five of the eighteen accounts are paid.
  tauto

/-- An account this program derives is none of those a buy pays. -/
theorem Fill.unpaid {fill : Fill} {accounts : BuyExactSolIn} {address : Pubkey}
    (derived : address.isProgramDerived = true)
    (foreign : ∀ payment ∈ fill.payments accounts, payment.1.isProgramDerived = false) :
    address ∉ (fill.payments accounts).map Prod.fst := by
  intro paid
  obtain ⟨payment, member, same⟩ := List.mem_map.mp paid
  -- The address would be derived and not derived.
  rw [← same, foreign payment member] at derived
  cases derived

/-- The payments of a buy by an account this program derives are none of them to itself. -/
theorem Fill.paidOut {fill : Fill} {accounts : BuyExactSolIn} {world paid : World}
    (derived : accounts.user.isProgramDerived = true)
    (foreign : ∀ payment ∈ fill.payments accounts, payment.1.isProgramDerived = false)
    (left : world.payOut (.batchit .BuyFailed) accounts.user (fill.payments accounts) = .ok paid) :
    World.PaidOut accounts.user ((fill.payments accounts).map Prod.fst) fill.taken world paid := by
  rw [← fill.payments_sum accounts]
  apply World.payOut_paidOut ?_ left
  -- The user is none of those it pays.
  intro payment member same
  exact Fill.unpaid derived foreign (List.mem_map.mpr ⟨payment, member, same.symm⟩)

end Batchit
