import Batchit.Instructions.Accounts

/-! Opening a pool account. -/

namespace Batchit

/-- The accounts of `create_pool`. -/
structure CreatePoolAccounts where
  creator : Pubkey
  pool : Pubkey
  buyer : Pubkey
  deriving DecidableEq, Repr

/-- The terms of a new pool, as its creator asks for them. -/
structure CreatePoolArgs where
  seed : UInt64
  launchAt : Int64
  graceSecs : Int64
  minRaiseLamports : UInt64
  maxPoolLamports : UInt64
  minContributionLamports : UInt64
  deriving DecidableEq, Repr

/-- The pool account a call initializes. -/
def CreatePoolArgs.opened (args : CreatePoolArgs) (env : Env) (accounts : CreatePoolAccounts)
    (graceEndsAt : Int64) : Pool where
  bump := env.bump accounts.pool
  buyerBump := env.bump accounts.buyer
  status := .Open
  creator := accounts.creator
  seed := args.seed
  mint := .default
  launchAt := args.launchAt
  graceEndsAt := graceEndsAt
  minRaiseLamports := args.minRaiseLamports
  maxPoolLamports := args.maxPoolLamports
  minContributionLamports := args.minContributionLamports
  totalContributed := 0
  contributorCount := 0
  tokensBought := 0
  distributable := 0
  burned := 0
  postVirtualTokenReserves := 0
  postVirtualQuoteReserves := 0
  totalClaimed := 0
  totalRefunded := 0

/-- A creator opens a pool on its terms, at an address of its own for each seed. -/
def createPool (env : Env) (world : World) (now : Int64) (accounts : CreatePoolAccounts)
    (args : CreatePoolArgs) : Except Error World := do
  signer accounts.creator
  constraint (accounts.pool = .pool accounts.creator args.seed) .ConstraintSeeds
  constraint (world.pools accounts.pool = none) .AccountAlreadyInUse
  let world ← payRent env world accounts.creator accounts.pool Pool.LEN
  constraint (accounts.buyer = .buyer accounts.pool) .ConstraintSeeds
  -- The account is allocated and paid for before the arguments are checked.
  require (args.graceSecs > 0) .InvalidParams
  require (args.minContributionLamports > 0) .InvalidParams
  require (args.minRaiseLamports ≥ args.minContributionLamports) .InvalidParams
  require (args.maxPoolLamports ≥ args.minRaiseLamports) .InvalidParams
  require (args.launchAt > now) .InvalidParams
  let graceEndsAt ← okOr (args.launchAt.checkedAdd args.graceSecs) .MathOverflow
  return world.setPool accounts.pool (some (args.opened env accounts graceEndsAt))

/-- A pool opens at an unused address of its creator, with bounds and times in order. -/
theorem createPool_ok {env : Env} {world after : World} {now : Int64}
    {accounts : CreatePoolAccounts} {args : CreatePoolArgs} :
    createPool env world now accounts args = .ok after ↔
      ∃ (paid : World) (graceEndsAt : Int64),
        accounts.creator.canSign = true ∧
        accounts.pool = .pool accounts.creator args.seed ∧
        accounts.buyer = .buyer accounts.pool ∧
        world.pools accounts.pool = none ∧
        payRent env world accounts.creator accounts.pool Pool.LEN = .ok paid ∧
        0 < args.graceSecs ∧
        0 < args.minContributionLamports ∧
        args.minContributionLamports ≤ args.minRaiseLamports ∧
        args.minRaiseLamports ≤ args.maxPoolLamports ∧
        now < args.launchAt ∧
        graceEndsAt.toInt = args.launchAt.toInt + args.graceSecs.toInt ∧
        after = paid.setPool accounts.pool (some (args.opened env accounts graceEndsAt)) := by
  -- Each guard of the handler is one conjunct, and the last step is the only write.
  simp only [createPool, bind_eq_ok, signer_ok, constraint_eq_ok, require_eq_ok, okOr_eq_ok,
    pure_eq_ok, exists_const, Int64.checkedAdd_eq_some]
  constructor
  · intro taken
    obtain ⟨signed, address, unused, paid, rent, buyer, grace, least, raise, most, launch,
      graceEndsAt, ends, rfl⟩ := taken
    exact ⟨paid, graceEndsAt, signed, address, buyer, unused, rent, grace, least, raise, most,
      launch, ends, rfl⟩
  · intro facts
    obtain ⟨paid, graceEndsAt, signed, address, buyer, unused, rent, grace, least, raise, most,
      launch, ends, rfl⟩ := facts
    exact ⟨signed, address, unused, paid, rent, buyer, grace, least, raise, most, launch,
      graceEndsAt, ends, rfl⟩

end Batchit
