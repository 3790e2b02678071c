import Batchit.Pump

/-! Account constraints that several instructions share. -/

namespace Batchit

/-- Check that an account signed the call. -/
def signer (address : Pubkey) : Except Error Unit :=
  constraint (address.canSign = true) .MissingRequiredSignature

/-- Check an address against its seeds under a recorded bump. -/
def seeds (env : Env) (address derived : Pubkey) (bump : UInt8) : Except Error Unit :=
  constraint (address = derived ∧ bump = env.bump derived) .ConstraintSeeds

/-- Load the pool account at an address, checked against its own recorded seeds and bump. -/
def loadPool (env : Env) (world : World) (address : Pubkey) : Except Error Pool := do
  let pool ← found (world.pools address) .AccountNotInitialized
  seeds env address (.pool pool.creator pool.seed) pool.bump
  return pool

/-- Check the buyer account of a pool against its seeds and the pool's recorded buyer bump. -/
def buyerSeeds (env : Env) (pool : Pool) (address poolAddress : Pubkey) : Except Error Unit :=
  seeds env address (.buyer poolAddress) pool.buyerBump

/-- Load a contributor's account in a pool: its seeds, its recorded bump, and its pool. -/
def loadContribution (env : Env) (world : World) (address pool contributor : Pubkey) :
    Except Error Contribution := do
  let contribution ← found (world.contributions.lookup address) .AccountNotInitialized
  seeds env address (.contribution pool contributor) contribution.bump
  constraint (contribution.pool = pool) .ConstraintHasOne
  return contribution

/-- Pay a new account up to its rent-exempt minimum, whatever it already holds. -/
def payRent (env : Env) (world : World) (payer address : Pubkey) (space : Nat) :
    Except Error World :=
  world.systemTransfer payer address
    ((env.minimumBalance space).saturatingSub (world.lamports address))

/-- A loaded pool is the one stored, at the address its creator and seed derive. -/
@[simp] theorem loadPool_ok {env : Env} {world : World} {address : Pubkey} {pool : Pool} :
    loadPool env world address = .ok pool ↔
      world.pools address = some pool ∧ address = .pool pool.creator pool.seed ∧
        pool.bump = env.bump (.pool pool.creator pool.seed) := by
  -- The constraint reads the seeds out of the account it checks.
  simp only [loadPool, seeds, bind_eq_ok, found_eq_ok, constraint_eq_ok, pure_eq_ok, exists_const]
  constructor
  · intro taken
    obtain ⟨loaded, stored, derived, rfl⟩ := taken
    exact ⟨stored, derived⟩
  · intro facts
    obtain ⟨stored, derived⟩ := facts
    exact ⟨pool, stored, derived, rfl⟩

/-- A loaded contribution is the one stored for the contributor in the pool. -/
@[simp] theorem loadContribution_ok {env : Env} {world : World}
    {address pool contributor : Pubkey} {contribution : Contribution} :
    loadContribution env world address pool contributor = .ok contribution ↔
      world.stake pool contributor = some contribution ∧
        address = .contribution pool contributor ∧
        contribution.bump = env.bump (.contribution pool contributor) ∧
        contribution.pool = pool := by
  -- The seeds fix the address, so the account found there is the contributor's own.
  simp only [loadContribution, seeds, World.stake, bind_eq_ok, found_eq_ok, constraint_eq_ok,
    pure_eq_ok, exists_const]
  constructor
  · intro taken
    obtain ⟨loaded, stored, ⟨rfl, bump⟩, samePool, rfl⟩ := taken
    exact ⟨stored, rfl, bump, samePool⟩
  · intro facts
    obtain ⟨stored, rfl, bump, samePool⟩ := facts
    exact ⟨contribution, stored, ⟨rfl, bump⟩, samePool, rfl⟩

/-- Only an account that can sign passes for a signer. -/
@[simp] theorem signer_ok {address : Pubkey} {passed : Unit} :
    signer address = .ok passed ↔ address.canSign = true := constraint_eq_ok

/-- An account that can sign passes for a signer. -/
theorem signer_of {address : Pubkey} (signed : address.canSign = true) :
    signer address = .ok () := constraint_of signed

/-- The buyer passes at its derived address and under its recorded bump alone. -/
@[simp] theorem buyerSeeds_ok {env : Env} {pool : Pool} {address poolAddress : Pubkey}
    {passed : Unit} :
    buyerSeeds env pool address poolAddress = .ok passed ↔
      address = .buyer poolAddress ∧ pool.buyerBump = env.bump (.buyer poolAddress) :=
  constraint_eq_ok

/-- The buyer of a pool is an account this program derives. -/
theorem derived_of_buyerSeeds {env : Env} {pool : Pool} {address poolAddress : Pubkey}
    {passed : Unit} (checked : buyerSeeds env pool address poolAddress = .ok passed) :
    address.isProgramDerived = true := by
  -- Its seeds name it.
  rw [(buyerSeeds_ok.mp checked).1]
  rfl

end Batchit
