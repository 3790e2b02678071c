import Batchit.Instructions.Accounts

/-! Committing the mint of a pool whose raise succeeded. -/

namespace Batchit

/-- The accounts of `begin_launch`. -/
structure BeginLaunchAccounts where
  caller : Pubkey
  pool : Pubkey
  deriving DecidableEq, Repr

/-- Anyone may commit an open pool to a mint, between its launch time and the end of its grace. -/
def beginLaunch (env : Env) (world : World) (now : Int64) (accounts : BeginLaunchAccounts)
    (mint : Pubkey) : Except Error World := do
  signer accounts.caller
  let pool ← loadPool env world accounts.pool
  -- Anyone may sign, so the window and the raise are all that guards the launch.
  require (pool.status = .Open) .BadStatus
  require (mint ≠ .default) .InvalidParams
  require (now ≥ pool.launchAt) .LaunchTooEarly
  require (now < pool.graceEndsAt) .LaunchGraceExpired
  require (pool.totalContributed ≥ pool.minRaiseLamports) .MinRaiseNotMet
  require (pool.mint = .default) .MintAlreadySet
  return world.setPool accounts.pool (some { pool with mint, status := .Launching })

/-- A launch begins inside the window, once the raise is met, and changes only mint and status. -/
theorem beginLaunch_ok {env : Env} {world after : World} {now : Int64}
    {accounts : BeginLaunchAccounts} {mint : Pubkey} :
    beginLaunch env world now accounts mint = .ok after ↔
      ∃ pool : Pool,
        accounts.caller.canSign = true ∧
        loadPool env world accounts.pool = .ok pool ∧
        pool.status = .Open ∧
        mint ≠ .default ∧
        pool.launchAt ≤ now ∧
        now < pool.graceEndsAt ∧
        pool.minRaiseLamports ≤ pool.totalContributed ∧
        pool.mint = .default ∧
        after = world.setPool accounts.pool (some { pool with mint, status := .Launching }) := by
  -- The guards are the conjuncts in the order they are tried.
  simp only [beginLaunch, bind_eq_ok, signer_ok, require_eq_ok, pure_eq_ok, exists_const]
  constructor
  · intro taken
    obtain ⟨signed, pool, loaded, isOpen, named, late, early, raised, unset, rfl⟩ := taken
    exact ⟨pool, signed, loaded, isOpen, named, late, early, raised, unset, rfl⟩
  · intro facts
    obtain ⟨pool, signed, loaded, isOpen, named, late, early, raised, unset, rfl⟩ := facts
    exact ⟨signed, pool, loaded, isOpen, named, late, early, raised, unset, rfl⟩

end Batchit
