import Batchit.Instructions.Accounts

/-! Recording that a pool's grace period ended without a buy. -/

namespace Batchit

/-- The accounts of `mark_refundable`. -/
structure MarkRefundableAccounts where
  caller : Pubkey
  pool : Pubkey
  deriving DecidableEq, Repr

/-- Anyone may mark a pool that was not bought by the end of its grace. -/
def markRefundable (env : Env) (world : World) (now : Int64) (accounts : MarkRefundableAccounts) :
    Except Error World := do
  signer accounts.caller
  let pool ← loadPool env world accounts.pool
  -- The time is asked for first, so a pool of any status is too early before its grace ends.
  require (now ≥ pool.graceEndsAt) .LaunchTooEarly
  require (pool.status = .Launching ∨ pool.status = .Open) .BadStatus
  return world.setPool accounts.pool (some { pool with status := .Refundable })

/-- A pool is marked after its grace, from either status before a buy, changing only the status. -/
theorem markRefundable_ok {env : Env} {world after : World} {now : Int64}
    {accounts : MarkRefundableAccounts} :
    markRefundable env world now accounts = .ok after ↔
      ∃ pool : Pool,
        accounts.caller.canSign = true ∧
        loadPool env world accounts.pool = .ok pool ∧
        pool.graceEndsAt ≤ now ∧
        (pool.status = .Launching ∨ pool.status = .Open) ∧
        after = world.setPool accounts.pool (some { pool with status := .Refundable }) := by
  -- The guards are the conjuncts in the order they are tried.
  simp only [markRefundable, bind_eq_ok, signer_ok, require_eq_ok, pure_eq_ok, exists_const]
  constructor
  · intro taken
    obtain ⟨signed, pool, loaded, late, unspent, rfl⟩ := taken
    exact ⟨pool, signed, loaded, late, unspent, rfl⟩
  · intro facts
    obtain ⟨pool, signed, loaded, late, unspent, rfl⟩ := facts
    exact ⟨signed, pool, loaded, late, unspent, rfl⟩

end Batchit
