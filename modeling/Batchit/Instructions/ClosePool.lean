import Batchit.Instructions.Accounts

/-! Reclaiming the account of an empty pool. -/

namespace Batchit

/-- The accounts of `close_pool`. -/
structure ClosePoolAccounts where
  creator : Pubkey
  pool : Pubkey
  deriving DecidableEq, Repr

/-- The creator closes a pool that records no contributed lamports, and gets all that it holds. -/
def closePool (env : Env) (world : World) (accounts : ClosePoolAccounts) :
    Except Error World := do
  signer accounts.creator
  let pool ← found (world.pools accounts.pool) .AccountNotInitialized
  seeds env accounts.pool (.pool accounts.creator pool.seed) pool.bump
  constraint (pool.creator = accounts.creator) .ConstraintHasOne
  require (pool.totalContributed = 0) .PoolNotEmpty
  -- The handler asks for the empty total again, after the status.
  require (pool.status = .Refundable ∨ pool.status = .Finalized ∨ pool.status = .Closed) .BadStatus
  require (pool.totalContributed = 0) .PoolNotEmpty
  -- Closing sends every lamport of the account to the creator and frees the account.
  let world ← world.systemTransfer accounts.pool accounts.creator (world.lamports accounts.pool)
  return world.setPool accounts.pool none

/-- Only its creator closes a pool, and only a settled one whose contributed total is zero. -/
theorem closePool_ok {env : Env} {world after : World} {accounts : ClosePoolAccounts} :
    closePool env world accounts = .ok after ↔
      ∃ (pool : Pool) (paid : World),
        accounts.creator.canSign = true ∧
        loadPool env world accounts.pool = .ok pool ∧
        pool.creator = accounts.creator ∧
        (pool.status = .Refundable ∨ pool.status = .Finalized ∨ pool.status = .Closed) ∧
        pool.totalContributed = 0 ∧
        world.systemTransfer accounts.pool accounts.creator (world.lamports accounts.pool)
          = .ok paid ∧
        after = paid.setPool accounts.pool none := by
  -- The signer stands in the seeds where other instructions use the recorded creator.
  simp only [closePool, seeds, bind_eq_ok, signer_ok, found_eq_ok, constraint_eq_ok, require_eq_ok,
    pure_eq_ok, exists_const, loadPool_ok]
  constructor
  · intro taken
    obtain ⟨signed, pool, stored, ⟨address, bump⟩, creator, empty, settled, -, paid, moved, rfl⟩ :=
      taken
    rw [← creator] at address bump
    exact ⟨pool, paid, signed, ⟨stored, address, bump⟩, creator, settled, empty, moved, rfl⟩
  · intro facts
    obtain ⟨pool, paid, signed, ⟨stored, address, bump⟩, creator, settled, empty, moved, rfl⟩ :=
      facts
    rw [creator] at address bump
    exact ⟨signed, pool, stored, ⟨address, bump⟩, creator, empty, settled, empty, paid, moved, rfl⟩

end Batchit
