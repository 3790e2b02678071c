import Batchit.Instructions.Accounts

/-! Paying a contributor back out of the escrow. -/

namespace Batchit

/-- The accounts of `refund`. -/
structure RefundAccounts where
  contributor : Pubkey
  pool : Pubkey
  contribution : Pubkey
  deriving DecidableEq, Repr

/-- Whether a pool pays refunds at a time. -/
def Pool.refundAllowed (pool : Pool) (now : Int64) : Bool :=
  match pool.status with
  | .Refundable => true
  | .Launching => now ≥ pool.graceEndsAt
  | .Open => now ≥ pool.graceEndsAt
  | _ => false

/-- The status a refund leaves: a pool past its grace that never bought becomes refundable. -/
def Pool.statusAfterGrace (pool : Pool) (now : Int64) : PoolStatus :=
  if pool.status = .Launching ∨ pool.status = .Open then
    if now ≥ pool.graceEndsAt ∧ pool.status ≠ .Bought then .Refundable else pool.status
  else pool.status

/-- A contributor gets back what it paid into a pool that was not bought in time. -/
def refund (env : Env) (world : World) (now : Int64) (accounts : RefundAccounts) :
    Except Error World := do
  signer accounts.contributor
  let pool ← loadPool env world accounts.pool
  let contrib ← loadContribution env world accounts.contribution accounts.pool accounts.contributor
  require (pool.refundAllowed now = true) .RefundNotAllowed
  -- The transition is written even when the call is the first to notice it.
  let status := pool.statusAfterGrace now
  require (contrib.contributor = accounts.contributor) .NotContributor
  require (contrib.refunded = false) .NothingToRefund
  require (contrib.claimed = false) .NothingToRefund
  require (contrib.amount > 0) .NothingToRefund
  let amount := contrib.amount
  let totalContributed ← okOr (pool.totalContributed.checkedSub amount) .MathOverflow
  let totalRefunded ← okOr (pool.totalRefunded.checkedAdd amount) .MathOverflow
  -- Both balances are edited in place, the pool account being the program's own.
  let world ← world.editLamports accounts.pool accounts.contributor amount
  return (world.setContribution accounts.contribution
    { contrib with refunded := true, amount := 0 }).setPool accounts.pool
    (some { pool with status, totalContributed, totalRefunded })

/-- A pool that pays refunds is refundable once it has paid one. -/
theorem Pool.statusAfterGrace_of_allowed {pool : Pool} {now : Int64}
    (allowed : pool.refundAllowed now = true) : pool.statusAfterGrace now = .Refundable := by
  -- Either it was refundable already, or its grace is over and it has not bought.
  unfold refundAllowed at allowed
  unfold statusAfterGrace
  cases status : pool.status <;> simp_all

/-- A refund pays out one recorded stake in full, once, and zeroes its record. -/
theorem refund_ok {env : Env} {world after : World} {now : Int64} {accounts : RefundAccounts} :
    refund env world now accounts = .ok after ↔
      ∃ (pool : Pool) (contrib : Contribution) (totalContributed totalRefunded : UInt64)
        (paid : World),
        accounts.contributor.canSign = true ∧
        loadPool env world accounts.pool = .ok pool ∧
        loadContribution env world accounts.contribution accounts.pool accounts.contributor
          = .ok contrib ∧
        pool.refundAllowed now = true ∧
        contrib.contributor = accounts.contributor ∧
        contrib.refunded = false ∧
        contrib.claimed = false ∧
        0 < contrib.amount ∧
        totalContributed.toNat + contrib.amount.toNat = pool.totalContributed.toNat ∧
        totalRefunded.toNat = pool.totalRefunded.toNat + contrib.amount.toNat ∧
        world.editLamports accounts.pool accounts.contributor contrib.amount = .ok paid ∧
        after = (paid.setContribution accounts.contribution
          { contrib with refunded := true, amount := 0 }).setPool accounts.pool
          (some { pool with status := .Refundable, totalContributed, totalRefunded }) := by
  -- The hidden transition is settled by the refund being allowed at all.
  simp only [refund, bind_eq_ok, signer_ok, require_eq_ok, okOr_eq_ok, pure_eq_ok, exists_const,
    UInt64.checkedAdd_eq_some, UInt64.checkedSub_eq_some]
  constructor
  · intro taken
    obtain ⟨signed, pool, loaded, contrib, record, allowed, owner, unrefunded, unclaimed, positive,
      total, subtracted, refunded, added, paid, moved, rfl⟩ := taken
    rw [Pool.statusAfterGrace_of_allowed allowed]
    exact ⟨pool, contrib, total, refunded, paid, signed, loaded, record, allowed, owner,
      unrefunded, unclaimed, positive, subtracted, added, moved, rfl⟩
  · intro facts
    obtain ⟨pool, contrib, total, refunded, paid, signed, loaded, record, allowed, owner,
      unrefunded, unclaimed, positive, subtracted, added, moved, rfl⟩ := facts
    refine ⟨signed, pool, loaded, contrib, record, allowed, owner, unrefunded, unclaimed, positive,
      total, subtracted, refunded, added, paid, moved, ?_⟩
    rw [Pool.statusAfterGrace_of_allowed allowed]

end Batchit
