import Batchit.Events
import Batchit.Lib.Replay

/-!
What the log is for: a replica of the pools and stakes, kept by an auditor who sees only events.

The auditor believes nothing it can check, and stops at the first event that does not add up.
-/

namespace Batchit

/-- The pools and stakes an auditor has read out of the log. -/
structure Replica where
  pools : Pubkey → Option Pool
  stakes : Pubkey → Option Contribution

namespace Replica

/-- A replica that has seen no event. -/
def empty : Replica where
  pools _ := none
  stakes _ := none

/-- The stake read for a contributor in a pool. -/
def stake (replica : Replica) (pool contributor : Pubkey) : Option Contribution :=
  replica.stakes (.contribution pool contributor)

/-- Write one pool. -/
def setPool (replica : Replica) (address : Pubkey) (pool : Pool) : Replica :=
  { replica with pools := Function.update replica.pools address (some pool) }

/-- Write one stake. -/
def setStake (replica : Replica) (pool contributor : Pubkey) (record : Contribution) : Replica :=
  { replica with
    stakes := Function.update replica.stakes (.contribution pool contributor) (some record) }

/-- Whether an address can be opened: nothing is known of it, or it may have been closed unseen. -/
def vacant (replica : Replica) (address : Pubkey) : Bool :=
  (replica.pools address).all fun pool =>
    pool.totalContributed = 0 && pool.status = .Refundable

section Apply

variable (env : Env) (replica : Replica)

/-- A pool opened at an address, as its event describes it. -/
def openPool (pool creator : Pubkey) (seed : UInt64) (launchAt graceEndsAt : Int64)
    (minRaiseLamports maxPoolLamports minContributionLamports : UInt64) : Option Replica := do
  guard (pool = .pool creator seed)
  guard (replica.vacant pool)
  guard (launchAt < graceEndsAt)
  guard (0 < minContributionLamports ∧ minContributionLamports ≤ minRaiseLamports ∧
    minRaiseLamports ≤ maxPoolLamports)
  return replica.setPool pool {
    bump := env.bump pool
    buyerBump := env.bump (.buyer pool)
    status := .Open
    creator
    seed
    mint := .default
    launchAt
    graceEndsAt
    minRaiseLamports
    maxPoolLamports
    minContributionLamports
    totalContributed := 0
    contributorCount := 0
    tokensBought := 0
    distributable := 0
    burned := 0
    postVirtualTokenReserves := 0
    postVirtualQuoteReserves := 0
    totalClaimed := 0
    totalRefunded := 0 }

/-- The stake a contribution adds to, and the contributors there are with it. -/
def stakeFor (account : Pool) (pool contributor : Pubkey) : Option (Contribution × UInt32) :=
  match replica.stake pool contributor with
  | some record => some (record, account.contributorCount)
  | none => do
    let count ← account.contributorCount.checkedAdd 1
    return ({
      bump := env.bump (.contribution pool contributor)
      pool
      contributor
      amount := 0
      claimed := false
      refunded := false }, count)

/-- A contribution, whose logged total must be the known total and the amount. -/
def deposit (pool contributor : Pubkey) (amount totalContributed : UInt64) : Option Replica := do
  let account ← replica.pools pool
  guard (account.status = .Open ∧ account.minContributionLamports ≤ amount)
  guard (account.totalContributed.checkedAdd amount = some totalContributed ∧
    totalContributed ≤ account.maxPoolLamports)
  let (record, contributorCount) ← replica.stakeFor env account pool contributor
  guard (record.claimed = false ∧ record.refunded = false)
  let total ← record.amount.checkedAdd amount
  return (replica.setStake pool contributor { record with amount := total }).setPool pool
    { account with contributorCount, totalContributed }

/-- A launch, whose raise must have been met. -/
def launch (pool mint : Pubkey) (totalContributed : UInt64) : Option Replica := do
  let account ← replica.pools pool
  guard (account.status = .Open ∧ account.mint = .default ∧ mint ≠ .default)
  guard (totalContributed = account.totalContributed ∧
    account.minRaiseLamports ≤ totalContributed)
  return replica.setPool pool { account with mint, status := .Launching }

/-- The buy, which must spend the whole of what was contributed on the mint committed to. -/
def buy (pool mint : Pubkey) (spendableSol tokensBought postVirtualTokenReserves
    postVirtualQuoteReserves : UInt64) : Option Replica := do
  let account ← replica.pools pool
  guard (account.status = .Launching ∧ mint = account.mint)
  guard (spendableSol = account.totalContributed ∧ 0 < spendableSol ∧ 0 < tokensBought)
  return replica.setPool pool { account with
    tokensBought
    postVirtualTokenReserves
    postVirtualQuoteReserves
    status := .Bought }

/-- The split, which the auditor computes again from what is logged with it. -/
def settle (pool mint : Pubkey) (totalContributed tokensBought distributable burned
    postVirtualTokenReserves postVirtualQuoteReserves : UInt64) : Option Replica := do
  let account ← replica.pools pool
  guard (account.status = .Bought ∧ mint = account.mint)
  guard (totalContributed = account.totalContributed ∧ tokensBought = account.tokensBought)
  let split ← (computeDistributable totalContributed tokensBought postVirtualTokenReserves
    postVirtualQuoteReserves).toOption
  guard (split = (distributable, burned))
  return replica.setPool pool
    (account.finalized distributable burned postVirtualTokenReserves postVirtualQuoteReserves)

/-- A claim, which must pay the stake known its allocation, once. -/
def pay (pool contributor : Pubkey) (amount tokens : UInt64) : Option Replica := do
  let account ← replica.pools pool
  let record ← replica.stake pool contributor
  guard (account.status = .Finalized ∧ record.claimed = false ∧ record.refunded = false)
  guard (amount = record.amount ∧ 0 < amount)
  let share ← (allocation account.distributable amount account.totalContributed).toOption
  guard (share = tokens)
  let totalClaimed ← account.totalClaimed.checkedAdd tokens
  return (replica.setStake pool contributor { record with claimed := true }).setPool pool
    { account with totalClaimed }

/-- A refund, which must pay back the whole stake known, once, and before any buy. -/
def repay (pool contributor : Pubkey) (amount : UInt64) : Option Replica := do
  let account ← replica.pools pool
  let record ← replica.stake pool contributor
  guard (account.status = .Open ∨ account.status = .Launching ∨ account.status = .Refundable)
  guard (record.claimed = false ∧ record.refunded = false ∧ amount = record.amount ∧ 0 < amount)
  let totalContributed ← account.totalContributed.checkedSub amount
  let totalRefunded ← account.totalRefunded.checkedAdd amount
  return (replica.setStake pool contributor { record with refunded := true, amount := 0 }).setPool
    pool { account with status := .Refundable, totalContributed, totalRefunded }

/-- The end of a pool's grace, before any buy. -/
def mark (pool : Pubkey) : Option Replica := do
  let account ← replica.pools pool
  guard (account.status = .Launching ∨ account.status = .Open)
  return replica.setPool pool { account with status := .Refundable }

/-- What one event makes of a replica, or nothing when the auditor does not believe it. -/
def apply : Event → Option Replica
  | .PoolCreated pool creator seed launchAt graceEndsAt minRaiseLamports maxPoolLamports
      minContributionLamports =>
    replica.openPool env pool creator seed launchAt graceEndsAt minRaiseLamports maxPoolLamports
      minContributionLamports
  | .Contributed pool contributor amount totalContributed =>
    replica.deposit env pool contributor amount totalContributed
  | .LaunchBegun pool mint totalContributed => replica.launch pool mint totalContributed
  | .BuyCompleted pool mint spendableSol tokensBought postVirtualTokenReserves
      postVirtualQuoteReserves =>
    replica.buy pool mint spendableSol tokensBought postVirtualTokenReserves
      postVirtualQuoteReserves
  | .Finalized pool mint totalContributed tokensBought distributable burned
      postVirtualTokenReserves postVirtualQuoteReserves =>
    replica.settle pool mint totalContributed tokensBought distributable burned
      postVirtualTokenReserves postVirtualQuoteReserves
  | .Claimed pool contributor amount tokens => replica.pay pool contributor amount tokens
  | .Refunded pool contributor amount => replica.repay pool contributor amount
  | .MarkedRefundable pool => replica.mark pool

end Apply

end Replica

end Batchit
