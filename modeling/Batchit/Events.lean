import Batchit.Protocol.Step

/-! The events the program logs, and the one each successful call emits. -/

namespace Batchit

/-- What the program announces: one kind of event for each thing that is done to a pool. -/
inductive Event where
  | PoolCreated (pool creator : Pubkey) (seed : UInt64) (launchAt graceEndsAt : Int64)
      (minRaiseLamports maxPoolLamports minContributionLamports : UInt64)
  | Contributed (pool contributor : Pubkey) (amount totalContributed : UInt64)
  | LaunchBegun (pool mint : Pubkey) (totalContributed : UInt64)
  | BuyCompleted (pool mint : Pubkey) (spendableSol tokensBought postVirtualTokenReserves
      postVirtualQuoteReserves : UInt64)
  /-- The burn breakdown, for public audit. -/
  | Finalized (pool mint : Pubkey) (totalContributed tokensBought distributable burned
      postVirtualTokenReserves postVirtualQuoteReserves : UInt64)
  | Claimed (pool contributor : Pubkey) (amount tokens : UInt64)
  | Refunded (pool contributor : Pubkey) (amount : UInt64)
  | MarkedRefundable (pool : Pubkey)
  deriving DecidableEq, Repr

/-- The event a call emits as its last act, read off the accounts before and after it. -/
def emitted (before after : World) : Instruction → Option Event
  | .createPool accounts args => do
    let pool ← after.pools accounts.pool
    return .PoolCreated accounts.pool pool.creator args.seed args.launchAt pool.graceEndsAt
      args.minRaiseLamports args.maxPoolLamports args.minContributionLamports
  | .contribute accounts amount => do
    let pool ← after.pools accounts.pool
    let contrib ← after.contributions.lookup accounts.contribution
    return .Contributed accounts.pool contrib.contributor amount pool.totalContributed
  | .beginLaunch accounts mint => do
    let pool ← after.pools accounts.pool
    return .LaunchBegun accounts.pool mint pool.totalContributed
  | .completeBuy accounts _ => do
    let spending ← before.pools accounts.pool
    -- A repeated buy returns before it emits anything.
    guard (spending.status ≠ .Bought)
    let pool ← after.pools accounts.pool
    return .BuyCompleted accounts.pool pool.mint spending.totalContributed pool.tokensBought
      pool.postVirtualTokenReserves pool.postVirtualQuoteReserves
  | .finalize accounts => do
    let pool ← after.pools accounts.pool
    return .Finalized accounts.pool pool.mint pool.totalContributed pool.tokensBought
      pool.distributable pool.burned pool.postVirtualTokenReserves pool.postVirtualQuoteReserves
  | .claim accounts => do
    let pool ← before.pools accounts.pool
    let contrib ← before.contributions.lookup accounts.contribution
    let tokens ← (allocation pool.distributable contrib.amount pool.totalContributed).toOption
    return .Claimed accounts.pool contrib.contributor contrib.amount tokens
  | .refund accounts => do
    let contrib ← before.contributions.lookup accounts.contribution
    -- The amount is read before the record is zeroed.
    return .Refunded accounts.pool contrib.contributor contrib.amount
  | .markRefundable accounts => some (.MarkedRefundable accounts.pool)
  -- Closing a pool is not logged, and neither is anything the program does not do.
  | .closePool _ | .systemTransfer _ _ _ | .token _ | .writeAccount _ _ | .pumpCreate _ _
  | .pumpTrade .. => none

/-- The events of one recorded step. -/
def eventsOf (transition : Transition) : List Event :=
  (emitted transition.pre transition.post transition.action.instruction).toList

end Batchit
