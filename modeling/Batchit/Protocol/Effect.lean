import Batchit.Protocol.Frame

/-! What one step can do to one pool: the inversion every invariant is derived from. -/

namespace Batchit

/-- Every record of a pool reads the same in two states. -/
structure SameRecords (pool : Pubkey) (before after : World) : Prop where
  stakes : ∀ contributor, after.stake pool contributor = before.stake pool contributor
  totals : ∀ measure, after.stakeTotal pool measure = before.stakeTotal pool measure

/-- One contributor's record was written, and every other record of the pool left alone. -/
structure Written (pool contributor : Pubkey) (new : Contribution) (before after : World) :
    Prop where
  record : after.stake pool contributor = some new
  others : ∀ another, another ≠ contributor →
    after.stake pool another = before.stake pool another
  totals : ∀ measure,
    after.stakeTotal pool measure + (before.stake pool contributor).elim 0 measure
      = before.stakeTotal pool measure + measure new

/-- Contribution accounts left as they are leave every record of a pool as it is. -/
theorem SameRecords.of_eq {pool : Pubkey} {before after : World}
    (same : after.contributions = before.contributions) : SameRecords pool before after where
  stakes _ := by rw [World.stake, World.stake, same]
  totals _ := by rw [World.stakeTotal, World.stakeTotal, same]

/-- Inserting one record at its own address writes that record and no other. -/
theorem Written.of_insert {pool contributor : Pubkey} {new : Contribution} {before after : World}
    (home : before.StakesAtHome) (newPool : new.pool = pool)
    (inserted : after.contributions
      = before.contributions.insert (.contribution pool contributor) new) :
    Written pool contributor new before after := by
  -- Records read only the contribution accounts, and those are as after one write.
  have same : SameRecords pool (before.setContribution (.contribution pool contributor) new)
      after := .of_eq inserted
  have ofPool (old : Contribution) (stored : before.stake pool contributor = some old) :
      old.pool = pool := (home _ _ _ stored).1
  exact {
    record := by rw [same.stakes, World.stake_setContribution]
    others := fun another differ => by
      rw [same.stakes, World.stake_setContribution_ne (.inr differ)]
    totals := fun measure => by
      rw [same.totals]
      exact World.stakeTotal_insert pool contributor new measure ofPool newPool }

section Effects

variable (env : Env) (pool : Pubkey) (before : World) (action : Action) (after : World)

/-- The pool account was created. -/
structure Created (accounts : CreatePoolAccounts) (args : CreatePoolArgs) (graceEndsAt : Int64) :
    Prop where
  instruction : action.instruction = .createPool accounts args
  target : accounts.pool = pool
  signed : accounts.creator.canSign = true
  address : pool = .pool accounts.creator args.seed
  buyer : accounts.buyer = .buyer pool
  unused : before.pools pool = none
  grace : 0 < args.graceSecs
  least : 0 < args.minContributionLamports
  raise : args.minContributionLamports ≤ args.minRaiseLamports
  most : args.minRaiseLamports ≤ args.maxPoolLamports
  early : action.now < args.launchAt
  ends : graceEndsAt.toInt = args.launchAt.toInt + args.graceSecs.toInt
  account : after.pools pool = some (args.opened env accounts graceEndsAt)
  records : SameRecords pool before after
  lamports : (after.lamports pool).toNat = (before.lamports pool).toNat
    + ((env.minimumBalance Pool.LEN).toNat - (before.lamports pool).toNat)

/-- A contribution was accepted. -/
structure Contributed (accounts : ContributeAccounts) (amount : UInt64) (account : Pool)
    (newTotal total : UInt64) (count : UInt32) : Prop where
  instruction : action.instruction = .contribute accounts amount
  target : accounts.pool = pool
  signed : accounts.contributor.canSign = true
  record : accounts.contribution = .contribution pool accounts.contributor
  stored : before.pools pool = some account
  positive : 0 < amount
  status : account.status = .Open
  early : action.now < account.launchAt
  enough : account.minContributionLamports ≤ amount
  added : newTotal.toNat = account.totalContributed.toNat + amount.toNat
  bounded : newTotal ≤ account.maxPoolLamports
  counted : count.toNat = account.contributorCount.toNat
    + (if before.stake pool accounts.contributor = none then 1 else 0)
  unrefunded : (before.stakeOrNew env accounts).refunded = false
  unclaimed : (before.stakeOrNew env accounts).claimed = false
  summed : total.toNat = (before.stakeOrNew env accounts).amount.toNat + amount.toNat
  written : Written pool accounts.contributor
    { before.stakeOrNew env accounts with amount := total } before after
  accountAfter : after.pools pool
    = some { account with contributorCount := count, totalContributed := newTotal }
  lamports : (after.lamports pool).toNat = (before.lamports pool).toNat + amount.toNat

/-- The mint was committed and the launch begun. -/
structure Launched (accounts : BeginLaunchAccounts) (mint : Pubkey) (account : Pool) : Prop where
  instruction : action.instruction = .beginLaunch accounts mint
  target : accounts.pool = pool
  stored : before.pools pool = some account
  status : account.status = .Open
  named : mint ≠ .default
  late : account.launchAt ≤ action.now
  early : action.now < account.graceEndsAt
  raised : account.minRaiseLamports ≤ account.totalContributed
  unset : account.mint = .default
  accountAfter : after.pools pool = some { account with mint, status := .Launching }
  frame : after = before.setPool pool (some { account with mint, status := .Launching })

/-- The escrow was spent on the pool's buy. -/
structure Spent (accounts : CompleteBuyAccounts) (minTokensOut : UInt64) (account : Pool)
    (credited : TokenAccount) (fill : Fill) : Prop where
  instruction : action.instruction = .completeBuy accounts minTokensOut
  target : accounts.pool = pool
  stored : before.pools pool = some account
  status : account.status = .Launching
  early : action.now < account.graceEndsAt
  mint : accounts.mint = account.mint
  positive : 0 < account.totalContributed
  curve : accounts.bondingCurve = bondingCurvePda account.mint
  user : before.tokens.lookup accounts.associatedUser = some credited
  userMint : credited.mint = account.mint
  distinct : accounts.associatedBondingCurve ≠ accounts.associatedUser
  filled : ∃ edited : World,
    before.editLamports pool (.buyer pool) account.totalContributed = .ok edited ∧
    env.admitsCall before.lamports edited.lamports accounts.listed accounts.handedOn.handed
      = true ∧
    env.buyExactSolIn edited accounts.handedOn account.totalContributed minTokensOut = some fill
  bought : 0 < fill.tokensOut
  tokens : before.tokens.transfer accounts.associatedBondingCurve accounts.associatedUser
    accounts.bondingCurve fill.tokensOut = .ok after.tokens
  accountAfter : after.pools pool
    = some (account.bought fill.tokensOut (recordedReserves fill.curve))
  records : SameRecords pool before after
  lamports : (after.lamports pool).toNat + account.totalContributed.toNat
    = (before.lamports pool).toNat
  buyerLamports : (after.lamports (.buyer pool)).toNat + fill.taken
    = (before.lamports (.buyer pool)).toNat + account.totalContributed.toNat

/-- The split was fixed and the surplus burned. -/
structure Settled (accounts : FinalizeAccounts) (account : Pool) (vault : TokenAccount)
    (vtok vquote distributable burned : UInt64) : Prop where
  instruction : action.instruction = .finalize accounts
  target : accounts.pool = pool
  stored : before.pools pool = some account
  status : account.status = .Bought
  stocked : before.tokens.lookup accounts.associatedUser = some vault
  vaultOwner : vault.owner = .buyer pool
  vaultMint : vault.mint = account.mint
  buyer : accounts.buyer = .buyer pool
  priced : account.finalReserves (before.data env.encoding accounts.bondingCurve) = .ok (vtok, vquote)
  split : computeDistributable account.totalContributed account.tokensBought vtok vquote
    = .ok (distributable, burned)
  burnt : burnSurplus before.tokens accounts.associatedUser accounts.mint accounts.buyer burned
    = .ok after.tokens
  accountAfter : after.pools pool
    = some (account.finalized distributable burned vtok vquote)
  frame : after = (before.setTokens after.tokens).setPool pool
    (some (account.finalized distributable burned vtok vquote))

/-- A contributor was paid its share. -/
structure Claimed (accounts : ClaimAccounts) (account : Pool) (record : Contribution)
    (vaultAta contributorAta : TokenAccount) (share totalClaimed : UInt64) : Prop where
  instruction : action.instruction = .claim accounts
  target : accounts.pool = pool
  checked : accounts.Checked env before account record vaultAta contributorAta
  stored : before.pools pool = some account
  status : account.status = .Finalized
  stake : before.stake pool accounts.contributor = some record
  unclaimed : record.claimed = false
  unrefunded : record.refunded = false
  positive : 0 < record.amount
  allocated : allocation account.distributable record.amount account.totalContributed = .ok share
  paid : payShare before.tokens accounts.vaultAta accounts.contributorAta accounts.buyer share
    = .ok after.tokens
  added : totalClaimed.toNat = account.totalClaimed.toNat + share.toNat
  written : Written pool accounts.contributor { record with claimed := true } before after
  accountAfter : after.pools pool = some { account with totalClaimed }
  lamports : after.lamports = before.lamports

/-- A contributor was paid back. -/
structure Refunded (accounts : RefundAccounts) (account : Pool) (record : Contribution)
    (totalContributed totalRefunded : UInt64) : Prop where
  instruction : action.instruction = .refund accounts
  target : accounts.pool = pool
  stored : before.pools pool = some account
  allowed : account.refundAllowed action.now = true
  stake : before.stake pool accounts.contributor = some record
  unrefunded : record.refunded = false
  unclaimed : record.claimed = false
  positive : 0 < record.amount
  subtracted : totalContributed.toNat + record.amount.toNat = account.totalContributed.toNat
  added : totalRefunded.toNat = account.totalRefunded.toNat + record.amount.toNat
  written : Written pool accounts.contributor { record with refunded := true, amount := 0 }
    before after
  accountAfter : after.pools pool
    = some { account with status := .Refundable, totalContributed, totalRefunded }
  lamports : (after.lamports pool).toNat + record.amount.toNat = (before.lamports pool).toNat
  paid : (after.lamports accounts.contributor).toNat
    = (before.lamports accounts.contributor).toNat + record.amount.toNat

/-- The end of the grace period was recorded. -/
structure Marked (accounts : MarkRefundableAccounts) (account : Pool) : Prop where
  instruction : action.instruction = .markRefundable accounts
  target : accounts.pool = pool
  stored : before.pools pool = some account
  late : account.graceEndsAt ≤ action.now
  status : account.status = .Launching ∨ account.status = .Open
  accountAfter : after.pools pool = some { account with status := .Refundable }
  frame : after = before.setPool pool (some { account with status := .Refundable })

/-- The pool account was closed. -/
structure Closed (accounts : ClosePoolAccounts) (account : Pool) : Prop where
  instruction : action.instruction = .closePool accounts
  target : accounts.pool = pool
  stored : before.pools pool = some account
  creator : account.creator = accounts.creator
  status : account.status = .Refundable ∨ account.status = .Finalized ∨ account.status = .Closed
  empty : account.totalContributed = 0
  accountAfter : after.pools pool = none
  records : SameRecords pool before after
  lamports : (after.lamports pool).toNat = 0
  reclaimed : (after.lamports accounts.creator).toNat
    = (before.lamports accounts.creator).toNat + (before.lamports pool).toNat

/-- Lamports reached the pool account from outside the program. -/
structure Endowed (source : Pubkey) (amount : UInt64) : Prop where
  instruction : action.instruction = .systemTransfer source pool amount
  account : after.pools pool = before.pools pool
  records : SameRecords pool before after
  lamports : (after.lamports pool).toNat = (before.lamports pool).toNat + amount.toNat

/-- A buy was repeated on a pool that had already bought. -/
structure Repeated (accounts : CompleteBuyAccounts) (minTokensOut : UInt64) (account : Pool) :
    Prop where
  instruction : action.instruction = .completeBuy accounts minTokensOut
  target : accounts.pool = pool
  stored : before.pools pool = some account
  status : account.status = .Bought
  same : after = before

end Effects

/-- Whether an instruction names a pool, or sends lamports to its account. -/
def Instruction.concerns (pool : Pubkey) : Instruction → Bool
  | .createPool accounts _ => accounts.pool = pool
  | .contribute accounts _ => accounts.pool = pool
  | .beginLaunch accounts _ => accounts.pool = pool
  | .completeBuy accounts _ => accounts.pool = pool
  | .finalize accounts => accounts.pool = pool
  | .claim accounts => accounts.pool = pool
  | .refund accounts => accounts.pool = pool
  | .markRefundable accounts => accounts.pool = pool
  | .closePool accounts => accounts.pool = pool
  | .systemTransfer _ target _ => target = pool
  | .token _ | .writeAccount _ _ | .pumpCreate _ _ | .pumpTrade .. => false

/-- Everything a step can do to one pool. -/
inductive Effect (env : Env) (pool : Pubkey) (before : World) (action : Action) (after : World) :
    Prop where
  | untouched (other : action.instruction.concerns pool = false)
      (frame : Untouched pool before after)
  | created (accounts : CreatePoolAccounts) (args : CreatePoolArgs) (graceEndsAt : Int64)
      (effect : Created env pool before action after accounts args graceEndsAt)
  | contributed (accounts : ContributeAccounts) (amount : UInt64) (account : Pool)
      (newTotal total : UInt64) (count : UInt32)
      (effect : Contributed env pool before action after accounts amount account newTotal total
        count)
  | launched (accounts : BeginLaunchAccounts) (mint : Pubkey) (account : Pool)
      (effect : Launched pool before action after accounts mint account)
  | spent (accounts : CompleteBuyAccounts) (minTokensOut : UInt64) (account : Pool)
      (credited : TokenAccount) (fill : Fill)
      (effect : Spent env pool before action after accounts minTokensOut account credited fill)
  | repeated (accounts : CompleteBuyAccounts) (minTokensOut : UInt64) (account : Pool)
      (effect : Repeated pool before action after accounts minTokensOut account)
  | settled (accounts : FinalizeAccounts) (account : Pool) (vault : TokenAccount)
      (vtok vquote distributable burned : UInt64)
      (effect : Settled env pool before action after accounts account vault vtok vquote distributable
        burned)
  | claimed (accounts : ClaimAccounts) (account : Pool) (record : Contribution)
      (vaultAta contributorAta : TokenAccount) (share totalClaimed : UInt64)
      (effect : Claimed env pool before action after accounts account record vaultAta
        contributorAta share totalClaimed)
  | refunded (accounts : RefundAccounts) (account : Pool) (record : Contribution)
      (totalContributed totalRefunded : UInt64)
      (effect : Refunded pool before action after accounts account record totalContributed
        totalRefunded)
  | marked (accounts : MarkRefundableAccounts) (account : Pool)
      (effect : Marked pool before action after accounts account)
  | closed (accounts : ClosePoolAccounts) (account : Pool)
      (effect : Closed pool before action after accounts account)
  | endowed (source : Pubkey) (amount : UInt64)
      (effect : Endowed pool before action after source amount)

/-! ### The effect of one call on the pool it names -/

section Calls

variable {env : Env} {pool : Pubkey} {before after : World} {action : Action}

/-- Creating a pool has no other effect on it than its creation. -/
theorem Effect.created_of_call (effect : Effect env pool before action after)
    {accounts : CreatePoolAccounts} {args : CreatePoolArgs}
    (instruction : action.instruction = .createPool accounts args) (target : accounts.pool = pool) :
    ∃ graceEndsAt, Created env pool before action after accounts args graceEndsAt := by
  cases effect
  case untouched other _ => simp [Instruction.concerns, instruction, target] at other
  case created effect =>
    have same := effect.instruction
    rw [instruction, Instruction.createPool.injEq] at same
    obtain ⟨rfl, rfl⟩ := same
    exact ⟨_, effect⟩
  -- Every other effect is that of another instruction.
  all_goals
    rename_i effect
    rw [effect.instruction] at instruction
    cases instruction

/-- Contributing to a pool has no other effect on it than the contribution. -/
theorem Effect.contributed_of_call (effect : Effect env pool before action after)
    {accounts : ContributeAccounts} {amount : UInt64}
    (instruction : action.instruction = .contribute accounts amount)
    (target : accounts.pool = pool) : ∃ account newTotal total count,
      Contributed env pool before action after accounts amount account newTotal total count := by
  -- Every other effect is that of another instruction, or concerns another pool.
  cases effect
  case untouched other _ => simp [Instruction.concerns, instruction, target] at other
  case contributed effect =>
    have same := effect.instruction
    rw [instruction, Instruction.contribute.injEq] at same
    obtain ⟨rfl, rfl⟩ := same
    exact ⟨_, _, _, _, effect⟩
  all_goals
    rename_i effect
    rw [effect.instruction] at instruction
    cases instruction

/-- A completed buy spends the escrow of the pool, or repeats a buy and changes nothing. -/
theorem Effect.bought_of_call (effect : Effect env pool before action after)
    {accounts : CompleteBuyAccounts} {minTokensOut : UInt64}
    (instruction : action.instruction = .completeBuy accounts minTokensOut)
    (target : accounts.pool = pool) :
    (∃ account credited fill,
      Spent env pool before action after accounts minTokensOut account credited fill) ∨
    ∃ account, Repeated pool before action after accounts minTokensOut account := by
  -- A buy is made, or repeated; every other effect is that of another instruction.
  cases effect
  case untouched other _ => simp [Instruction.concerns, instruction, target] at other
  case spent effect =>
    have same := effect.instruction
    rw [instruction, Instruction.completeBuy.injEq] at same
    obtain ⟨rfl, rfl⟩ := same
    exact .inl ⟨_, _, _, effect⟩
  case repeated effect =>
    have same := effect.instruction
    rw [instruction, Instruction.completeBuy.injEq] at same
    obtain ⟨rfl, rfl⟩ := same
    exact .inr ⟨_, effect⟩
  all_goals
    rename_i effect
    rw [effect.instruction] at instruction
    cases instruction

/-- Refunding from a pool has no other effect on it than the refund. -/
theorem Effect.refunded_of_call (effect : Effect env pool before action after)
    {accounts : RefundAccounts} (instruction : action.instruction = .refund accounts)
    (target : accounts.pool = pool) : ∃ account record totalContributed totalRefunded,
      Refunded pool before action after accounts account record totalContributed
        totalRefunded := by
  -- Every other effect is that of another instruction, or concerns another pool.
  cases effect
  case untouched other _ => simp [Instruction.concerns, instruction, target] at other
  case refunded effect =>
    have same := effect.instruction
    rw [instruction, Instruction.refund.injEq] at same
    subst same
    exact ⟨_, _, _, _, effect⟩
  all_goals
    rename_i effect
    rw [effect.instruction] at instruction
    cases instruction

/-- Closing a pool has no other effect on it than the closing. -/
theorem Effect.closed_of_call (effect : Effect env pool before action after)
    {accounts : ClosePoolAccounts} (instruction : action.instruction = .closePool accounts)
    (target : accounts.pool = pool) :
    ∃ account, Closed pool before action after accounts account := by
  -- Every other effect is that of another instruction, or concerns another pool.
  cases effect
  case untouched other _ => simp [Instruction.concerns, instruction, target] at other
  case closed effect =>
    have same := effect.instruction
    rw [instruction, Instruction.closePool.injEq] at same
    subst same
    exact ⟨_, effect⟩
  all_goals
    rename_i effect
    rw [effect.instruction] at instruction
    cases instruction

/-- A step that closes a pool has the closing as its effect. -/
theorem Effect.closed_of_closes (effect : Effect env pool before action after)
    (closing : closes pool ⟨before, action, after⟩ = true) :
    ∃ accounts account, Closed pool before action after accounts account := by
  unfold closes at closing
  -- Only `close_pool` closes, and it names the pool.
  split at closing
  · rename_i accounts instruction
    simp only [decide_eq_true_eq] at closing
    exact ⟨accounts, effect.closed_of_call instruction closing⟩
  · cases closing

end Calls

end Batchit
