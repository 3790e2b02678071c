import Batchit.Instructions.Accounts

/-! Paying lamports into an open pool. -/

namespace Batchit

/-- The accounts of `contribute`. -/
structure ContributeAccounts where
  contributor : Pubkey
  pool : Pubkey
  contribution : Pubkey
  deriving DecidableEq, Repr

/-- Whether a contribution account still reads as freshly allocated. -/
def Contribution.isNew (contribution : Contribution) : Bool :=
  contribution.contributor = .default ||
    contribution.amount = 0 && !contribution.refunded && contribution.pool = .default

/-- The contribution account, allocated and paid for when it does not exist yet. -/
def initIfNeeded (env : Env) (world : World) (accounts : ContributeAccounts) :
    Except Error (World × Contribution) :=
  match world.contributions.lookup accounts.contribution with
  | some contribution => .ok (world, contribution)
  | none => do
    let world ← payRent env world accounts.contributor accounts.contribution Contribution.LEN
    return (world, .zeroed)

/-- The contribution account named for its pool and contributor, still without lamports. -/
def Contribution.named (env : Env) (accounts : ContributeAccounts) (amount : UInt64) :
    Contribution where
  bump := env.bump accounts.contribution
  pool := accounts.pool
  contributor := accounts.contributor
  amount := amount
  claimed := false
  refunded := false

/-- Fill in a contribution account on the first contribution into it. -/
def Contribution.initialized (contribution : Contribution) (env : Env)
    (accounts : ContributeAccounts) : Contribution :=
  if contribution.isNew || contribution.contributor = .default then
    .named env accounts contribution.amount
  else contribution

/-- The number of contributors once a record is counted, which only a new one is. -/
def Pool.countContributor (pool : Pool) (contribution : Contribution) : Option UInt32 :=
  if contribution.isNew then pool.contributorCount.checkedAdd 1 else some pool.contributorCount

/-- A wallet pays into an open pool before its launch time, within the bounds of the pool. -/
def contribute (env : Env) (world : World) (now : Int64) (accounts : ContributeAccounts)
    (amount : UInt64) : Except Error World := do
  signer accounts.contributor
  let pool ← loadPool env world accounts.pool
  constraint (accounts.contribution = .contribution accounts.pool accounts.contributor)
    .ConstraintSeeds
  let (world, contrib) ← initIfNeeded env world accounts
  -- The record is allocated with the other accounts, before the handler checks anything.
  require (amount > 0) .ZeroAmount
  require (pool.status = .Open) .BadStatus
  require (now < pool.launchAt) .ContributionClosed
  require (amount ≥ pool.minContributionLamports) .ContributionTooSmall
  let newTotal ← okOr (pool.totalContributed.checkedAdd amount) .MathOverflow
  require (newTotal ≤ pool.maxPoolLamports) .MaxPoolExceeded
  -- The lamports reach the pool account itself, which is the escrow.
  let world ← world.systemTransfer accounts.contributor accounts.pool amount
  let contributorCount ← okOr (pool.countContributor contrib) .MathOverflow
  let named := contrib.initialized env accounts
  require (named.contributor = accounts.contributor) .NotContributor
  require (named.pool = accounts.pool) .NotContributor
  require (named.refunded = false) .NothingToRefund
  require (named.claimed = false) .NothingToClaim
  let total ← okOr (named.amount.checkedAdd amount) .MathOverflow
  return (world.setContribution accounts.contribution { named with amount := total }).setPool
    accounts.pool (some { pool with contributorCount, totalContributed := newTotal })

/-- The account a contribution is added to: the contributor's own, or a new one. -/
def World.stakeOrNew (env : Env) (world : World) (accounts : ContributeAccounts) : Contribution :=
  (world.stake accounts.pool accounts.contributor).getD (.named env accounts 0)

/-- Records stored for a contributor in a pool name that contributor and that pool. -/
def World.StakesAtHome (world : World) : Prop :=
  ∀ pool contributor contribution, world.stake pool contributor = some contribution →
    contribution.pool = pool ∧ contribution.contributor = contributor

/-- An account that can sign is not the default key. -/
theorem Pubkey.ne_default_of_canSign {address : Pubkey} (signed : address.canSign = true) :
    address ≠ .default := by
  simp only [canSign, Bool.and_eq_true, bne_iff_ne] at signed
  exact signed.2

/-- A record that names a signer no longer reads as freshly allocated. -/
theorem Contribution.isNew_of_signer {contribution : Contribution} {contributor : Pubkey}
    (named : contribution.contributor = contributor) (elsewhere : contribution.pool ≠ .default)
    (signed : contributor.canSign = true) : contribution.isNew = false := by
  -- Neither of the two tests for a zeroed account can pass.
  have unset := Pubkey.ne_default_of_canSign signed
  simp [isNew, named, unset, elsewhere]

/-- After allocation, the record to add to is the contributor's own, or a new one to be counted. -/
theorem initialized_allocated {env : Env} {world opened : World} {accounts : ContributeAccounts}
    {allocated : Contribution} (home : world.StakesAtHome)
    (signed : accounts.contributor.canSign = true)
    (address : accounts.contribution = .contribution accounts.pool accounts.contributor)
    (elsewhere : accounts.pool ≠ .default)
    (ready : initIfNeeded env world accounts = .ok (opened, allocated)) :
    allocated.initialized env accounts = world.stakeOrNew env accounts ∧
      allocated.isNew = (world.stake accounts.pool accounts.contributor).isNone := by
  -- Either nothing was stored and a zeroed account was made, or the stored one is used.
  have lookup : world.contributions.lookup accounts.contribution
      = world.stake accounts.pool accounts.contributor := by rw [address, World.stake]
  unfold initIfNeeded at ready
  rw [lookup] at ready
  cases stored : world.stake accounts.pool accounts.contributor with
  | none =>
    simp only [stored, bind_eq_ok, pure_eq_ok, Prod.mk.injEq] at ready
    -- A zeroed account is named for the contributor and counted.
    obtain ⟨_, _, _, rfl⟩ := ready
    exact ⟨by simp [Contribution.initialized, World.stakeOrNew, stored, Contribution.zeroed],
      by simp [Contribution.isNew, Contribution.zeroed]⟩
  | some contribution =>
    simp only [stored, Except.ok.injEq, Prod.mk.injEq] at ready
    obtain ⟨_, rfl⟩ := ready
    -- A stored account already names the contributor, so it is left as it is.
    obtain ⟨samePool, sameContributor⟩ := home _ _ _ stored
    have known := Contribution.isNew_of_signer sameContributor (by rwa [samePool]) signed
    have unset := Pubkey.ne_default_of_canSign signed
    exact ⟨by simp [Contribution.initialized, World.stakeOrNew, stored, known, sameContributor,
      unset], by simp [known]⟩

/-- Counting succeeds with one more exactly for a record not yet counted. -/
theorem Pool.countContributor_eq_some {pool : Pool} {contribution : Contribution}
    {count : UInt32} :
    pool.countContributor contribution = some count ↔
      count.toNat = pool.contributorCount.toNat + (if contribution.isNew then 1 else 0) := by
  -- Only a new record is counted, and only that can overflow.
  unfold countContributor
  split
  · exact UInt32.checkedAdd_eq_some
  · rw [Option.some.injEq, Nat.add_zero, ← UInt32.toNat_inj, eq_comm]

/-- The record a contribution is added to always names the contributor and the pool. -/
theorem World.stakeOrNew_names (env : Env) {world : World} (accounts : ContributeAccounts)
    (home : world.StakesAtHome) :
    (world.stakeOrNew env accounts).pool = accounts.pool ∧
      (world.stakeOrNew env accounts).contributor = accounts.contributor := by
  unfold stakeOrNew
  -- A new record is written with both names, and an old one bears them by its address.
  cases stored : world.stake accounts.pool accounts.contributor with
  | none => exact ⟨rfl, rfl⟩
  | some contribution => exact home _ _ _ stored

/--
A contribution is accepted before launch, within the bounds, on a record not yet paid out.

The record is the contributor's own, or a new one that also counts as one more contributor.
-/
theorem contribute_ok {env : Env} {world after : World} {now : Int64}
    {accounts : ContributeAccounts} {amount : UInt64} (home : world.StakesAtHome) :
    contribute env world now accounts amount = .ok after ↔
      ∃ (pool : Pool) (opened : World) (allocated : Contribution) (paid : World)
        (newTotal total : UInt64) (count : UInt32),
        accounts.contributor.canSign = true ∧
        loadPool env world accounts.pool = .ok pool ∧
        accounts.contribution = .contribution accounts.pool accounts.contributor ∧
        initIfNeeded env world accounts = .ok (opened, allocated) ∧
        0 < amount ∧
        pool.status = .Open ∧
        now < pool.launchAt ∧
        pool.minContributionLamports ≤ amount ∧
        newTotal.toNat = pool.totalContributed.toNat + amount.toNat ∧
        newTotal ≤ pool.maxPoolLamports ∧
        opened.systemTransfer accounts.contributor accounts.pool amount = .ok paid ∧
        count.toNat = pool.contributorCount.toNat
          + (if world.stake accounts.pool accounts.contributor = none then 1 else 0) ∧
        (world.stakeOrNew env accounts).refunded = false ∧
        (world.stakeOrNew env accounts).claimed = false ∧
        total.toNat = (world.stakeOrNew env accounts).amount.toNat + amount.toNat ∧
        after = (paid.setContribution accounts.contribution
          { world.stakeOrNew env accounts with amount := total }).setPool accounts.pool
          (some { pool with contributorCount := count, totalContributed := newTotal }) := by
  -- A pool's address is derived, so it is never the zeroed account's.
  have elsewhere {pool : Pool} (loaded : loadPool env world accounts.pool = .ok pool) :
      accounts.pool ≠ .default := by
    rw [(loadPool_ok.mp loaded).2.1]
    simp [Pubkey.default]
  obtain ⟨samePool, sameContributor⟩ := World.stakeOrNew_names env accounts home
  simp only [contribute, bind_eq_ok, signer_ok, constraint_eq_ok, require_eq_ok, okOr_eq_ok,
    pure_eq_ok, exists_const, UInt64.checkedAdd_eq_some, Pool.countContributor_eq_some]
  -- Both directions read the allocated account as the record the contribution is added to.
  constructor
  · intro taken
    obtain ⟨signed, pool, loaded, address, ⟨opened, allocated⟩, ready, positive, isOpen, early,
      enough, newTotal, added, bounded, paid, moved, count, counted, owner, ownPool, unrefunded,
      unclaimed, total, summed, rfl⟩ := taken
    obtain ⟨named, counts⟩ := initialized_allocated home signed address (elsewhere loaded) ready
    simp only [named, counts, Option.isNone_iff_eq_none] at counted unrefunded unclaimed summed ⊢
    exact ⟨pool, opened, allocated, paid, newTotal, total, count, signed, loaded, address, ready,
      positive, isOpen, early, enough, added, bounded, moved, counted, unrefunded, unclaimed,
      summed, rfl⟩
  · intro facts
    obtain ⟨pool, opened, allocated, paid, newTotal, total, count, signed, loaded, address, ready,
      positive, isOpen, early, enough, added, bounded, moved, counted, unrefunded, unclaimed,
      summed, rfl⟩ := facts
    obtain ⟨named, counts⟩ := initialized_allocated home signed address (elsewhere loaded) ready
    refine ⟨signed, pool, loaded, address, (opened, allocated), ready, positive, isOpen, early,
      enough, newTotal, added, bounded, paid, moved, count, ?_⟩
    simp only [named, counts, Option.isNone_iff_eq_none]
    exact ⟨counted, sameContributor, samePool, unrefunded, unclaimed, total, summed, rfl⟩

end Batchit
