import Batchit.Protocol.Inversion

/-! What holds of a pool account and of its contribution records in every reachable state. -/

namespace Batchit

/-! ### The pool account -/

/-- Nothing has been bought with the pool's lamports. -/
structure Pool.Unspent (account : Pool) : Prop where
  tokensBought : account.tokensBought = 0
  distributable : account.distributable = 0
  burned : account.burned = 0
  totalClaimed : account.totalClaimed = 0

/-- What a pool records in each status; the status for a closed pool is never written. -/
inductive Pool.Phase (account : Pool) : Prop where
  | raising (status : account.status = .Open) (unset : account.mint = .default)
      (kept : account.totalRefunded = 0) (unspent : account.Unspent)
  | launching (status : account.status = .Launching) (named : account.mint ≠ .default)
      (raised : account.minRaiseLamports ≤ account.totalContributed)
      (kept : account.totalRefunded = 0) (unspent : account.Unspent)
  | bought (status : account.status = .Bought) (named : account.mint ≠ .default)
      (raised : account.minRaiseLamports ≤ account.totalContributed)
      (kept : account.totalRefunded = 0) (received : 0 < account.tokensBought)
      (unsplit : account.distributable = 0 ∧ account.burned = 0) (unclaimed : account.totalClaimed = 0)
  | finalized (status : account.status = .Finalized) (named : account.mint ≠ .default)
      (raised : account.minRaiseLamports ≤ account.totalContributed)
      (kept : account.totalRefunded = 0) (received : 0 < account.tokensBought)
      (split : account.distributable.toNat + account.burned.toNat = account.tokensBought.toNat)
  | refundable (status : account.status = .Refundable) (unspent : account.Unspent)

/-- A pool account as the program writes it: its address, its limits, its times and its phase. -/
structure Pool.Sound (env : Env) (pool : Pubkey) (account : Pool) : Prop where
  address : pool = .pool account.creator account.seed
  signed : account.creator.canSign = true
  bump : account.bump = env.bump pool
  buyerBump : account.buyerBump = env.bump (.buyer pool)
  window : account.launchAt.toInt < account.graceEndsAt.toInt
  least : 0 < account.minContributionLamports.toNat
  raise : account.minContributionLamports.toNat ≤ account.minRaiseLamports.toNat
  bounded : account.totalContributed.toNat + account.totalRefunded.toNat
    ≤ account.maxPoolLamports.toNat
  phase : account.Phase

/-- A sound pool passes the constraints it is loaded under. -/
theorem Pool.Sound.loads {env : Env} {pool : Pubkey} {account : Pool} {world : World}
    (sound : account.Sound env pool) (stored : world.pools pool = some account) :
    loadPool env world pool = .ok account := by
  -- Both the address and the bump are the ones its own fields derive.
  refine loadPool_ok.mpr ⟨stored, sound.address, ?_⟩
  rw [← sound.address]
  exact sound.bump

/-! ### The contribution records -/

/-- A record refunded in full, which no instruction can use again. -/
structure Contribution.PaidBack (record : Contribution) : Prop where
  refunded : record.refunded = true
  amount : record.amount = 0
  unclaimed : record.claimed = false

/-- A record whose contributor still has a stake in the pool. -/
structure Contribution.Staked (record : Contribution) (account : Pool) : Prop where
  unrefunded : record.refunded = false
  enough : account.minContributionLamports.toNat ≤ record.amount.toNat
  claimed : record.claimed = true → account.status = .Finalized

/-- A contribution record as the program writes it; with no pool, only paid-back ones are left. -/
structure Contribution.Sound (env : Env) (pool contributor : Pubkey) (account : Option Pool)
    (record : Contribution) : Prop where
  signed : contributor.canSign = true
  bump : record.bump = env.bump (.contribution pool contributor)
  state : record.PaidBack ∨ ∃ live, account = some live ∧ record.Staked live

/-- The share a claimed record was paid, rounded down. -/
def Contribution.sharePaid (distributable total : Nat) (record : Contribution) : Nat :=
  if record.claimed then distributable * record.amount.toNat / total else 0

/-- The totals a pool records are the totals over its contribution records. -/
structure Pool.Backed (pool : Pubkey) (world : World) (account : Pool) : Prop where
  total : account.totalContributed.toNat = world.owed pool
  active : world.active pool ≤ account.contributorCount.toNat
  claimed : account.totalClaimed.toNat = world.stakeTotal pool
    (Contribution.sharePaid account.distributable.toNat account.totalContributed.toNat)

/-- Everything that holds of one pool's account and records. -/
structure PoolInvariant (env : Env) (pool : Pubkey) (world : World) : Prop where
  account : ∀ account, world.pools pool = some account → account.Sound env pool
  records : ∀ contributor record, world.stake pool contributor = some record →
    record.Sound env pool contributor (world.pools pool)
  backed : ∀ account, world.pools pool = some account → account.Backed pool world

namespace World

/-- A measure that is zero on every record of a pool totals zero. -/
theorem stakeTotal_eq_zero {world : World} {pool : Pubkey} {measure : Contribution → Nat}
    (home : world.RecordsAtHome)
    (zero : ∀ contributor record, world.stake pool contributor = some record →
      measure record = 0) : world.stakeTotal pool measure = 0 := by
  apply Store.total_eq_zero
  intro address record stored
  split
  · rename_i ofPool
    -- A record of the pool is the stake of the contributor it names.
    have derived := home address record stored
    rw [ofPool] at derived
    subst derived
    exact zero _ record stored
  · -- A record of another pool is not measured at all.
    rfl

/-- Measures that agree on every record of a pool have equal totals. -/
theorem stakeTotal_congr {world : World} {pool : Pubkey} {left right : Contribution → Nat}
    (home : world.RecordsAtHome)
    (agree : ∀ contributor record, world.stake pool contributor = some record →
      left record = right record) :
    world.stakeTotal pool left = world.stakeTotal pool right := by
  apply Store.total_congr
  intro entry member
  have stored := Store.lookup_of_mem member
  -- Only the records of this pool are measured, on either side.
  split
  · rename_i ofPool
    have derived := home entry.1 entry.2 stored
    rw [ofPool] at derived
    rw [derived] at stored
    exact agree _ entry.2 stored
  · rfl

/-- No stake measures more than its pool's total. -/
theorem le_stakeTotal {world : World} {pool contributor : Pubkey} {record : Contribution}
    (measure : Contribution → Nat) (home : world.RecordsAtHome)
    (stored : world.stake pool contributor = some record) :
    measure record ≤ world.stakeTotal pool measure := by
  -- The record lies at its own address, so it is one of those the total is over.
  have bound := Store.le_total
    (fun contribution => if contribution.pool = pool then measure contribution else 0) stored
  rw [if_pos (home.stakes _ _ _ stored).1] at bound
  exact bound

end World

/-! ### What one effect preserves -/

section Preservation

variable {env : Env} {pool : Pubkey} {before after : World} {action : Action}

/-- A stake outlives a write to the pool that keeps the minimum, and a finalized status. -/
theorem Contribution.Staked.carry {record : Contribution} {account written : Pool}
    (staked : record.Staked account)
    (least : written.minContributionLamports = account.minContributionLamports)
    (settled : account.status = .Finalized → written.status = .Finalized) :
    record.Staked written where
  -- Only the minimum and the settled status of the pool are asked after.
  unrefunded := staked.unrefunded
  enough := by rw [least]; exact staked.enough
  claimed := fun paid => settled (staked.claimed paid)

/-- A record stays sound under a write to the pool that keeps the minimum. -/
theorem Contribution.Sound.carry {contributor : Pubkey} {record : Contribution}
    {account written : Pool} (sound : record.Sound env pool contributor (some account))
    (least : written.minContributionLamports = account.minContributionLamports)
    (settled : account.status = .Finalized → written.status = .Finalized) :
    record.Sound env pool contributor (some written) where
  signed := sound.signed
  bump := sound.bump
  state := by
    -- A paid-back record asks nothing of the pool account.
    rcases sound.state with paidBack | ⟨live, same, staked⟩
    · exact .inl paidBack
    · simp only [Option.some.injEq] at same
      subst same
      exact .inr ⟨written, rfl, staked.carry least settled⟩

/-- A record that holds something is a stake. -/
theorem Contribution.Sound.staked {contributor : Pubkey} {record : Contribution} {account : Pool}
    (sound : record.Sound env pool contributor (some account)) (positive : 0 < record.amount) :
    record.Staked account := by
  -- A record paid back holds nothing, so this is the other case.
  rcases sound.state with paidBack | ⟨live, same, staked⟩
  · rw [paidBack.amount] at positive
    exact absurd positive (by decide)
  · simp only [Option.some.injEq] at same
    exact same ▸ staked

/-- A record marked refunded holds nothing. -/
theorem Contribution.Sound.emptied {contributor : Pubkey} {record : Contribution}
    {account : Option Pool} (sound : record.Sound env pool contributor account)
    (refunded : record.refunded = true) : record.amount = 0 := by
  -- A stake is not marked, so this is the other case.
  rcases sound.state with paidBack | ⟨live, -, staked⟩
  · exact paidBack.amount
  · rw [staked.unrefunded] at refunded
    cases refunded

/-- Before finalization no record is claimed. -/
theorem unclaimed_of_unsettled {world : World} {account : Pool}
    (records : ∀ contributor record, world.stake pool contributor = some record →
      record.Sound env pool contributor (some account))
    (unsettled : account.status ≠ .Finalized) :
    ∀ contributor record, world.stake pool contributor = some record →
      record.claimed = false := by
  intro contributor record stored
  by_contra claimed
  rw [Bool.not_eq_false] at claimed
  -- A claimed record is staked, and a staked record is claimed only after finalization.
  rcases (records _ _ stored).state with paidBack | ⟨live, same, staked⟩
  · rw [paidBack.unclaimed] at claimed
    cases claimed
  · simp only [Option.some.injEq] at same
    subst same
    exact unsettled (staked.claimed claimed)

/-- Before finalization no share has been paid. -/
theorem sharePaid_total {account : Pool} (home : after.RecordsAtHome)
    (records : ∀ contributor record, after.stake pool contributor = some record →
      record.Sound env pool contributor (some account))
    (unsettled : account.status ≠ .Finalized) (distributable total : Nat) :
    after.stakeTotal pool (Contribution.sharePaid distributable total) = 0 := by
  apply World.stakeTotal_eq_zero home
  intro contributor record stored
  -- A share counts as paid only on a claimed record, and there is none.
  rw [Contribution.sharePaid, unclaimed_of_unsettled records unsettled contributor record stored]
  rfl

/-- The invariant depends only on the pool's account and records. -/
theorem PoolInvariant.of_same (invariant : PoolInvariant env pool before)
    (account : after.pools pool = before.pools pool) (records : SameRecords pool before after) :
    PoolInvariant env pool after where
  -- The account and the records are the ones that were there before.
  account := by rw [account]; exact invariant.account
  records := by
    intro contributor record stored
    rw [records.stakes] at stored
    rw [account]
    exact invariant.records _ _ stored
  backed := by
    intro live stored
    rw [account] at stored
    have backed := invariant.backed live stored
    exact {
      total := by rw [World.owed, records.totals]; exact backed.total
      active := by rw [World.active, records.totals]; exact backed.active
      claimed := by rw [records.totals]; exact backed.claimed }

/-- Opening a pool starts it empty, over nothing but paid-back records. -/
theorem PoolInvariant.created {accounts : CreatePoolAccounts} {args : CreatePoolArgs}
    {graceEndsAt : Int64} (invariant : PoolInvariant env pool before)
    (home : before.RecordsAtHome)
    (effect : Created env pool before action after accounts args graceEndsAt) :
    PoolInvariant env pool after := by
  -- The address held no pool, and records without a pool are paid back.
  have paidBack (contributor : Pubkey) (record : Contribution)
      (stored : before.stake pool contributor = some record) : record.PaidBack := by
    rcases (invariant.records _ _ stored).state with paidBack | ⟨live, present, -⟩
    · exact paidBack
    · rw [effect.unused] at present
      cases present
  -- So whatever measures nothing on a paid-back record totals zero.
  have zero (measure : Contribution → Nat)
      (nothing : ∀ record : Contribution, record.PaidBack → measure record = 0) :
      after.stakeTotal pool measure = 0 := by
    rw [effect.records.totals]
    apply World.stakeTotal_eq_zero home
    intro contributor record stored
    exact nothing record (paidBack _ _ stored)
  have grace : 0 < args.graceSecs.toInt := Int64.lt_iff_toInt_lt.mp effect.grace
  have ends := effect.ends
  have least := UInt64.lt_iff_toNat_lt.mp effect.least
  have raise := UInt64.le_iff_toNat_le.mp effect.raise
  constructor
  · -- The account is as the arguments set it, and those passed the guards.
    intro account stored
    rw [effect.account, Option.some.injEq] at stored
    subst stored
    exact {
      address := effect.address
      signed := effect.signed
      bump := by rw [← effect.target]; rfl
      buyerBump := by rw [← effect.buyer]; rfl
      window := by simp only [CreatePoolArgs.opened]; omega
      least
      raise
      bounded := Nat.zero_le _
      phase := .raising rfl rfl rfl ⟨rfl, rfl, rfl, rfl⟩ }
  · intro contributor record stored
    rw [effect.records.stakes] at stored
    have sound := invariant.records _ _ stored
    exact ⟨sound.signed, sound.bump, .inl (paidBack _ _ stored)⟩
  · -- The counters start at zero, and so do the totals they stand for.
    intro account stored
    rw [effect.account, Option.some.injEq] at stored
    subst stored
    exact {
      total := (zero _ fun record settled => by rw [settled.amount]; rfl).symm
      active := by
        rw [World.active, zero _ fun record settled => by rw [settled.refunded]; rfl]
        exact Nat.zero_le _
      claimed := (zero _ fun record settled => by
        rw [Contribution.sharePaid, settled.unclaimed]; rfl).symm }

/-- With a pool stored, its records are sound against that account. -/
theorem PoolInvariant.soundRecords {account : Pool} (invariant : PoolInvariant env pool before)
    (stored : before.pools pool = some account) :
    ∀ contributor record, before.stake pool contributor = some record →
      record.Sound env pool contributor (some account) := by
  rw [← stored]
  exact invariant.records

/-- Writing an unfinalized pool without moving its totals or its records keeps the invariant. -/
theorem PoolInvariant.rewritten {account written : Pool} (invariant : PoolInvariant env pool before)
    (home : before.RecordsAtHome) (stored : before.pools pool = some account)
    (unsettled : account.status ≠ .Finalized) (storedAfter : after.pools pool = some written)
    (records : SameRecords pool before after) (sound : written.Sound env pool)
    (least : written.minContributionLamports = account.minContributionLamports)
    (total : written.totalContributed = account.totalContributed)
    (count : written.contributorCount = account.contributorCount)
    (unclaimed : written.totalClaimed = 0) : PoolInvariant env pool after := by
  have soundRecords := invariant.soundRecords stored
  constructor
  · intro live found
    rw [storedAfter, Option.some.injEq] at found
    exact found ▸ sound
  · -- No record is claimed yet, so the status may change under them.
    intro contributor record found
    rw [records.stakes] at found
    rw [storedAfter]
    exact (soundRecords _ _ found).carry least fun settled => absurd settled unsettled
  · -- The totals kept, and the records they total, are the same as before.
    intro live found
    rw [storedAfter, Option.some.injEq] at found
    subst found
    have backed := invariant.backed account stored
    exact {
      total := by rw [total, World.owed, records.totals]; exact backed.total
      active := by rw [count, World.active, records.totals]; exact backed.active
      claimed := by
        rw [unclaimed, records.totals, sharePaid_total home soundRecords unsettled]
        rfl }

/-- The status for a closed pool is never written. -/
theorem Pool.Phase.not_closed {account : Pool} (phase : account.Phase) :
    account.status ≠ .Closed := by
  -- Every phase names one of the other statuses.
  cases phase with
  | raising status => simp [status]
  | launching status => simp [status]
  | bought status => simp [status]
  | finalized status => simp [status]
  | refundable status => simp [status]

/-- A launching pool has its mint committed. -/
theorem Pool.Phase.named {account : Pool} (phase : account.Phase)
    (launching : account.status = .Launching) : account.mint ≠ .default := by
  -- A mint is committed with the status, and no other phase has that status.
  cases phase with
  | raising status => simp [launching] at status
  | launching _ named => exact named
  | bought status => simp [launching] at status
  | finalized status => simp [launching] at status
  | refundable status => simp [launching] at status

/-- A pool before its buy has spent nothing. -/
theorem Pool.Phase.unspent {account : Pool} (phase : account.Phase)
    (early : account.status ≠ .Bought ∧ account.status ≠ .Finalized) : account.Unspent := by
  -- Every phase but those two records that nothing was spent.
  cases phase with
  | raising _ _ _ unspent => exact unspent
  | launching _ _ _ _ unspent => exact unspent
  | bought status => exact absurd status early.1
  | finalized status => exact absurd status early.2
  | refundable _ unspent => exact unspent

/-- An open pool has no mint and has paid nothing back. -/
theorem Pool.Phase.opened {account : Pool} (phase : account.Phase)
    (status : account.status = .Open) : account.mint = .default ∧ account.totalRefunded = 0 := by
  -- The status names the phase.
  cases phase with
  | raising _ unset kept => exact ⟨unset, kept⟩
  | launching other => rw [status] at other; cases other
  | bought other => rw [status] at other; cases other
  | finalized other => rw [status] at other; cases other
  | refundable other => rw [status] at other; cases other

/-- A pool that is launching, has bought or is finalized met its raise and has paid nothing back. -/
theorem Pool.Phase.raised {account : Pool} (phase : account.Phase)
    (status : account.status = .Launching ∨ account.status = .Bought ∨
      account.status = .Finalized) :
    account.mint ≠ .default ∧ account.minRaiseLamports ≤ account.totalContributed ∧
      account.totalRefunded = 0 := by
  -- The three phases record the same facts, and the status excludes the other two.
  cases phase with
  | raising other => rw [other] at status; simp at status
  | launching _ named raised kept => exact ⟨named, raised, kept⟩
  | bought _ named raised kept => exact ⟨named, raised, kept⟩
  | finalized _ named raised kept => exact ⟨named, raised, kept⟩
  | refundable other => rw [other] at status; simp at status

/-- Beginning a launch names the mint of a pool that met its raise. -/
theorem PoolInvariant.launched {accounts : BeginLaunchAccounts} {mint : Pubkey} {account : Pool}
    (invariant : PoolInvariant env pool before) (home : before.RecordsAtHome)
    (effect : Launched pool before action after accounts mint account) :
    PoolInvariant env pool after := by
  have sound := invariant.account account effect.stored
  have unspent := sound.phase.unspent (by simp [effect.status])
  obtain ⟨-, kept⟩ := sound.phase.opened effect.status
  -- Only the mint and the status are written, and the guards make that the launching phase.
  refine invariant.rewritten home effect.stored (by simp [effect.status])
    effect.accountAfter (.of_eq (by rw [effect.frame]; rfl)) ?_ rfl rfl rfl unspent.totalClaimed
  exact { sound with
    phase := .launching rfl effect.named effect.raised kept
      ⟨unspent.tokensBought, unspent.distributable, unspent.burned, unspent.totalClaimed⟩ }

/-- A buy leaves a pool with tokens to split and its contributed total as it was. -/
theorem PoolInvariant.spent {accounts : CompleteBuyAccounts} {minTokensOut : UInt64}
    {account : Pool} {credited : TokenAccount} {fill : Fill}
    (invariant : PoolInvariant env pool before) (home : before.RecordsAtHome)
    (effect : Spent env pool before action after accounts minTokensOut account credited fill) :
    PoolInvariant env pool after := by
  have sound := invariant.account account effect.stored
  have unspent := sound.phase.unspent (by simp [effect.status])
  obtain ⟨named, raised, kept⟩ := sound.phase.raised (.inl effect.status)
  -- The counters written are the tokens and reserves of the buy; the split is still to come.
  refine invariant.rewritten home effect.stored (by simp [effect.status])
    effect.accountAfter effect.records ?_ rfl rfl rfl unspent.totalClaimed
  exact { sound with
    phase := .bought rfl named raised kept effect.bought ⟨unspent.distributable, unspent.burned⟩
      unspent.totalClaimed }

/-- Marking a pool refundable changes only its status. -/
theorem PoolInvariant.marked {accounts : MarkRefundableAccounts} {account : Pool}
    (invariant : PoolInvariant env pool before) (home : before.RecordsAtHome)
    (effect : Marked pool before action after accounts account) :
    PoolInvariant env pool after := by
  have sound := invariant.account account effect.stored
  -- Both statuses it may be marked from come before the buy.
  have early : account.status ≠ .Bought ∧ account.status ≠ .Finalized := by
    rcases effect.status with status | status <;> simp [status]
  have unspent := sound.phase.unspent early
  refine invariant.rewritten home effect.stored early.2 effect.accountAfter
    (.of_eq (by rw [effect.frame]; rfl)) ?_ rfl rfl rfl unspent.totalClaimed
  exact { sound with
    phase := .refundable rfl
      ⟨unspent.tokensBought, unspent.distributable, unspent.burned, unspent.totalClaimed⟩ }

/-- A bought pool received tokens and has split and paid out nothing. -/
theorem Pool.Phase.unsplit {account : Pool} (phase : account.Phase)
    (status : account.status = .Bought) :
    0 < account.tokensBought ∧ account.totalClaimed = 0 := by
  -- The status names the phase.
  cases phase with
  | raising other => rw [status] at other; cases other
  | launching other => rw [status] at other; cases other
  | bought _ _ _ _ received _ unclaimed => exact ⟨received, unclaimed⟩
  | finalized other => rw [status] at other; cases other
  | refundable other => rw [status] at other; cases other

/-- A finalized pool received tokens and has split exactly those. -/
theorem Pool.Phase.split {account : Pool} (phase : account.Phase)
    (status : account.status = .Finalized) :
    0 < account.tokensBought ∧
      account.distributable.toNat + account.burned.toNat = account.tokensBought.toNat := by
  -- The status names the phase.
  cases phase with
  | raising other => rw [status] at other; cases other
  | launching other => rw [status] at other; cases other
  | bought other => rw [status] at other; cases other
  | finalized _ _ _ _ received split => exact ⟨received, split⟩
  | refundable other => rw [status] at other; cases other

/-- A finalization splits exactly what was bought. -/
theorem PoolInvariant.settled {accounts : FinalizeAccounts} {account : Pool} {vault : TokenAccount}
    {vtok vquote distributable burned : UInt64}
    (invariant : PoolInvariant env pool before) (home : before.RecordsAtHome)
    (effect : Settled env pool before action after accounts account vault vtok vquote distributable
      burned) : PoolInvariant env pool after := by
  have sound := invariant.account account effect.stored
  obtain ⟨named, raised, kept⟩ := sound.phase.raised (.inr (.inl effect.status))
  obtain ⟨received, unclaimed⟩ := sound.phase.unsplit effect.status
  -- What the arithmetic leaves to distribute and what it burns add up to what was bought.
  obtain ⟨-, -, -, -, sums⟩ := computeDistributable_ok.mp effect.split
  refine invariant.rewritten home effect.stored (by simp [effect.status])
    effect.accountAfter (.of_eq (by rw [effect.frame]; rfl)) ?_ rfl rfl rfl unclaimed
  exact { sound with phase := .finalized rfl named raised kept received sums }

/-- Records stay sound when one of them is written and the pool account with it. -/
theorem records_written {account written : Pool} {contributor : Pubkey} {new : Contribution}
    (records : ∀ another record, before.stake pool another = some record →
      record.Sound env pool another (some account))
    (one : Written pool contributor new before after)
    (own : new.Sound env pool contributor (some written))
    (least : written.minContributionLamports = account.minContributionLamports)
    (settled : account.status = .Finalized → written.status = .Finalized) :
    ∀ another record, after.stake pool another = some record →
      record.Sound env pool another (some written) := by
  intro another record stored
  -- Either this is the record written, or it reads as before.
  by_cases same : another = contributor
  · subst same
    rw [one.record, Option.some.injEq] at stored
    exact stored ▸ own
  · rw [one.others another same] at stored
    exact (records another record stored).carry least settled

/-- A contribution grows one record and the pool's total alike. -/
theorem PoolInvariant.contributed {accounts : ContributeAccounts} {amount : UInt64}
    {account : Pool} {newTotal total : UInt64} {count : UInt32}
    (invariant : PoolInvariant env pool before) (home : after.RecordsAtHome)
    (effect : Contributed env pool before action after accounts amount account newTotal total
      count) : PoolInvariant env pool after := by
  have sound := invariant.account account effect.stored
  have backed := invariant.backed account effect.stored
  have unspent := sound.phase.unspent (by simp [effect.status])
  obtain ⟨unset, kept⟩ := sound.phase.opened effect.status
  have enough := UInt64.le_iff_toNat_le.mp effect.enough
  have summed := effect.summed
  have added := effect.added
  have counted := effect.counted
  -- The record added to is the stored one, or a new one that holds nothing yet.
  have old : (before.stake pool accounts.contributor).elim 0 (fun record => record.amount.toNat)
        = (before.stakeOrNew env accounts).amount.toNat ∧
      (before.stake pool accounts.contributor).elim 0 (fun record => if record.refunded then 0 else 1)
        = (if before.stake pool accounts.contributor = none then 0 else 1) ∧
      (before.stakeOrNew env accounts).bump
        = env.bump (.contribution pool accounts.contributor) := by
    have unrefunded := effect.unrefunded
    rw [World.stakeOrNew, effect.target] at unrefunded ⊢
    cases stored : before.stake pool accounts.contributor with
    | none =>
      refine ⟨rfl, rfl, ?_⟩
      rw [← effect.record]
      rfl
    | some record =>
      rw [stored] at unrefunded
      have unrefunded : record.refunded = false := unrefunded
      exact ⟨rfl, by simp [unrefunded], (invariant.records _ _ stored).bump⟩
  -- The amount added is at least the minimum, so the record grown is a stake.
  have records := records_written (invariant.soundRecords effect.stored) effect.written {
    signed := effect.signed
    bump := old.2.2
    state := .inr ⟨{ account with contributorCount := count, totalContributed := newTotal }, rfl, {
      unrefunded := effect.unrefunded
      enough := by simp only; omega
      claimed := fun claimed => by rw [effect.unclaimed] at claimed; cases claimed }⟩ } rfl id
  constructor
  · -- The pool stays open, and its new total was checked against its cap.
    intro live found
    rw [effect.accountAfter, Option.some.injEq] at found
    subst found
    have bounded := UInt64.le_iff_toNat_le.mp effect.bounded
    exact { sound with
      bounded := by rw [kept]; exact bounded
      phase := .raising effect.status unset kept
        ⟨unspent.tokensBought, unspent.distributable, unspent.burned, unspent.totalClaimed⟩ }
  · intro contributor record found
    rw [effect.accountAfter]
    exact records _ _ found
  · -- One write trades the old record's part of each total for the new one's.
    intro live found
    rw [effect.accountAfter, Option.some.injEq] at found
    subst found
    have total := effect.written.totals fun record => record.amount.toNat
    have active := effect.written.totals fun record => if record.refunded then 0 else 1
    have owed := backed.total
    have counts := backed.active
    simp only [old.1, World.owed] at total owed
    simp only [old.2.1, effect.unrefunded, World.active] at active counts
    exact {
      total := by simp only [World.owed]; omega
      active := by
        simp only [World.active]
        -- The counter is raised exactly when the contributor had no record.
        split at active <;> rename_i fresh
        · rw [if_pos fresh] at counted
          simp only [Bool.false_eq_true, if_false] at active
          omega
        · rw [if_neg fresh] at counted
          simp only [Bool.false_eq_true, if_false] at active
          omega
      claimed := by
        rw [sharePaid_total home records (by simp [effect.status])]
        exact congrArg UInt64.toNat unspent.totalClaimed }

/-- A stake that backs its pool's total is no larger than it. -/
theorem Pool.Backed.stake_le {account : Pool} {contributor : Pubkey} {record : Contribution}
    (backed : account.Backed pool before) (home : before.RecordsAtHome)
    (stored : before.stake pool contributor = some record) :
    record.amount.toNat ≤ account.totalContributed.toNat := by
  -- The total kept is the total over the records, and this is one of them.
  rw [backed.total]
  exact World.le_stakeTotal (fun contribution => contribution.amount.toNat) home stored

/-- A claim marks one record and adds exactly its share to what was claimed. -/
theorem PoolInvariant.claimed {accounts : ClaimAccounts} {account : Pool} {record : Contribution}
    {vaultAta contributorAta : TokenAccount} {share totalClaimed : UInt64}
    (invariant : PoolInvariant env pool before) (home : before.RecordsAtHome)
    (effect : Claimed env pool before action after accounts account record vaultAta contributorAta
      share totalClaimed) : PoolInvariant env pool after := by
  have sound := invariant.account account effect.stored
  have backed := invariant.backed account effect.stored
  have own := invariant.records _ _ effect.stake
  have part := backed.stake_le home effect.stake
  -- A stake within the total is paid its exact floor.
  obtain ⟨-, floor⟩ := (allocation_exact part).mp effect.allocated
  have staked := (invariant.soundRecords effect.stored _ _ effect.stake).staked effect.positive
  have records := records_written (invariant.soundRecords effect.stored) effect.written {
    signed := own.signed
    bump := own.bump
    state := .inr ⟨{ account with totalClaimed }, rfl, {
      unrefunded := effect.unrefunded
      enough := staked.enough
      claimed := fun _ => effect.status }⟩ } rfl id
  constructor
  · intro live found
    rw [effect.accountAfter, Option.some.injEq] at found
    subst found
    obtain ⟨named, raised, kept⟩ := sound.phase.raised (.inr (.inr effect.status))
    obtain ⟨received, split⟩ := sound.phase.split effect.status
    exact { sound with
      phase := .finalized effect.status named raised kept received split }
  · intro contributor other found
    rw [effect.accountAfter]
    exact records _ _ found
  · intro live found
    rw [effect.accountAfter, Option.some.injEq] at found
    subst found
    -- Marking the record changes no measure but the share it is now paid.
    have total := effect.written.totals fun record => record.amount.toNat
    have active := effect.written.totals fun record => if record.refunded then 0 else 1
    have paid := effect.written.totals
      (Contribution.sharePaid account.distributable.toNat account.totalContributed.toNat)
    have claimed := backed.claimed
    have added := effect.added
    simp only [effect.stake, Option.elim_some, Nat.add_right_cancel_iff] at total active paid
    simp only [Contribution.sharePaid, effect.unclaimed, Bool.false_eq_true, if_false,
      if_true] at paid
    exact {
      total := by rw [World.owed, total]; exact backed.total
      active := by rw [World.active, active]; exact backed.active
      claimed := by
        simp only
        omega }

/-- A pool that pays refunds has not bought. -/
theorem Pool.early_of_refundAllowed {account : Pool} {now : Int64}
    (allowed : account.refundAllowed now = true) :
    account.status ≠ .Bought ∧ account.status ≠ .Finalized := by
  -- Only an explicit refundable status or a grace period over before the buy passes the check.
  unfold Pool.refundAllowed at allowed
  constructor
  · intro status
    simp [status] at allowed
  · intro status
    simp [status] at allowed

/-- A refund takes one record out of the totals and leaves it paid back. -/
theorem PoolInvariant.refunded {accounts : RefundAccounts} {account : Pool} {record : Contribution}
    {totalContributed totalRefunded : UInt64} (invariant : PoolInvariant env pool before)
    (home : after.RecordsAtHome)
    (effect : Refunded pool before action after accounts account record totalContributed
      totalRefunded) : PoolInvariant env pool after := by
  have sound := invariant.account account effect.stored
  have backed := invariant.backed account effect.stored
  have own := invariant.records _ _ effect.stake
  have early := Pool.early_of_refundAllowed effect.allowed
  have unspent := sound.phase.unspent early
  have subtracted := effect.subtracted
  have added := effect.added
  -- The record left is emptied and marked, which is what paid back means.
  have emptied : { record with refunded := true, amount := 0 }.Sound env pool accounts.contributor
      (some { account with status := .Refundable, totalContributed, totalRefunded }) := {
    signed := own.signed
    bump := own.bump
    state := .inl ⟨rfl, rfl, effect.unclaimed⟩ }
  have records := records_written (invariant.soundRecords effect.stored) effect.written emptied rfl
    (fun settled => absurd settled early.2)
  constructor
  · -- What leaves the contributed total enters the refunded one.
    intro live found
    rw [effect.accountAfter, Option.some.injEq] at found
    subst found
    have bounded := sound.bounded
    exact { sound with
      bounded := by simp only; omega
      phase := .refundable rfl
        ⟨unspent.tokensBought, unspent.distributable, unspent.burned, unspent.totalClaimed⟩ }
  · intro contributor other found
    rw [effect.accountAfter]
    exact records _ _ found
  · -- The record measured its amount and itself before, and neither after.
    intro live found
    rw [effect.accountAfter, Option.some.injEq] at found
    subst found
    have total := effect.written.totals fun record => record.amount.toNat
    have active := effect.written.totals fun record => if record.refunded then 0 else 1
    have owed := backed.total
    have counts := backed.active
    simp only [effect.stake, Option.elim_some, UInt64.toNat_zero, World.owed] at total owed
    simp only [effect.stake, Option.elim_some, effect.unrefunded, if_true, Bool.false_eq_true,
      if_false, World.active] at active counts
    exact {
      total := by simp only [World.owed]; omega
      active := by simp only [World.active]; omega
      claimed := by
        rw [sharePaid_total home records (by simp)]
        exact congrArg UInt64.toNat unspent.totalClaimed }

/-- With nothing contributed left, every record of the pool is paid back. -/
theorem PoolInvariant.paidBack_of_empty {account : Pool} (invariant : PoolInvariant env pool before)
    (home : before.RecordsAtHome) (stored : before.pools pool = some account)
    (empty : account.totalContributed = 0) :
    ∀ contributor record, before.stake pool contributor = some record → record.PaidBack := by
  intro contributor record found
  have least := (invariant.account account stored).least
  have part := (invariant.backed account stored).stake_le home found
  rcases (invariant.soundRecords stored _ _ found).state with paidBack | ⟨live, same, staked⟩
  · exact paidBack
  · -- A stake is at least the minimum, which is not zero, yet at most the empty total.
    simp only [Option.some.injEq] at same
    subst same
    have enough := staked.enough
    rw [empty, UInt64.toNat_zero] at part
    omega

/-- A closed pool leaves nothing but paid-back records. -/
theorem PoolInvariant.closed {accounts : ClosePoolAccounts} {account : Pool}
    (invariant : PoolInvariant env pool before) (home : before.RecordsAtHome)
    (effect : Closed pool before action after accounts account) :
    PoolInvariant env pool after := by
  have paidBack := invariant.paidBack_of_empty home effect.stored effect.empty
  -- No account is left to say anything about, only the records.
  constructor
  · intro live found
    rw [effect.accountAfter] at found
    cases found
  · intro contributor record found
    rw [effect.records.stakes] at found
    have sound := invariant.records _ _ found
    exact ⟨sound.signed, sound.bump, .inl (paidBack _ _ found)⟩
  · intro live found
    rw [effect.accountAfter] at found
    cases found

/-- Whatever a step does to a pool, its invariant survives. -/
theorem PoolInvariant.effect (invariant : PoolInvariant env pool before)
    (home : before.RecordsAtHome) (homeAfter : after.RecordsAtHome)
    (effect : Effect env pool before action after) : PoolInvariant env pool after := by
  -- One case for each thing a step can do to a pool.
  cases effect with
  | untouched _ frame => exact invariant.of_same frame.account ⟨frame.stakes, frame.totals⟩
  | created _ _ _ effect => exact invariant.created home effect
  | contributed _ _ _ _ _ _ effect => exact invariant.contributed homeAfter effect
  | launched _ _ _ effect => exact invariant.launched home effect
  | spent _ _ _ _ _ effect => exact invariant.spent home effect
  | repeated _ _ _ effect => exact effect.same ▸ invariant
  | settled _ _ _ _ _ _ _ effect => exact invariant.settled home effect
  | claimed _ _ _ _ _ _ _ effect => exact invariant.claimed home effect
  | refunded _ _ _ _ _ effect => exact invariant.refunded homeAfter effect
  | marked _ _ effect => exact invariant.marked home effect
  | closed _ _ effect => exact invariant.closed home effect
  | endowed _ _ effect => exact invariant.of_same effect.account effect.records

end Preservation

/-- Every pool of every reachable state satisfies the invariant. -/
theorem run_poolInvariant {env : Env} {start world : World} {history : List Transition}
    (genesis : Genesis start) (run : Run env start history world) (creator : Pubkey)
    (seed : UInt64) : PoolInvariant env (.pool creator seed) world := by
  apply run.extends
  · -- Before the first call there is no pool and no record.
    constructor
    · intro account stored
      rw [genesis.noPools] at stored
      cases stored
    · intro contributor record stored
      rw [World.stake, genesis.noContributions, AList.lookup_empty] at stored
      cases stored
    · intro account stored
      rw [genesis.noPools] at stored
      cases stored
  · -- Records lie at their own addresses on both sides of a step, so its effect is known.
    intro past pre action post before invariant taken
    have home := run_recordsAtHome genesis before
    exact invariant.effect home (step_recordsAtHome home taken) (step_effect home taken)

end Batchit
