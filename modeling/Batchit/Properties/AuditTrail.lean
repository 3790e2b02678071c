import Batchit.Audit
import Batchit.Properties.Lifecycle
import Batchit.Protocol.Invariant

/-! The log is a complete audit trail: replayed by an auditor who checks it, it yields the chain. -/

namespace Batchit

open Machine

/-- A replica that reads at a pool as the chain does, or rightly expects it to be closed. -/
structure MirrorsAt (pool : Pubkey) (world : World) (replica : Replica) : Prop where
  live : ∀ account, world.pools pool = some account → replica.pools pool = some account
  gone : world.pools pool = none → replica.vacant pool = true
  stakes : ∀ contributor, replica.stake pool contributor = world.stake pool contributor

/-- A replica that reads as the chain does, at every address a pool can have. -/
def Mirrors (world : World) (replica : Replica) : Prop :=
  ∀ creator seed, MirrorsAt (.pool creator seed) world replica

/-- Two replicas that read the same at a pool. -/
structure Replica.SameAt (pool : Pubkey) (replica next : Replica) : Prop where
  pools : next.pools pool = replica.pools pool
  stakes : ∀ contributor, next.stake pool contributor = replica.stake pool contributor

namespace Replica

variable {pool other : Pubkey} (replica : Replica)

/-- A replica is the same as itself at every pool. -/
theorem SameAt.refl (pool : Pubkey) : SameAt pool replica replica := ⟨rfl, fun _ => rfl⟩

/-- A pool that is written is what is read. -/
@[simp] theorem setPool_pools (account : Pool) :
    (replica.setPool pool account).pools pool = some account := by
  simp [setPool]

/-- Writing a pool leaves every stake alone. -/
@[simp] theorem setPool_stake (account : Pool) (contributor : Pubkey) :
    (replica.setPool pool account).stake other contributor = replica.stake other contributor := rfl

/-- Writing a stake leaves every pool alone. -/
@[simp] theorem setStake_pools (contributor : Pubkey) (record : Contribution) :
    (replica.setStake pool contributor record).pools = replica.pools := rfl

/-- A stake that is written is what is read. -/
@[simp] theorem setStake_stake (contributor : Pubkey) (record : Contribution) :
    (replica.setStake pool contributor record).stake pool contributor = some record := by
  simp [setStake, stake]

/-- Writing a stake leaves those of other contributors alone. -/
theorem setStake_stake_ne {contributor another : Pubkey} (record : Contribution)
    (differ : another ≠ contributor) :
    (replica.setStake pool contributor record).stake pool another = replica.stake pool another := by
  simp [setStake, stake, differ]

/-- Writing a pool leaves what is read at every other one. -/
theorem SameAt.setPool (differ : other ≠ pool) (account : Pool) :
    SameAt other replica (replica.setPool pool account) where
  pools := by simp [Replica.setPool, differ]
  stakes _ := rfl

/-- Writing a stake leaves what is read at every other pool. -/
theorem SameAt.setStake (differ : other ≠ pool) (contributor : Pubkey) (record : Contribution) :
    SameAt other replica (replica.setStake pool contributor record) where
  pools := rfl
  stakes another := by simp [Replica.setStake, stake, differ]

/-- Writing a stake and its pool leaves what is read at every other pool. -/
theorem SameAt.setBoth (differ : other ≠ pool) (contributor : Pubkey) (record : Contribution)
    (account : Pool) :
    SameAt other replica ((replica.setStake pool contributor record).setPool pool account) where
  -- Neither the stake nor the pool that is written is at the other address.
  pools := (SameAt.setPool _ differ account).pools
  stakes another := (SameAt.setStake replica differ contributor record).stakes another

end Replica

/-- Replaying one event is applying it. -/
theorem replay_one (env : Env) (replica : Replica) (event : Event) :
    replay (Replica.apply env) replica [event] = replica.apply env event := by
  simp [replay]

section Follows

variable {env : Env} {pool : Pubkey} {before after : World} {action : Action} {replica : Replica}

/-- An auditor who believes a step's events, and then reads at its pool as the chain does. -/
def Followed (env : Env) (pool : Pubkey) (replica : Replica) (transition : Transition) : Prop :=
  ∃ next, replay (Replica.apply env) replica (eventsOf transition) = some next ∧
    MirrorsAt pool transition.post next ∧ ∀ other, other ≠ pool → Replica.SameAt other replica next

/-- A pool and stakes that read as before are mirrored as before. -/
theorem MirrorsAt.of_same (mirrors : MirrorsAt pool before replica)
    (account : after.pools pool = before.pools pool)
    (stakes : ∀ contributor, after.stake pool contributor = before.stake pool contributor) :
    MirrorsAt pool after replica where
  -- What the replica mirrored before is what there is now.
  live := by
    rw [account]
    exact mirrors.live
  gone := by
    rw [account]
    exact mirrors.gone
  stakes contributor := (mirrors.stakes contributor).trans (stakes contributor).symm

/-- A pool written alike on both sides is mirrored. -/
theorem MirrorsAt.rewritten {account : Pool} (mirrors : MirrorsAt pool before replica)
    (accountAfter : after.pools pool = some account)
    (stakes : ∀ contributor, after.stake pool contributor = before.stake pool contributor) :
    MirrorsAt pool after (replica.setPool pool account) where
  -- The pool is there now, and is the one written in the replica.
  live other stored := by
    rw [accountAfter] at stored
    rw [Replica.setPool_pools, stored]
  gone nothing := by
    rw [accountAfter] at nothing
    cases nothing
  stakes contributor := (mirrors.stakes contributor).trans (stakes contributor).symm

/-- A stake and its pool written alike on both sides are mirrored. -/
theorem MirrorsAt.written {account : Pool} {contributor : Pubkey} {record : Contribution}
    (mirrors : MirrorsAt pool before replica) (accountAfter : after.pools pool = some account)
    (written : Written pool contributor record before after) :
    MirrorsAt pool after ((replica.setStake pool contributor record).setPool pool account) where
  -- Both the pool and the one record are written in the replica too.
  live other stored := by
    rw [accountAfter] at stored
    rw [Replica.setPool_pools, stored]
  gone nothing := by
    rw [accountAfter] at nothing
    cases nothing
  stakes another := by
    rw [Replica.setPool_stake]
    by_cases own : another = contributor
    · rw [own, Replica.setStake_stake, written.record]
    · rw [Replica.setStake_stake_ne _ _ own, written.others _ own]
      exact mirrors.stakes another

/-- A step that logs nothing and leaves a pool as it was is followed. -/
theorem Followed.silent (nothing : emitted before after action.instruction = none)
    (mirrored : MirrorsAt pool after replica) : Followed env pool replica ⟨before, action, after⟩ :=
  ⟨replica, by simp [eventsOf, nothing, replay], mirrored, fun other _ => .refl replica other⟩

/-- A creation is followed by its event. -/
theorem Created.followed {accounts : CreatePoolAccounts} {args : CreatePoolArgs}
    {graceEndsAt : Int64} (mirrors : MirrorsAt pool before replica)
    (effect : Created env pool before action after accounts args graceEndsAt) :
    Followed env pool replica ⟨before, action, after⟩ := by
  have events : eventsOf ⟨before, action, after⟩ = [.PoolCreated pool accounts.creator args.seed
      args.launchAt graceEndsAt args.minRaiseLamports args.maxPoolLamports
      args.minContributionLamports] := by
    simp [eventsOf, emitted, effect.instruction, effect.target, effect.account,
      CreatePoolArgs.opened]
  have ordered : args.launchAt < graceEndsAt := by
    have grace := Int64.lt_iff_toInt_lt.mp effect.grace
    have ends := effect.ends
    rw [Int64.lt_iff_toInt_lt]
    simp only [Int64.toInt_zero] at grace
    omega
  refine ⟨replica.setPool pool (args.opened env accounts graceEndsAt), ?_,
    mirrors.rewritten effect.account effect.records.stakes,
    fun other differ => .setPool replica differ _⟩
  -- The address was unused, so the auditor knows it as unused or expects it closed.
  have vacant := mirrors.gone effect.unused
  have address := effect.address
  rw [events, replay_one, Replica.apply, Replica.openPool]
  subst address
  simp [vacant, ordered, effect.least, effect.raise, effect.most, CreatePoolArgs.opened,
    effect.target, effect.buyer]

/-- A contribution is followed by its event, whether or not the record is new. -/
theorem Contributed.followed {accounts : ContributeAccounts} {amount : UInt64} {account : Pool}
    {newTotal total : UInt64} {count : UInt32} (home : before.RecordsAtHome)
    (mirrors : MirrorsAt pool before replica)
    (effect : Contributed env pool before action after accounts amount account newTotal total
      count) : Followed env pool replica ⟨before, action, after⟩ := by
  have contributor : (before.stakeOrNew env accounts).contributor = accounts.contributor := by
    unfold World.stakeOrNew
    rw [effect.target]
    cases stored : before.stake pool accounts.contributor with
    | none => rfl
    | some record => exact (home.stakes _ _ _ stored).2
  have record : after.contributions.lookup accounts.contribution
      = some { before.stakeOrNew env accounts with amount := total } := by
    rw [effect.record]
    exact effect.written.record
  have events : eventsOf ⟨before, action, after⟩
      = [.Contributed pool accounts.contributor amount newTotal] := by
    simp [eventsOf, emitted, effect.instruction, effect.target, effect.accountAfter, record,
      contributor]
  refine ⟨_, ?_, mirrors.written effect.accountAfter effect.written,
    fun other differ => .setBoth replica differ _ _ _⟩
  have sum : account.totalContributed.checkedAdd amount = some newTotal :=
    UInt64.checkedAdd_eq_some.mpr effect.added
  have raised : (before.stakeOrNew env accounts).amount.checkedAdd amount = some total :=
    UInt64.checkedAdd_eq_some.mpr effect.summed
  -- The auditor adds to the same record the program does, counting it if it is new.
  have found : replica.stakeFor env account pool accounts.contributor
      = some (before.stakeOrNew env accounts, count) := by
    have counted := effect.counted
    unfold Replica.stakeFor World.stakeOrNew
    rw [mirrors.stakes, effect.target]
    cases stored : before.stake pool accounts.contributor with
    | none =>
      rw [stored, if_pos rfl] at counted
      have next : account.contributorCount.checkedAdd 1 = some count :=
        UInt32.checkedAdd_eq_some.mpr counted
      simp [next, Contribution.named, effect.target, effect.record]
    | some record =>
      rw [stored, if_neg (by simp)] at counted
      have same : account.contributorCount = count := by
        rw [← UInt32.toNat_inj]
        omega
      simp [same]
  rw [events, replay_one]
  simp [Replica.apply, Replica.deposit, mirrors.live _ effect.stored, effect.status, effect.enough,
    sum, effect.bounded, found, effect.unclaimed, effect.unrefunded, raised]

/-- A launch is followed by its event. -/
theorem Launched.followed {accounts : BeginLaunchAccounts} {mint : Pubkey} {account : Pool}
    (mirrors : MirrorsAt pool before replica)
    (effect : Launched pool before action after accounts mint account) :
    Followed env pool replica ⟨before, action, after⟩ := by
  have events : eventsOf ⟨before, action, after⟩
      = [.LaunchBegun pool mint account.totalContributed] := by
    simp [eventsOf, emitted, effect.instruction, effect.target, effect.accountAfter]
  refine ⟨_, ?_, mirrors.rewritten effect.accountAfter fun contributor => by rw [effect.frame]; rfl,
    fun other differ => .setPool replica differ _⟩
  -- The auditor's own checks are those the launch has passed.
  rw [events, replay_one]
  simp [Replica.apply, Replica.launch, mirrors.live _ effect.stored, effect.status, effect.unset,
    effect.named, effect.raised]

/-- A buy is followed by its event. -/
theorem Spent.followed {accounts : CompleteBuyAccounts} {minTokensOut : UInt64} {account : Pool}
    {credited : TokenAccount} {fill : Fill} (mirrors : MirrorsAt pool before replica)
    (effect : Spent env pool before action after accounts minTokensOut account credited fill) :
    Followed env pool replica ⟨before, action, after⟩ := by
  have events : eventsOf ⟨before, action, after⟩ = [.BuyCompleted pool account.mint
      account.totalContributed fill.tokensOut (recordedReserves fill.curve).virtualTokenReserves
      (recordedReserves fill.curve).virtualQuoteReserves] := by
    simp [eventsOf, emitted, effect.instruction, effect.target, effect.stored, effect.status,
      effect.accountAfter, Pool.bought]
  refine ⟨_, ?_, mirrors.rewritten effect.accountAfter effect.records.stakes,
    fun other differ => .setPool replica differ _⟩
  -- The auditor's own checks are those the buy has passed.
  rw [events, replay_one]
  simp [Replica.apply, Replica.buy, mirrors.live _ effect.stored, effect.status, effect.positive,
    effect.bought, Pool.bought]

/-- A settlement is followed by its event. -/
theorem Settled.followed {accounts : FinalizeAccounts} {account : Pool} {vault : TokenAccount}
    {vtok vquote distributable burned : UInt64} (mirrors : MirrorsAt pool before replica)
    (effect : Settled env pool before action after accounts account vault vtok vquote distributable
      burned) : Followed env pool replica ⟨before, action, after⟩ := by
  have events : eventsOf ⟨before, action, after⟩ = [.Finalized pool account.mint
      account.totalContributed account.tokensBought distributable burned vtok vquote] := by
    simp [eventsOf, emitted, effect.instruction, effect.target, effect.accountAfter,
      Pool.finalized]
  refine ⟨_, ?_, mirrors.rewritten effect.accountAfter fun contributor => by rw [effect.frame]; rfl,
    fun other differ => .setPool replica differ _⟩
  -- The auditor computes the split again, out of the prices that are announced.
  rw [events, replay_one]
  simp [Replica.apply, Replica.settle, mirrors.live _ effect.stored, effect.status, effect.split,
    Except.toOption]

/-- A claim is followed by its event. -/
theorem Claimed.followed {accounts : ClaimAccounts} {account : Pool} {record : Contribution}
    {vaultAta contributorAta : TokenAccount} {share totalClaimed : UInt64}
    (home : before.RecordsAtHome) (mirrors : MirrorsAt pool before replica)
    (effect : Claimed env pool before action after accounts account record vaultAta contributorAta
      share totalClaimed) : Followed env pool replica ⟨before, action, after⟩ := by
  have address : accounts.contribution = .contribution pool accounts.contributor := by
    rw [← effect.target]
    exact (loadContribution_ok.mp effect.checked.record).2.1
  have stored : before.contributions.lookup accounts.contribution = some record := by
    rw [address]
    exact effect.stake
  have events : eventsOf ⟨before, action, after⟩
      = [.Claimed pool accounts.contributor record.amount share] := by
    simp [eventsOf, emitted, effect.instruction, effect.target, effect.stored, stored,
      effect.allocated, Except.toOption, (home.stakes _ _ _ effect.stake).2]
  refine ⟨_, ?_, mirrors.written effect.accountAfter effect.written,
    fun other differ => .setBoth replica differ _ _ _⟩
  have added : account.totalClaimed.checkedAdd share = some totalClaimed :=
    UInt64.checkedAdd_eq_some.mpr effect.added
  -- The auditor computes the share again, and adds it to what was claimed.
  rw [events, replay_one]
  simp [Replica.apply, Replica.pay, mirrors.live _ effect.stored, mirrors.stakes, effect.stake,
    effect.status, effect.unclaimed, effect.unrefunded, effect.positive, effect.allocated,
    Except.toOption, added]

/-- A refund is followed by its event. -/
theorem Refunded.followed {accounts : RefundAccounts} {account : Pool} {record : Contribution}
    {totalContributed totalRefunded : UInt64} (home : before.RecordsAtHome)
    (taken : step env before action = .ok after) (mirrors : MirrorsAt pool before replica)
    (effect : Refunded pool before action after accounts account record totalContributed
      totalRefunded) : Followed env pool replica ⟨before, action, after⟩ := by
  have address : accounts.contribution = .contribution pool accounts.contributor := by
    rw [step, effect.instruction] at taken
    obtain ⟨_, _, _, _, _, -, -, loaded, -⟩ := refund_ok.mp taken
    rw [← effect.target]
    exact (loadContribution_ok.mp loaded).2.1
  have stored : before.contributions.lookup accounts.contribution = some record := by
    rw [address]
    exact effect.stake
  have events : eventsOf ⟨before, action, after⟩
      = [.Refunded pool accounts.contributor record.amount] := by
    simp [eventsOf, emitted, effect.instruction, effect.target, stored,
      (home.stakes _ _ _ effect.stake).2]
  refine ⟨_, ?_, mirrors.written effect.accountAfter effect.written,
    fun other differ => .setBoth replica differ _ _ _⟩
  have subtracted : account.totalContributed.checkedSub record.amount = some totalContributed :=
    UInt64.checkedSub_eq_some.mpr effect.subtracted
  have added : account.totalRefunded.checkedAdd record.amount = some totalRefunded :=
    UInt64.checkedAdd_eq_some.mpr effect.added
  -- A pool that pays refunds has not bought.
  have unspent : account.status = .Open ∨ account.status = .Launching ∨
      account.status = .Refundable := by
    rcases Pool.refundable_of_allowed effect.allowed with same | edge
    · exact .inr (.inr same.symm)
    · generalize account.status = status at edge
      cases edge with
      | expire => exact .inl rfl
      | abandon => exact .inr (.inl rfl)
  rw [events, replay_one]
  simp [Replica.apply, Replica.repay, mirrors.live _ effect.stored, mirrors.stakes, effect.stake,
    unspent, effect.unclaimed, effect.unrefunded, effect.positive, subtracted, added]

/-- A mark is followed by its event. -/
theorem Marked.followed {accounts : MarkRefundableAccounts} {account : Pool}
    (mirrors : MirrorsAt pool before replica)
    (effect : Marked pool before action after accounts account) :
    Followed env pool replica ⟨before, action, after⟩ := by
  have events : eventsOf ⟨before, action, after⟩ = [.MarkedRefundable pool] := by
    simp [eventsOf, emitted, effect.instruction, effect.target]
  refine ⟨_, ?_, mirrors.rewritten effect.accountAfter fun contributor => by rw [effect.frame]; rfl,
    fun other differ => .setPool replica differ _⟩
  -- The auditor's own check is the one the mark has passed.
  rw [events, replay_one]
  simp [Replica.apply, Replica.mark, mirrors.live _ effect.stored, effect.status]

/-- A closing is not logged, and leaves an address the auditor expects to be closed. -/
theorem Closed.followed {accounts : ClosePoolAccounts} {account : Pool}
    (sound : account.Sound env pool) (mirrors : MirrorsAt pool before replica)
    (effect : Closed pool before action after accounts account) :
    Followed env pool replica ⟨before, action, after⟩ := by
  apply Followed.silent
  · simp [emitted, effect.instruction]
  · -- A pool that bought has a raise on its books, so an empty one is refundable.
    have refundable : account.status = .Refundable := by
      rcases effect.status with status | status | status
      · exact status
      · have raised := (sound.phase.raised (.inr (.inr status))).2.1
        have least := sound.least
        have raise := sound.raise
        rw [effect.empty, UInt64.le_iff_toNat_le, UInt64.toNat_zero] at raised
        omega
      · exact absurd status sound.phase.not_closed
    exact {
      live := fun other stored => by
        rw [effect.accountAfter] at stored
        cases stored
      gone := fun _ => by
        simp [Replica.vacant, mirrors.live _ effect.stored, effect.empty, refundable]
      stakes := fun contributor =>
        (mirrors.stakes contributor).trans (effect.records.stakes contributor).symm }

/-- Whatever a step does to the pool it names, the auditor follows. -/
theorem Effect.followed (effect : Effect env pool before action after)
    (taken : step env before action = .ok after) (home : before.RecordsAtHome)
    (invariant : PoolInvariant env pool before) (mirrors : MirrorsAt pool before replica)
    (named : action.instruction.concerns pool = true) :
    Followed env pool replica ⟨before, action, after⟩ := by
  -- Each effect announces its event, but for a repeated buy and lamports sent from outside.
  cases effect with
  | untouched other frame =>
    rw [named] at other
    cases other
  | created accounts args graceEndsAt effect => exact effect.followed mirrors
  | contributed accounts amount account newTotal total count effect =>
    exact effect.followed home mirrors
  | launched accounts mint account effect => exact effect.followed mirrors
  | spent accounts minTokensOut account credited fill effect => exact effect.followed mirrors
  | repeated accounts minTokensOut account effect =>
    apply Followed.silent
    · simp [emitted, effect.instruction, effect.target, effect.stored, effect.status]
    · rw [effect.same]
      exact mirrors
  | settled accounts account vault vtok vquote distributable burned effect =>
    exact effect.followed mirrors
  | claimed accounts account record vaultAta contributorAta share totalClaimed effect =>
    exact effect.followed home mirrors
  | refunded accounts account record totalContributed totalRefunded effect =>
    exact effect.followed home taken mirrors
  | marked accounts account effect => exact effect.followed mirrors
  | closed accounts account effect =>
    exact effect.followed (invariant.account _ effect.stored) mirrors
  | endowed source amount effect =>
    apply Followed.silent
    · simp [emitted, effect.instruction]
    · exact mirrors.of_same effect.account effect.records.stakes

/-- An instruction names one pool at most. -/
theorem Instruction.concerns_unique {instruction : Instruction} {other : Pubkey}
    (one : instruction.concerns pool = true) (two : instruction.concerns other = true) :
    other = pool := by
  cases instruction <;> simp only [concerns, decide_eq_true_eq, Bool.false_eq_true] at one two <;>
    exact two.symm.trans one

/-- A step has no effect on a pool its instruction does not name. -/
theorem Effect.untouched_of_other (effect : Effect env pool before action after)
    (other : action.instruction.concerns pool = false) : Untouched pool before after := by
  cases effect
  case untouched frame => exact frame
  case endowed effect => simp [Instruction.concerns, effect.instruction] at other
  -- Every other effect names the pool in its instruction.
  all_goals
    rename_i effect
    simp [Instruction.concerns, effect.instruction, effect.target] at other

/-- A step that logs an event names a pool at an address a pool can have. -/
theorem Instruction.named_or_silent (taken : step env before action = .ok after) :
    (∃ creator seed, action.instruction.concerns (.pool creator seed) = true) ∨
      emitted before after action.instruction = none := by
  -- A pool is loaded only at the address its own creator and seed derive.
  have loads {address : Pubkey} {account : Pool}
      (loaded : loadPool env before address = .ok account) :
      ∃ creator seed, address = .pool creator seed := ⟨_, _, (loadPool_ok.mp loaded).2.1⟩
  obtain ⟨now, instruction⟩ := action
  cases instruction with
  | createPool accounts args =>
    obtain ⟨_, _, -, address, -⟩ := createPool_ok.mp taken
    exact .inl ⟨accounts.creator, args.seed, by simp [concerns, address]⟩
  | contribute accounts amount =>
    simp only [step, Batchit.contribute, bind_eq_ok] at taken
    obtain ⟨_, _, _, loaded, -⟩ := taken
    obtain ⟨creator, seed, address⟩ := loads loaded
    exact .inl ⟨creator, seed, by simp [concerns, address]⟩
  | beginLaunch accounts mint =>
    obtain ⟨_, -, loaded, -⟩ := beginLaunch_ok.mp taken
    obtain ⟨creator, seed, address⟩ := loads loaded
    exact .inl ⟨creator, seed, by simp [concerns, address]⟩
  | completeBuy accounts minTokensOut =>
    obtain ⟨_, _, checked, -⟩ := completeBuy_ok.mp taken
    obtain ⟨creator, seed, address⟩ := loads checked.loaded
    exact .inl ⟨creator, seed, by simp [concerns, address]⟩
  | finalize accounts =>
    obtain ⟨_, _, _, _, _, _, _, -, loaded, -⟩ := finalize_ok.mp taken
    obtain ⟨creator, seed, address⟩ := loads loaded
    exact .inl ⟨creator, seed, by simp [concerns, address]⟩
  | claim accounts =>
    obtain ⟨_, _, _, _, _, _, _, checked, -⟩ := claim_ok.mp taken
    obtain ⟨creator, seed, address⟩ := loads checked.loaded
    exact .inl ⟨creator, seed, by simp [concerns, address]⟩
  | refund accounts =>
    obtain ⟨_, _, _, _, _, -, loaded, -⟩ := refund_ok.mp taken
    obtain ⟨creator, seed, address⟩ := loads loaded
    exact .inl ⟨creator, seed, by simp [concerns, address]⟩
  | markRefundable accounts =>
    obtain ⟨_, -, loaded, -⟩ := markRefundable_ok.mp taken
    obtain ⟨creator, seed, address⟩ := loads loaded
    exact .inl ⟨creator, seed, by simp [concerns, address]⟩
  | _ => exact .inr rfl

/-- The auditor follows every step of the system, and reads as the chain does at every pool. -/
theorem Mirrors.step (mirrors : Mirrors before replica) (home : before.RecordsAtHome)
    (invariant : ∀ creator seed, PoolInvariant env (.pool creator seed) before)
    (taken : step env before action = .ok after) :
    ∃ next, replay (Replica.apply env) replica (eventsOf ⟨before, action, after⟩) = some next ∧
      Mirrors after next := by
  have effect (creator : Pubkey) (seed : UInt64) :
      Effect env (.pool creator seed) before action after := step_effect home taken
  rcases Instruction.named_or_silent taken with ⟨creator, seed, named⟩ | nothing
  · obtain ⟨next, accepted, own, others⟩ := (effect creator seed).followed taken home
      (invariant creator seed) (mirrors creator seed) named
    refine ⟨next, accepted, fun creator' seed' => ?_⟩
    by_cases same : Pubkey.pool creator' seed' = .pool creator seed
    · rw [same]
      exact own
    · -- Neither the chain nor the replica has changed at any other pool.
      have other : action.instruction.concerns (.pool creator' seed') = false := by
        rw [Bool.eq_false_iff]
        intro also
        exact same (Instruction.concerns_unique named also)
      have frame := (effect creator' seed').untouched_of_other other
      have kept := (mirrors creator' seed').of_same frame.account frame.stakes
      have agree := others _ same
      exact {
        live := fun account stored => agree.pools.trans (kept.live account stored)
        gone := fun empty => by
          rw [Replica.vacant, agree.pools]
          exact kept.gone empty
        stakes := fun contributor => (agree.stakes contributor).trans (kept.stakes contributor) }
  · refine ⟨replica, by simp [eventsOf, nothing, replay], fun creator seed => ?_⟩
    -- A step that logs nothing repeats a buy, closes a pool, or is not the program's.
    by_cases named : action.instruction.concerns (.pool creator seed) = true
    · obtain ⟨next, accepted, own, -⟩ := (effect creator seed).followed taken home
        (invariant creator seed) (mirrors creator seed) named
      simp only [eventsOf, nothing, Option.toList_none, replay, List.foldlM_nil] at accepted
      cases accepted
      exact own
    · rw [Bool.not_eq_true] at named
      have frame := (effect creator seed).untouched_of_other named
      exact (mirrors creator seed).of_same frame.account frame.stakes

end Follows

/--
The log of every run is a complete audit trail.

An auditor who starts from nothing, sees only the events, and checks each of them accepts the whole log.
It then holds every live pool's account field for field, and every contributor's record in every pool.
-/
theorem log_complete {env : Env} {start world : World} {history : List Transition}
    (genesis : Genesis start) (run : Run env start history world) :
    ∃ replica, replay (Replica.apply env) .empty (logged eventsOf history) = some replica ∧
      (∀ pool account, world.pools pool = some account → replica.pools pool = some account) ∧
      ∀ creator seed contributor, replica.stake (.pool creator seed) contributor
        = world.stake (.pool creator seed) contributor := by
  have initial : Mirrors start .empty := fun creator seed => {
    live := fun account stored => by
      rw [genesis.noPools] at stored
      cases stored
    gone := fun _ => rfl
    stakes := fun contributor => by
      rw [World.stake, genesis.noContributions]
      rfl }
  obtain ⟨replica, accepted, mirrors⟩ : ∃ final,
      replay (Replica.apply env) .empty (logged eventsOf history) = some final ∧
        Mirrors world final := run_replayed run initial
    fun past pre action post replica before mirrored taken =>
      mirrored.step (run_recordsAtHome genesis before) (run_poolInvariant genesis before) taken
  refine ⟨replica, accepted, fun pool account stored => ?_,
    fun creator seed => (mirrors creator seed).stakes⟩
  -- Every stored pool lies at an address of a creator and a seed.
  obtain ⟨creator, seed, rfl⟩ := run_poolsAtHome genesis run stored
  exact (mirrors creator seed).live account stored

/-- The sample launch, read back from its log. -/
theorem log_complete_sample : ∃ replica,
    replay (Replica.apply Sample.env) .empty (logged eventsOf (Sample.past Sample.purchased))
      = some replica ∧
    ∀ pool account, (Sample.reach Sample.purchased).pools pool = some account →
      replica.pools pool = some account := by
  -- The sample launch is one run, up to its buy.
  have run : Run Sample.env Sample.start (Sample.past Sample.purchased)
      (Sample.reach Sample.purchased) := Sample.run (by decide +kernel)
  obtain ⟨replica, accepted, pools, -⟩ := log_complete Sample.genesis run
  exact ⟨replica, accepted, pools⟩

end Batchit
