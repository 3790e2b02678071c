import Batchit.Instructions.Gates
import Batchit.Properties.Claims
import Batchit.Protocol.Schedule
import Mathlib.Logic.Basic

/-! The schedule of a pool, along every run whose clock never goes back. -/

namespace Batchit

open Machine

/-- The times a pool's status stands for have come. -/
structure Pool.InTime (account : Pool) (now : Int64) : Prop where
  launched : account.status = .Launching ∨ account.status = .Bought ∨ account.status = .Finalized →
    account.launchAt ≤ now
  returned : account.status = .Refundable → account.graceEndsAt ≤ now

/-- One step kept to the schedule of one pool. -/
structure OnSchedule (pool : Pubkey) (transition : Transition) : Prop where
  /-- A pool opens before its launch, which comes before the end of its grace. -/
  created : ∀ accounts args, transition.action.instruction = .createPool accounts args →
    accounts.pool = pool → ∃ account, transition.post.pools pool = some account ∧
      transition.action.now < account.launchAt ∧ account.launchAt < account.graceEndsAt
  /-- A contribution comes before the launch. -/
  contributed : ∀ accounts amount, transition.action.instruction = .contribute accounts amount →
    accounts.pool = pool → ∃ account, transition.pre.pools pool = some account ∧
      transition.action.now < account.launchAt
  /-- A pool becomes launching or bought between its launch and the end of its grace. -/
  entered : ∀ account, transition.post.pools pool = some account →
    account.status = .Launching ∨ account.status = .Bought →
    (∀ was, transition.pre.pools pool = some was → was.status ≠ account.status) →
    account.launchAt ≤ transition.action.now ∧ transition.action.now < account.graceEndsAt
  /-- A refund, or the marking of the pool, comes after the grace. -/
  returned : transition.action.instruction.returns pool = true →
    ∃ account, transition.pre.pools pool = some account ∧
      account.graceEndsAt ≤ transition.action.now
  /-- Lamports leave the pool account no earlier than the launch. -/
  debited : transition.post.lamports pool < transition.pre.lamports pool →
    ∃ account, transition.pre.pools pool = some account ∧
      account.launchAt ≤ transition.action.now

/-- The two gates of a pool at a time, and the calls they stop. -/
structure Pool.Gated (env : Env) (world : World) (account : Pool) (now : Int64) : Prop where
  exclusive : Xor (account.buyOpen now = true) (account.refundAllowed now = true)
  buy : ∀ accounts user minTokensOut, CompleteBuyAccounts.Checked env world accounts account user →
    ((∃ error, completeBuy env world now accounts minTokensOut = .error error ∧ atBuyGate error) ↔
      account.buyOpen now = false)
  refund : ∀ accounts : RefundAccounts, ∀ contrib, accounts.contributor.canSign = true →
    loadPool env world accounts.pool = .ok account →
    loadContribution env world accounts.contribution accounts.pool accounts.contributor
      = .ok contrib →
    (refund env world now accounts = .error (.batchit .RefundNotAllowed) ↔
      account.refundAllowed now = false)

/-- Everything the schedule of a pool promises of a run. -/
structure Scheduled (env : Env) (pool : Pubkey) (history : List Transition) (world : World) :
    Prop where
  steps : ∀ transition ∈ history, OnSchedule pool transition
  reached : ∀ account, world.pools pool = some account →
    ∀ now : Int64, NoneAfter clockOf now.toInt history → account.InTime now
  gates : ∀ account, world.pools pool = some account → account.status = .Launching →
    ∀ now, account.Gated env world now

/-- Exactly one of the two gates of a launching pool is open at any time. -/
theorem Pool.gates_exclusive {account : Pool} (launching : account.status = .Launching)
    (now : Int64) : Xor (account.buyOpen now = true) (account.refundAllowed now = true) := by
  -- The two comparisons with the end of the grace are complementary.
  have refunds : account.refundAllowed now = true ↔ account.graceEndsAt ≤ now := by
    simp [refundAllowed, launching]
  rw [buyOpen_iff, refunds, ← Int64.not_lt]
  by_cases early : now < account.graceEndsAt
  · exact .inl ⟨⟨launching, early⟩, not_not_intro early⟩
  · exact .inr ⟨early, fun opened => early opened.2⟩

section Step

variable {env : Env} {pool : Pubkey} {before after : World} {action : Action}

/-- Lamports leave a pool account only in its buy, in a refund, or when it is closed. -/
theorem Effect.live_of_debited (effect : Effect env pool before action after)
    (less : after.lamports pool < before.lamports pool) :
    ∃ account, before.pools pool = some account ∧
      (account.status = .Launching ∨ account.refundAllowed action.now = true ∨
        account.status = .Refundable ∨ account.status = .Finalized ∨
        account.status = .Closed) := by
  have less := UInt64.lt_iff_toNat_lt.mp less
  -- Every other effect leaves the account at least what it held.
  cases effect with
  | untouched _ frame =>
    rw [frame.lamports] at less
    omega
  | created _ _ _ effect =>
    have lamports := effect.lamports
    omega
  | contributed _ _ _ _ _ _ effect =>
    have lamports := effect.lamports
    omega
  | launched _ _ _ effect =>
    rw [effect.frame, World.setPool_lamports] at less
    omega
  | spent _ _ account _ _ effect => exact ⟨account, effect.stored, .inl effect.status⟩
  | repeated _ _ _ effect =>
    rw [effect.same] at less
    omega
  | settled _ _ _ _ _ _ _ effect =>
    rw [effect.frame, World.setPool_lamports, World.setTokens_lamports] at less
    omega
  | claimed _ _ _ _ _ _ _ effect =>
    rw [effect.lamports] at less
    omega
  | refunded _ account _ _ _ effect => exact ⟨account, effect.stored, .inr (.inl effect.allowed)⟩
  | marked _ _ effect =>
    rw [effect.frame, World.setPool_lamports] at less
    omega
  | closed _ account effect => exact ⟨account, effect.stored, .inr (.inr effect.status)⟩
  | endowed _ _ effect =>
    have lamports := effect.lamports
    omega

/-- A pool past the end of its grace is past its launch. -/
theorem Pool.InTime.launch_of_grace {account : Pool} {now : Int64} (sound : account.Sound env pool)
    (late : account.graceEndsAt ≤ now) : account.launchAt ≤ now := by
  -- The window between the two times is not empty.
  have window := sound.window
  have late := Int64.le_iff_toInt_le.mp late
  apply Int64.le_iff_toInt_le.mpr
  omega

/-- A pool is created with its launch ahead, and the end of its grace after that. -/
theorem Effect.created_ahead (effect : Effect env pool before action after)
    {accounts : CreatePoolAccounts} {args : CreatePoolArgs}
    (instruction : action.instruction = .createPool accounts args) (target : accounts.pool = pool) :
    ∃ account, after.pools pool = some account ∧ action.now < account.launchAt ∧
      account.launchAt < account.graceEndsAt := by
  obtain ⟨graceEndsAt, created⟩ := effect.created_of_call instruction target
  refine ⟨_, created.account, created.early, ?_⟩
  -- The grace added to the launch is positive.
  have ends := created.ends
  have grace := Int64.lt_iff_toInt_lt.mp created.grace
  rw [Int64.toInt_zero] at grace
  apply Int64.lt_iff_toInt_lt.mpr
  simp only [CreatePoolArgs.opened]
  omega

/-- A contribution is accepted before the launch. -/
theorem Effect.contributed_early (effect : Effect env pool before action after)
    {accounts : ContributeAccounts} {amount : UInt64}
    (instruction : action.instruction = .contribute accounts amount)
    (target : accounts.pool = pool) :
    ∃ account, before.pools pool = some account ∧ action.now < account.launchAt := by
  obtain ⟨account, _, _, _, contributed⟩ := effect.contributed_of_call instruction target
  exact ⟨account, contributed.stored, contributed.early⟩

/-- A refund or the marking of a pool finds it past its grace, or already refundable. -/
theorem Effect.returned_late (effect : Effect env pool before action after)
    (returns : action.instruction.returns pool = true) :
    ∃ account, before.pools pool = some account ∧
      (account.status = .Refundable ∨ account.graceEndsAt ≤ action.now) := by
  -- A refund checks the end of the grace or the status, and the marking always the former.
  rcases effect.refunded_or_marked returns with
    ⟨_, account, _, _, _, refunded⟩ | ⟨_, account, marked⟩
  · exact ⟨account, refunded.stored, Pool.late_of_refundAllowed refunded.allowed⟩
  · exact ⟨account, marked.stored, .inr marked.late⟩

/-- A pool becomes launching inside its window, and bought while it is launching and in its grace. -/
theorem Effect.entered_between {account : Pool} (effect : Effect env pool before action after)
    (stored : after.pools pool = some account)
    (status : account.status = .Launching ∨ account.status = .Bought)
    (enters : ∀ was, before.pools pool = some was → was.status ≠ account.status) :
    action.now < account.graceEndsAt ∧ (account.launchAt ≤ action.now ∨
      ∃ was, before.pools pool = some was ∧ was.status = .Launching ∧
        was.launchAt = account.launchAt) := by
  -- Only beginning the launch and the buy enter one of the two statuses.
  cases effect with
  | untouched _ frame => exact absurd rfl (enters account (frame.account ▸ stored))
  | created _ _ _ effect =>
    rw [effect.account, Option.some.injEq] at stored
    subst stored
    simp [CreatePoolArgs.opened] at status
  | contributed _ _ _ _ _ _ effect =>
    rw [effect.accountAfter, Option.some.injEq] at stored
    subst stored
    exact (enters _ effect.stored rfl).elim
  | launched _ _ _ effect =>
    rw [effect.accountAfter, Option.some.injEq] at stored
    subst stored
    -- Its handler checks both ends of the window.
    exact ⟨effect.early, .inl effect.late⟩
  | spent _ _ was _ _ effect =>
    rw [effect.accountAfter, Option.some.injEq] at stored
    subst stored
    -- The buy checks the end of it only, and finds the pool launching.
    exact ⟨effect.early, .inr ⟨was, effect.stored, effect.status, rfl⟩⟩
  | repeated _ _ _ effect => exact absurd rfl (enters account (effect.same ▸ stored))
  | settled _ _ _ _ _ _ _ effect =>
    rw [effect.accountAfter, Option.some.injEq] at stored
    subst stored
    simp [Pool.finalized] at status
  | claimed _ _ _ _ _ _ _ effect =>
    rw [effect.accountAfter, Option.some.injEq] at stored
    subst stored
    exact (enters _ effect.stored rfl).elim
  | refunded _ _ _ _ _ effect =>
    rw [effect.accountAfter, Option.some.injEq] at stored
    subst stored
    simp at status
  | marked _ _ effect =>
    rw [effect.accountAfter, Option.some.injEq] at stored
    subst stored
    simp at status
  | closed _ _ effect =>
    rw [effect.accountAfter] at stored
    cases stored
  | endowed _ _ effect => exact absurd rfl (enters account (effect.account ▸ stored))

/-- A step taken on a pool whose times have come keeps to its schedule. -/
theorem Effect.onSchedule (effect : Effect env pool before action after)
    (sound : ∀ account, before.pools pool = some account → account.Sound env pool)
    (inTime : ∀ account, before.pools pool = some account → account.InTime action.now) :
    OnSchedule pool ⟨before, action, after⟩ where
  created := fun _ _ instruction target => effect.created_ahead instruction target
  contributed := fun _ _ instruction target => effect.contributed_early instruction target
  entered := by
    intro account stored status enters
    obtain ⟨early, late⟩ := effect.entered_between stored status enters
    refine ⟨?_, early⟩
    -- The buy finds a launching pool, whose launch has come.
    rcases late with late | ⟨was, live, launching, same⟩
    · exact late
    · exact same ▸ (inTime was live).launched (.inl launching)
  returned := by
    intro returns
    obtain ⟨account, live, late⟩ := effect.returned_late returns
    refine ⟨account, live, ?_⟩
    -- A refundable pool got there after its grace.
    rcases late with refundable | late
    · exact (inTime account live).returned refundable
    · exact late
  debited := by
    intro less
    obtain ⟨account, live, status⟩ := effect.live_of_debited less
    refine ⟨account, live, ?_⟩
    have times := inTime account live
    have grace : account.graceEndsAt ≤ action.now → account.launchAt ≤ action.now :=
      Pool.InTime.launch_of_grace (sound account live)
    -- Whatever the status, the launch has come, and a closed status is never written.
    rcases status with launching | allowed | refundable | finalized | closed
    · exact times.launched (.inl launching)
    · rcases Pool.late_of_refundAllowed allowed with refundable | late
      · exact grace (times.returned refundable)
      · exact grace late
    · exact grace (times.returned refundable)
    · exact times.launched (.inr (.inr finalized))
    · exact absurd closed (sound account live).phase.not_closed

end Step

section Runs

variable {env : Env} {start world : World} {history : List Transition}
variable {creator : Pubkey} {seed : UInt64}

/-- At any time after its history a pool is in time. -/
theorem run_inTime (genesis : Genesis start) (run : Run env start history world) {account : Pool}
    (stored : world.pools (.pool creator seed) = some account) {now : Int64}
    (later : NoneAfter clockOf now.toInt history) : account.InTime now where
  -- What the status waited for is past, and the clock did not go back since.
  launched status := Int64.le_iff_toInt_le.mpr
    ((run_awaited genesis run stored (.launch status)).le later)
  returned status := Int64.le_iff_toInt_le.mpr
    ((run_awaited genesis run stored (.grace status)).le later)

/--
The schedule of every pool, along every run whose clock never goes back.

Each step keeps to it, each reachable status has had its time, and one gate of two is open.
-/
theorem hard_schedule (genesis : Genesis start) (run : Run env start history world)
    (chronological : Chronological clockOf history) (creator : Pubkey) (seed : UInt64) :
    Scheduled env (.pool creator seed) history world where
  steps := by
    intro transition member
    obtain ⟨newer, older, rfl⟩ := List.append_of_mem member
    obtain ⟨before, -, -⟩ := run.split
    -- At the step's own clock, the pool it finds is in time.
    exact (run_effect genesis run creator seed).onSchedule (run_poolInvariant genesis before creator seed).account
      fun account live => run_inTime genesis before live chronological.noneAfter
  reached := fun account stored now later => run_inTime genesis run stored later
  gates := by
    intro account stored launching now
    have unbought : account.status ≠ .Bought := by
      rw [launching]
      decide
    exact {
      exclusive := Pool.gates_exclusive launching now
      buy := fun _ _ minTokensOut checked => completeBuy_gated checked unbought now minTokensOut
      refund := fun _ _ signed loaded record => refund_gated signed loaded record now }

end Runs

/-- The sample launch, its clock running from zero to the claims. -/
theorem hard_schedule_sample :
    Scheduled Sample.env Sample.pool (Sample.past Sample.claimed) (Sample.reach Sample.claimed) :=
  hard_schedule Sample.genesis (Sample.run (by decide +kernel)) (by
    unfold Chronological
    decide +kernel) Sample.creator 7

end Batchit
