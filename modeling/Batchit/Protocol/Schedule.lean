import Batchit.Protocol.Lifecycle

/-! Which time a pool's status waits for, and that the run has reached it. -/

namespace Batchit

open Machine

/-- The clock a step was taken under. -/
def clockOf (transition : Transition) : Int := transition.action.now.toInt

/-- The time before which no pool is found in its status: the launch, or the end of the grace. -/
inductive Pool.Awaits (account : Pool) : Int → Prop where
  | launch
      (status : account.status = .Launching ∨ account.status = .Bought ∨
        account.status = .Finalized) :
      Awaits account account.launchAt.toInt
  | grace (status : account.status = .Refundable) : Awaits account account.graceEndsAt.toInt

section Step

variable {env : Env} {pool : Pubkey} {before after : World} {action : Action} {account : Pool}

/-- An open pool waits for nothing. -/
theorem Pool.not_awaits {due : Int} (isOpen : account.status = .Open) : ¬ account.Awaits due := by
  intro waits
  -- An open pool has neither been launched nor been marked.
  cases waits with
  | launch status => simp [isOpen] at status
  | grace status => simp [isOpen] at status

/-- A pool that pays refunds is past its grace, or was already found to be. -/
theorem Pool.late_of_refundAllowed {now : Int64} (allowed : account.refundAllowed now = true) :
    account.status = .Refundable ∨ account.graceEndsAt ≤ now := by
  -- Only a refundable pool skips the comparison with the clock.
  unfold Pool.refundAllowed at allowed
  split at allowed
  · exact .inl ‹_›
  · exact .inr (by simpa using allowed)
  · exact .inr (by simpa using allowed)
  · cases allowed

/-- What a pool's status waits for was awaited before the step, or is reached by it. -/
theorem Effect.awaits_before {due : Int} (effect : Effect env pool before action after)
    (stored : after.pools pool = some account) (waits : account.Awaits due) :
    (∃ was, before.pools pool = some was ∧ was.Awaits due) ∨ due ≤ action.now.toInt := by
  -- A status is entered in a step whose guard compares the clock with the time awaited.
  cases effect with
  | untouched _ frame => exact .inl ⟨account, frame.account ▸ stored, waits⟩
  | created _ _ _ effect =>
    rw [effect.account, Option.some.injEq] at stored
    subst stored
    exact absurd waits (Pool.not_awaits rfl)
  | contributed _ _ _ _ _ _ effect =>
    rw [effect.accountAfter, Option.some.injEq] at stored
    subst stored
    exact absurd waits (Pool.not_awaits effect.status)
  | launched _ _ was effect =>
    rw [effect.accountAfter, Option.some.injEq] at stored
    subst stored
    -- The launch comes no earlier than its time.
    cases waits with
    | launch _ => exact .inr (Int64.le_iff_toInt_le.mp effect.late)
    | grace status => cases status
  | spent _ _ was _ _ effect =>
    rw [effect.accountAfter, Option.some.injEq] at stored
    subst stored
    -- A launching pool already waited for the same time.
    cases waits with
    | launch _ => exact .inl ⟨was, effect.stored, .launch (.inl effect.status)⟩
    | grace status => cases status
  | repeated _ _ _ effect => exact .inl ⟨account, effect.same ▸ stored, waits⟩
  | settled _ was _ _ _ _ _ effect =>
    rw [effect.accountAfter, Option.some.injEq] at stored
    subst stored
    -- So did a bought one.
    cases waits with
    | launch _ => exact .inl ⟨was, effect.stored, .launch (.inr (.inl effect.status))⟩
    | grace status => cases status
  | claimed _ was _ _ _ _ _ effect =>
    rw [effect.accountAfter, Option.some.injEq] at stored
    subst stored
    have status := effect.status
    cases waits with
    | launch _ => exact .inl ⟨was, effect.stored, .launch (.inr (.inr status))⟩
    | grace returned => exact .inl ⟨was, effect.stored, .grace returned⟩
  | refunded _ was _ _ _ effect =>
    rw [effect.accountAfter, Option.some.injEq] at stored
    subst stored
    cases waits with
    | launch status => simp at status
    | grace _ =>
      -- A refund needs the end of the grace, or a pool that already waited for it.
      rcases Pool.late_of_refundAllowed effect.allowed with returned | late
      · exact .inl ⟨was, effect.stored, .grace returned⟩
      · exact .inr (Int64.le_iff_toInt_le.mp late)
  | marked _ was effect =>
    rw [effect.accountAfter, Option.some.injEq] at stored
    subst stored
    cases waits with
    | launch status => simp at status
    | grace _ => exact .inr (Int64.le_iff_toInt_le.mp effect.late)
  | closed _ _ effect =>
    rw [effect.accountAfter] at stored
    cases stored
  | endowed _ _ effect => exact .inl ⟨account, effect.account ▸ stored, waits⟩

end Step

/-- Every reachable pool has seen the time its status waits for. -/
theorem run_awaited {env : Env} {start world : World} {history : List Transition}
    (genesis : Genesis start) (run : Run env start history world) {creator : Pubkey}
    {seed : UInt64} {account : Pool} (stored : world.pools (.pool creator seed) = some account)
    {due : Int} (waits : account.Awaits due) : Reached clockOf due history := by
  -- Along the run: the time is reached when its status is entered, and stays reached.
  induction run generalizing account with
  | nil =>
    rw [genesis.noPools] at stored
    cases stored
  | @cons past before after action earlier taken ih =>
    have effect : Effect env (.pool creator seed) before action after :=
      step_effect (run_recordsAtHome genesis earlier) taken
    rcases effect.awaits_before stored waits with ⟨was, storedWas, waited⟩ | passed
    · exact (ih storedWas waited).older
    · exact .newest passed

end Batchit
