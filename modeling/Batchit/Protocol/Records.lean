import Batchit.Protocol.Inversion

/-! Who writes a contribution record, and which records no instruction can use again. -/

namespace Batchit

/-- Whether an instruction is a contributor's own call on its record in a pool. -/
def Instruction.isOwn (pool contributor : Pubkey) : Instruction → Bool
  | .contribute accounts _ => accounts.pool = pool ∧ accounts.contributor = contributor
  | .claim accounts => accounts.pool = pool ∧ accounts.contributor = contributor
  | .refund accounts => accounts.pool = pool ∧ accounts.contributor = contributor
  | _ => false

/-- Whether an instruction asks a pool to pay one of its contributors. -/
def Instruction.asksPay (pool : Pubkey) : Instruction → Bool
  | .refund accounts => accounts.pool = pool
  | .claim accounts => accounts.pool = pool
  | _ => false

/-- Whether an instruction asks a pool to pay the given contributor. -/
def Instruction.asksPayTo (pool contributor : Pubkey) : Instruction → Bool
  | .refund accounts => accounts.pool = pool ∧ accounts.contributor = contributor
  | .claim accounts => accounts.pool = pool ∧ accounts.contributor = contributor
  | _ => false

/-- A record that was claimed or refunded, which no instruction can use again. -/
def Contribution.Done (record : Contribution) : Prop :=
  record.claimed = true ∨ record.refunded = true

/-- What a step does to one contributor's record: nothing, or what one of its own calls does. -/
inductive RecordEffect (env : Env) (pool : Pubkey) (before : World) (action : Action)
    (after : World) : Pubkey → Prop where
  | kept {contributor : Pubkey}
      (same : after.stake pool contributor = before.stake pool contributor) :
      RecordEffect env pool before action after contributor
  | contributed (accounts : ContributeAccounts) (amount : UInt64) (account : Pool)
      (newTotal total : UInt64) (count : UInt32)
      (effect : Contributed env pool before action after accounts amount account newTotal total
        count) :
      RecordEffect env pool before action after accounts.contributor
  | claimed (accounts : ClaimAccounts) (account : Pool) (record : Contribution)
      (vaultAta contributorAta : TokenAccount) (share totalClaimed : UInt64)
      (effect : Claimed env pool before action after accounts account record vaultAta
        contributorAta share totalClaimed) :
      RecordEffect env pool before action after accounts.contributor
  | refunded (accounts : RefundAccounts) (account : Pool) (record : Contribution)
      (totalContributed totalRefunded : UInt64)
      (effect : Refunded pool before action after accounts account record totalContributed
        totalRefunded) :
      RecordEffect env pool before action after accounts.contributor

section Records

variable {env : Env} {pool contributor : Pubkey} {before after : World} {action : Action}
variable {record : Contribution}

/-- Every step leaves a contributor's record alone, but for its own three calls. -/
theorem Effect.on_record (effect : Effect env pool before action after) (contributor : Pubkey) :
    RecordEffect env pool before action after contributor := by
  -- Three effects write a record, each the one of the contributor who called.
  cases effect with
  | untouched _ frame => exact .kept (frame.stakes contributor)
  | created _ _ _ effect => exact .kept (effect.records.stakes contributor)
  | contributed accounts _ _ _ _ _ effect =>
    by_cases same : contributor = accounts.contributor
    · exact same ▸ .contributed _ _ _ _ _ _ effect
    · exact .kept (effect.written.others contributor same)
  | launched _ _ _ effect => exact .kept (by rw [effect.frame]; rfl)
  | spent _ _ _ _ _ effect => exact .kept (effect.records.stakes contributor)
  | repeated _ _ _ effect => exact .kept (by rw [effect.same])
  | settled _ _ _ _ _ _ _ effect => exact .kept (by rw [effect.frame]; rfl)
  | claimed accounts _ _ _ _ _ _ effect =>
    by_cases same : contributor = accounts.contributor
    · exact same ▸ .claimed _ _ _ _ _ _ _ effect
    · exact .kept (effect.written.others contributor same)
  | refunded accounts _ _ _ _ effect =>
    by_cases same : contributor = accounts.contributor
    · exact same ▸ .refunded _ _ _ _ _ effect
    · exact .kept (effect.written.others contributor same)
  | marked _ _ effect => exact .kept (by rw [effect.frame]; rfl)
  | closed _ _ effect => exact .kept (effect.records.stakes contributor)
  | endowed _ _ effect => exact .kept (effect.records.stakes contributor)

/-- Only a contributor's own calls write its record. -/
theorem Effect.stake_of_other (effect : Effect env pool before action after)
    (other : action.instruction.isOwn pool contributor = false) :
    after.stake pool contributor = before.stake pool contributor := by
  -- Each of the three calls that write the record is its contributor's own.
  cases effect.on_record contributor with
  | kept same => exact same
  | contributed _ _ _ _ _ _ effect =>
    simp [effect.instruction, Instruction.isOwn, effect.target] at other
  | claimed _ _ _ _ _ _ _ effect =>
    simp [effect.instruction, Instruction.isOwn, effect.target] at other
  | refunded _ _ _ _ _ effect =>
    simp [effect.instruction, Instruction.isOwn, effect.target] at other

/-- A record neither claimed nor refunded is not done. -/
theorem Contribution.not_done (unclaimed : record.claimed = false)
    (unrefunded : record.refunded = false) : ¬ record.Done := by
  intro done
  -- Either mark contradicts the one it is.
  rcases done with claimed | refunded
  · rw [unclaimed] at claimed
    cases claimed
  · rw [unrefunded] at refunded
    cases refunded

/-- A record that is done stays as it is, whatever happens to the pool. -/
theorem Effect.done_stays (effect : Effect env pool before action after)
    (stored : before.stake pool contributor = some record) (done : record.Done) :
    after.stake pool contributor = some record := by
  -- Its contributor's three calls are each accepted only on a record that is not done.
  cases effect.on_record contributor with
  | kept same => exact same.trans stored
  | contributed _ _ _ _ _ _ effect =>
    have unrefunded := effect.unrefunded
    have unclaimed := effect.unclaimed
    rw [World.stakeOrNew, effect.target, stored, Option.getD_some] at unrefunded unclaimed
    exact absurd done (Contribution.not_done unclaimed unrefunded)
  | claimed _ _ _ _ _ _ _ effect =>
    have stake := effect.stake
    rw [stored, Option.some.injEq] at stake
    subst stake
    exact absurd done (Contribution.not_done effect.unclaimed effect.unrefunded)
  | refunded _ _ _ _ _ effect =>
    have stake := effect.stake
    rw [stored, Option.some.injEq] at stake
    subst stake
    exact absurd done (Contribution.not_done effect.unclaimed effect.unrefunded)

end Records

/-- A record that is done stays as it is along every run. -/
theorem run_done_stays {env : Env} {middle world : World} {history : List Transition}
    {creator contributor : Pubkey} {seed : UInt64} {record : Contribution}
    (home : middle.RecordsAtHome) (run : Run env middle history world)
    (stored : middle.stake (.pool creator seed) contributor = some record) (done : record.Done) :
    world.stake (.pool creator seed) contributor = some record := by
  -- Records must lie at their own addresses for a step's effect to be known, so carry both.
  have both : world.RecordsAtHome ∧ world.stake (.pool creator seed) contributor = some record := by
    induction run with
    | nil => exact ⟨home, stored⟩
    | cons _ taken ih =>
      exact ⟨step_recordsAtHome ih.1 taken, (step_effect ih.1 taken).done_stays ih.2 done⟩
  exact both.2

/-- Neither a refund nor a claim succeeds on a record that is done. -/
theorem refused_of_done {env : Env} {world after : World} {now : Int64}
    {pool contributor : Pubkey} {record : Contribution} {instruction : Instruction}
    (stored : world.stake pool contributor = some record) (done : record.Done)
    (asks : instruction.asksPayTo pool contributor = true) :
    step env world ⟨now, instruction⟩ ≠ .ok after := by
  intro taken
  -- Both instructions load the record and require both of its marks to be unset.
  cases instruction with
  | refund accounts =>
    simp only [Instruction.asksPayTo, decide_eq_true_eq] at asks
    obtain ⟨_, held, _, _, _, -, -, loaded, -, -, unrefunded, unclaimed, -⟩ := refund_ok.mp taken
    have same := (loadContribution_ok.mp loaded).1
    rw [asks.1, asks.2, stored, Option.some.injEq] at same
    exact Contribution.not_done unclaimed unrefunded (same ▸ done)
  | claim accounts =>
    simp only [Instruction.asksPayTo, decide_eq_true_eq] at asks
    obtain ⟨_, held, _, _, _, _, _, checked, -, -, unclaimed, unrefunded, -⟩ := claim_ok.mp taken
    have same := (loadContribution_ok.mp checked.record).1
    rw [asks.1, asks.2, stored, Option.some.injEq] at same
    exact Contribution.not_done unclaimed unrefunded (same ▸ done)
  | createPool | contribute | beginLaunch | completeBuy | finalize | markRefundable | closePool
  | systemTransfer | token | writeAccount | pumpCreate | pumpTrade => cases asks

end Batchit
