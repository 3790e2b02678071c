import Batchit.Properties.Solvency
import Batchit.Protocol.Records

/-! Refunds: they always succeed, pay back exactly what was paid in, and do so once. -/

namespace Batchit

/-- Whether a contributor's record in a pool is there and marked refunded. -/
def World.wasRefunded (world : World) (pool contributor : Pubkey) : Prop :=
  ∃ record, world.stake pool contributor = some record ∧ record.refunded = true

/-- A pool pays refunds once it is refundable, or before its buy once its grace is over. -/
def Pool.PaysRefunds (account : Pool) (now : Int64) : Prop :=
  account.status = .Refundable ∨
    (account.status = .Open ∨ account.status = .Launching) ∧ account.graceEndsAt ≤ now

/-- The program's status gate is exactly that condition. -/
theorem Pool.refundAllowed_iff {account : Pool} {now : Int64} :
    account.refundAllowed now = true ↔ account.PaysRefunds now := by
  -- Status by status, the gate and the condition read the same.
  unfold refundAllowed PaysRefunds
  cases status : account.status <;> simp

/-- The call by which a contributor asks for its refund. -/
def refundCall (pool contributor : Pubkey) (now : Int64) : Action :=
  ⟨now, .refund ⟨contributor, pool, .contribution pool contributor⟩⟩

section Success

variable {env : Env} {creator contributor : Pubkey} {seed : UInt64} {world : World}
variable {account : Pool} {record : Contribution}

/-- Where the invariant holds, a stake in a pool that pays refunds is paid back in full. -/
theorem refund_succeeds {now : Int64} (home : world.RecordsAtHome)
    (invariant : PoolInvariant env (.pool creator seed) world)
    (covered : account.totalContributed.toNat ≤ (world.lamports (.pool creator seed)).toNat)
    (stored : world.pools (.pool creator seed) = some account) (pays : account.PaysRefunds now)
    (stake : world.stake (.pool creator seed) contributor = some record)
    (positive : 0 < record.amount)
    (credit : (world.lamports contributor).toNat + record.amount.toNat < 2 ^ 64) :
    ∃ after, step env world (refundCall (.pool creator seed) contributor now) = .ok after ∧
      (after.lamports contributor).toNat
        = (world.lamports contributor).toNat + record.amount.toNat ∧
      after.wasRefunded (.pool creator seed) contributor := by
  have sound := invariant.account account stored
  have own := invariant.soundRecords stored _ _ stake
  have part := (invariant.backed account stored).stake_le home stake
  have bounded := sound.bounded
  have width := account.maxPoolLamports.toNat_lt
  have allowed := Pool.refundAllowed_iff.mpr pays
  -- A record with lamports in it is a stake, and no pool that refunds has paid a claim.
  have staked := own.staked positive
  have unclaimed : record.claimed = false := by
    cases claimed : record.claimed with
    | false => rfl
    | true => exact absurd (staked.claimed claimed) (Pool.early_of_refundAllowed allowed).2
  obtain ⟨ofPool, ofContributor⟩ := home.stakes _ _ _ stake
  have differ : Pubkey.pool creator seed ≠ contributor :=
    (Pubkey.ne_of_canSign own.signed rfl).symm
  -- Every checked operation of the handler stays inside its range.
  obtain ⟨totalContributed, -, subtracted⟩ :=
    UInt64.checkedSub_of_le (a := account.totalContributed) (b := record.amount) part
  obtain ⟨totalRefunded, -, added⟩ :=
    UInt64.checkedAdd_of_lt (a := account.totalRefunded) (b := record.amount) (by omega)
  -- So the lamports move from the pool to the contributor.
  obtain ⟨paid, edited⟩ : ∃ paid, world.editLamports (.pool creator seed) contributor
      record.amount = .ok paid :=
    (World.moveLamports_succeeds differ).mpr ⟨by omega, credit⟩
  have moved := World.moveLamports_moved differ edited
  refine ⟨_, refund_ok.mpr ⟨account, record, totalContributed, totalRefunded, _, own.signed,
    sound.loads stored,
    loadContribution_ok.mpr ⟨stake, rfl, own.bump, ofPool⟩, allowed, ofContributor,
    staked.unrefunded, unclaimed, positive, subtracted, added, edited, rfl⟩, ?_, ?_⟩
  · simpa using moved.reached
  · exact ⟨{ record with refunded := true, amount := 0 }, by simp [World.stake], rfl⟩

end Success

/-- What a contributor with a stake is owed by a pool that pays refunds, and how it gets it. -/
structure RefundWorks (env : Env) (pool contributor : Pubkey) (history : List Transition)
    (world : World) (now : Int64) : Prop where
  /-- The call succeeds and pays exactly what the contributor paid in. -/
  succeeds : ∃ after, step env world (refundCall pool contributor now) = .ok after ∧
    (after.lamports contributor).toNat
      = (world.lamports contributor).toNat + paidIn pool contributor history
  /-- After it, along every run, no refund or claim of the contributor on the pool succeeds. -/
  once : ∀ after, step env world (refundCall pool contributor now) = .ok after →
    ∀ later final, Run env after later final →
    ∀ clock instruction result, instruction.asksPayTo pool contributor = true →
      step env final ⟨clock, instruction⟩ ≠ .ok result
  /-- Nobody else's step changes the record. -/
  own : ∀ action after, step env world action = .ok after →
    action.instruction.isOwn pool contributor = false →
    after.stake pool contributor = world.stake pool contributor

/-- A pool all of whose contributors were refunded owes nothing and still holds its rent. -/
theorem drained_of_refunded {env : Env} {start world : World} {history : List Transition}
    (genesis : Genesis start) (run : Run env start history world) {pool : Pubkey} {account : Pool}
    (stored : world.pools pool = some account)
    (all : ∀ contributor ∈ depositors pool history, world.wasRefunded pool contributor) :
    account.totalContributed = 0 ∧ account.totalRefunded.toNat = accepted pool history ∧
      (env.minimumBalance Pool.LEN).toNat ≤ (world.lamports pool).toNat := by
  obtain ⟨creator, seed, rfl⟩ := run_poolsAtHome genesis run stored
  have home := run_recordsAtHome genesis run
  have invariant := run_poolInvariant genesis run creator seed
  have ledger := run_ledger genesis run creator seed account stored
  have funded := run_funded genesis run creator seed
  have lamports := funded.lamports
  have exempt := funded.exempt (by rw [stored]; rfl)
  -- Every record holds nothing: a depositor's because it was refunded, a stranger's anyway.
  have nothing : world.owed (.pool creator seed) = 0 := by
    apply World.stakeTotal_eq_zero home
    intro contributor record found
    have booked := ledger.booked contributor
    rw [found] at booked
    have settled : record.PaidBack := by
      rcases (invariant.records _ _ found).state with paidBack | ⟨live, -, staked⟩
      · exact paidBack
      · -- A stake makes its contributor one of this life's, all of whom were refunded.
        obtain ⟨held, same, refunded⟩ :=
          all contributor (booked.staked record rfl staked.unrefunded).1
        rw [found, Option.some.injEq] at same
        rw [← same, staked.unrefunded] at refunded
        cases refunded
    rw [settled.amount]
    rfl
  have total := (invariant.backed account stored).total
  have kept := ledger.accepted
  exact ⟨UInt64.toNat_inj.mp (by rw [total, nothing]; rfl), by omega, by omega⟩

/--
Refunds always work, are exact, and happen once.

The runtime is assumed to accept the credit to each wallet.
-/
theorem refunds_work {env : Env} {start world : World} {history : List Transition}
    (genesis : Genesis start) (run : Run env start history world) {pool : Pubkey} {account : Pool}
    (stored : world.pools pool = some account) {now : Int64} (pays : account.PaysRefunds now) :
    (∀ contributor record, world.stake pool contributor = some record → 0 < record.amount →
      (world.lamports contributor).toNat + record.amount.toNat < 2 ^ 64 →
      RefundWorks env pool contributor history world now) ∧
    ((∀ contributor ∈ depositors pool history, world.wasRefunded pool contributor) →
      account.totalContributed = 0 ∧ account.totalRefunded.toNat = accepted pool history ∧
        (env.minimumBalance Pool.LEN).toNat ≤ (world.lamports pool).toNat) := by
  refine ⟨?_, drained_of_refunded genesis run stored⟩
  intro contributor record stake positive credit
  obtain ⟨creator, seed, rfl⟩ := run_poolsAtHome genesis run stored
  have home := run_recordsAtHome genesis run
  have invariant := run_poolInvariant genesis run creator seed
  have funded := (run_funded genesis run creator seed).lamports
  have allowed := Pool.refundAllowed_iff.mpr pays
  rw [World.escrow_of_stored stored, Pool.escrow_of_refundAllowed allowed] at funded
  -- The account still holds its whole escrow, so it covers the refund.
  obtain ⟨after, taken, paid, refunded⟩ := refund_succeeds home invariant (by omega) stored pays
    stake positive credit
  have booked := (run_ledger genesis run creator seed account stored).booked contributor
  rw [stake] at booked
  -- A record with lamports in it is staked, so it holds what the history says was paid in.
  have unrefunded := ((invariant.soundRecords stored _ _ stake).staked positive).unrefunded
  exact {
    succeeds := ⟨after, taken, by rw [paid, (booked.staked record rfl unrefunded).2.1]⟩
    once := by
      intro other repeated later final continued clock instruction result asks
      -- The refund marks the record, and the mark stays.
      rw [taken, Except.ok.injEq] at repeated
      subst repeated
      obtain ⟨settled, stored, marked⟩ := refunded
      have stays := run_done_stays (step_recordsAtHome home taken) continued stored (.inr marked)
      exact refused_of_done stays (.inr marked) asks
    own := fun action other step own => (step_effect home step).stake_of_other own }

/-- Once its grace is over, the sample raise owes one of its contributors a refund that works. -/
theorem refunds_work_raise :
    RefundWorks Sample.env Sample.pool Sample.alice (Sample.past Sample.raise)
      (Sample.reach Sample.raise) 150 := by
  have live : ((Sample.reach Sample.raise).pools Sample.pool).any (fun account =>
      account.status = .Open ∧ account.graceEndsAt ≤ 150) = true := by decide +kernel
  have staked : ((Sample.reach Sample.raise).stake Sample.pool Sample.alice).any (fun record =>
      0 < record.amount ∧ ((Sample.reach Sample.raise).lamports Sample.alice).toNat
        + record.amount.toNat < 2 ^ 64) = true := by decide +kernel
  obtain ⟨account, stored, late⟩ := (Option.any_eq_true _ _).mp live
  obtain ⟨record, stake, holds⟩ := (Option.any_eq_true _ _).mp staked
  simp only [decide_eq_true_eq] at late holds
  -- The pool is still open, and its grace ended at the time asked for.
  exact (refunds_work Sample.genesis (Sample.run (by decide +kernel)) stored
    (.inr ⟨.inl late.1, late.2⟩)).1 Sample.alice record stake holds.1 holds.2

end Batchit
