import Batchit.Properties.Custody
import Batchit.Properties.Refunds

/-! Closing a pool: it is owed to nobody, and its creator gets back rent and donations only. -/

namespace Batchit

/-- What holds of a pool whose creator closes it. -/
structure ClosesClean (env : Env) (start : World) (accounts : ClosePoolAccounts)
    (history : List Transition) (world : World) (account : Pool) (after : World) : Prop where
  status : account.status = .Refundable
  /-- No record of the pool holds anything. -/
  empty : ∀ address record, world.contributions.lookup address = some record →
    record.pool = accounts.pool → record.amount = 0
  /-- Every wallet got back all it paid in. -/
  returned : ∀ contributor,
    paidBack accounts.pool contributor history = paidIn accounts.pool contributor history
  /-- No token was ever bought for it. -/
  tokenless : account.tokensBought = 0 ∧
    ∀ transition ∈ history, buys accounts.pool transition = false
  /-- The creator receives the rent and the donations, and nothing else. -/
  reclaimed : (after.lamports accounts.creator).toNat = (world.lamports accounts.creator).toNat
    + rent accounts.pool history + donated start accounts.pool history
  /-- Had it not been closed, it would never have paid a contributor again in this life. -/
  settled : ∀ later final, Run env world later final →
    (∀ transition ∈ later, closes accounts.pool transition = false) →
    ∀ clock instruction result, instruction.asksPay accounts.pool = true →
    step env final ⟨clock, instruction⟩ ≠ .ok result

section Closing

variable {env : Env} {start : World} {history : List Transition} {world : World}
variable {pool : Pubkey} {account : Pool}

/-- A pool that can be closed never bought, so it is refundable. -/
theorem refundable_of_closable (genesis : Genesis start) (run : Run env start history world)
    (stored : world.pools pool = some account) (empty : account.totalContributed = 0)
    (closable : account.status = .Refundable ∨ account.status = .Finalized ∨
      account.status = .Closed) : account.status = .Refundable := by
  obtain ⟨creator, seed, rfl⟩ := run_poolsAtHome genesis run stored
  have sound := (run_poolInvariant genesis run creator seed).account account stored
  rcases closable with status | status | status
  · exact status
  · -- A finalized pool still counts what it spent, which was more than nothing.
    have positive := sound.spent_positive (.inr status)
    rw [empty, UInt64.toNat_zero] at positive
    omega
  · -- The closed status is never written.
    exact absurd status sound.phase.not_closed

/-- A refundable pool never bought, in this life or an earlier one. -/
theorem unbought_of_refundable (genesis : Genesis start) (run : Run env start history world)
    (stored : world.pools pool = some account) (returned : account.status = .Refundable) :
    ∀ transition ∈ history, buys pool transition = false := by
  intro transition member
  by_contra buying
  rw [Bool.not_eq_false] at buying
  -- Cut the history at the buy.
  obtain ⟨newer, older, cut⟩ := List.append_of_mem member
  rw [cut] at run
  obtain ⟨accounts, minTokensOut, was, credited, fill, spent⟩ :=
    spent_of_recorded genesis run buying
  -- From the buy on the pool would have stayed bought or finalized.
  have still := spent.stays_spent genesis run stored
  rw [returned] at still
  simp at still

/-- An empty refundable pool never pays a contributor again in its life. -/
theorem nothing_to_pay {later : List Transition} {final : World}
    (life : Life env start pool history world account later final)
    (returned : account.status = .Refundable) (empty : account.totalContributed = 0)
    {clock : Int64} {instruction : Instruction} {result : World}
    (asks : instruction.asksPay pool = true) : step env final ⟨clock, instruction⟩ ≠ .ok result := by
  intro taken
  obtain ⟨last, storedLast, continues⟩ := life.continues
  have reached := life.run.append life.continued
  obtain ⟨creator, seed, rfl⟩ := run_poolsAtHome life.genesis reached storedLast
  have home := run_recordsAtHome life.genesis reached
  have status := continues.leads.refundable returned
  have total := continues.returned returned
  rw [empty, UInt64.toNat_zero] at total
  have effect : Effect env (.pool creator seed) final ⟨clock, instruction⟩ result :=
    step_effect home taken
  -- A claim needs a finalized pool, and a refund a stake no larger than the empty total.
  cases instruction with
  | claim accounts =>
    have allowed := effect.allowed storedLast
    simp only [Instruction.asksPay, decide_eq_true_eq] at asks
    simp [Instruction.allowedIn, asks, status] at allowed
  | refund accounts =>
    simp only [Instruction.asksPay, decide_eq_true_eq] at asks
    obtain ⟨live, record, _, _, _, -, loaded, loadedRecord, -, -, -, -, positive, subtracted, -, -,
      -⟩ := refund_ok.mp taken
    obtain ⟨storedLive, -⟩ := loadPool_ok.mp loaded
    rw [asks, storedLast, Option.some.injEq] at storedLive
    subst storedLive
    have positive := UInt64.lt_iff_toNat_lt.mp positive
    rw [UInt64.toNat_zero] at positive
    omega
  | createPool | contribute | beginLaunch | completeBuy | finalize | markRefundable | closePool
  | systemTransfer | token | writeAccount | pumpCreate | pumpTrade => cases asks

/-- A closing closes the pool it names. -/
theorem closed_of_taken (home : world.RecordsAtHome) {accounts : ClosePoolAccounts} {now : Int64}
    {after : World} (taken : step env world ⟨now, .closePool accounts⟩ = .ok after)
    {creator : Pubkey} {seed : UInt64} (derived : accounts.pool = .pool creator seed)
    (stored : world.pools accounts.pool = some account) :
    Closed accounts.pool world ⟨now, .closePool accounts⟩ after accounts account := by
  have effect : Effect env (.pool creator seed) world ⟨now, .closePool accounts⟩ after :=
    step_effect home taken
  rw [← derived] at effect
  obtain ⟨live, closed⟩ := effect.closed_of_call rfl rfl
  -- The account it found is the one that was stored.
  have same := closed.stored
  rw [stored, Option.some.injEq] at same
  exact same ▸ closed

/-- Whenever a pool is closed, its contributors have everything back and its creator takes none. -/
theorem closing_takes_nothing (genesis : Genesis start) (run : Run env start history world)
    {accounts : ClosePoolAccounts} {now : Int64} {after : World}
    (taken : step env world ⟨now, .closePool accounts⟩ = .ok after) :
    ∃ account, world.pools accounts.pool = some account ∧
      ClosesClean env start accounts history world account after := by
  obtain ⟨account, paid, -, loaded, -, closable, empty, -, -⟩ := closePool_ok.mp taken
  obtain ⟨stored, -⟩ := loadPool_ok.mp loaded
  have status := refundable_of_closable genesis run stored empty closable
  have unbought := unbought_of_refundable genesis run stored status
  obtain ⟨creator, seed, derived⟩ := run_poolsAtHome genesis run stored
  have home := run_recordsAtHome genesis run
  have invariant := run_poolInvariant genesis run creator seed
  have ledger := run_ledger genesis run creator seed
  have funded := (run_funded genesis run creator seed).lamports
  have closed := closed_of_taken home taken derived stored
  rw [← derived] at invariant ledger funded
  -- With nothing contributed left, every record of the pool was paid back.
  have paidBack := invariant.paidBack_of_empty home stored empty
  refine ⟨account, stored, ?_⟩
  constructor
  · exact status
  · intro address record found ofPool
    have derived := home address record found
    rw [ofPool] at derived
    subst derived
    exact (paidBack _ record found).amount
  · -- Whoever has no record paid nothing in, and whoever has one was refunded.
    intro contributor
    have booked := (ledger account stored).booked contributor
    cases found : world.stake accounts.pool contributor with
    | none =>
      obtain ⟨-, nothingIn, nothingOut⟩ := booked.absent found
      rw [nothingIn, nothingOut]
    | some record => exact booked.settled record found (paidBack _ record found).refunded
  · have unspent := (invariant.account account stored).phase.unspent (by simp [status])
    exact ⟨unspent.tokensBought, unbought⟩
  · -- The whole balance goes to the creator, and no escrow is part of it.
    have reclaimed := closed.reclaimed
    rw [World.escrow_of_stored stored] at funded
    simp only [Pool.escrow, status, empty, UInt64.toNat_zero] at funded
    omega
  · intro later final continued kept clock instruction result asks
    have life : Life env start accounts.pool history world account later final :=
      ⟨genesis, run, stored, continued, kept⟩
    exact nothing_to_pay life status empty asks

end Closing

namespace Sample

/-- The sample raise, given back to both of its contributors once its grace is over. -/
def returned : List Action :=
  raise ++ [⟨150, .refund ⟨alice, pool, .contribution pool alice⟩⟩,
    ⟨155, .refund ⟨bob, pool, .contribution pool bob⟩⟩]

/-- The sample creator closes its pool. -/
def closing : Action := ⟨160, .closePool ⟨creator, pool⟩⟩

end Sample

/-- The sample pool, its contributors refunded, is closed, and takes nothing of theirs. -/
theorem closing_takes_nothing_sample : ∃ account after,
    step Sample.env (Sample.reach Sample.returned) Sample.closing = .ok after ∧
      ClosesClean Sample.env Sample.start ⟨Sample.creator, Sample.pool⟩
        (Sample.past Sample.returned) (Sample.reach Sample.returned) account after := by
  have closes : (step Sample.env (Sample.reach Sample.returned) Sample.closing).isOk = true := by
    decide +kernel
  -- Whatever state the closing leaves, it is the one the theorem is about.
  cases taken : step Sample.env (Sample.reach Sample.returned) Sample.closing with
  | error refusal => simp [taken, Except.isOk, Except.toBool] at closes
  | ok after =>
    obtain ⟨account, -, clean⟩ :=
      closing_takes_nothing Sample.genesis (Sample.run (by decide +kernel)) taken
    exact ⟨account, after, rfl, clean⟩

end Batchit
