import Batchit.Properties.Closing

/-! Pools created again at a closed pool's address, and the records that wait for them there. -/

namespace Batchit

open Machine

/-- The call by which a wallet pays lamports into a pool. -/
def contributeCall (pool contributor : Pubkey) (now : Int64) (amount : UInt64) : Action :=
  ⟨now, .contribute ⟨contributor, pool, .contribution pool contributor⟩ amount⟩

/-- Whether a step refunded one wallet from the pool. -/
def repays (pool contributor : Pubkey) (transition : Transition) : Bool :=
  match transition.action.instruction with
  | .refund accounts => accounts.pool = pool ∧ accounts.contributor = contributor
  | _ => false

/-- The lamports a wallet's record in a pool still lacks of its rent. -/
def recordRent (env : Env) (world : World) (pool contributor : Pubkey) : Nat :=
  (env.minimumBalance Contribution.LEN).toNat
    - (world.lamports (.contribution pool contributor)).toNat

/-- What an address never used before asks of a contribution; a newcomer pays for its record too. -/
structure Pool.Welcomes (env : Env) (world : World) (pool contributor : Pubkey) (newcomer : Bool)
    (account : Pool) (now : Int64) (amount : UInt64) : Prop where
  status : account.status = .Open
  early : now < account.launchAt
  positive : 0 < amount
  enough : account.minContributionLamports ≤ amount
  bounded : account.totalContributed.toNat + amount.toNat ≤ account.maxPoolLamports.toNat
  funded : (if newcomer then recordRent env world pool contributor else 0) + amount.toNat
    ≤ (world.lamports contributor).toNat
  /-- The pool account can hold the lamports. -/
  held : (world.lamports pool).toNat + amount.toNat < 2 ^ 64
  /-- The contributors can still be counted. -/
  counted : account.contributorCount.toNat + (if newcomer then 1 else 0) < 2 ^ 32

section Decide

variable {env : Env} {world : World} {pool contributor : Pubkey} {newcomer : Bool}
variable {account : Pool} {now : Int64} {amount : UInt64}

/-- A pool welcomes a contribution when it is open, early, within bounds, and can be paid. -/
theorem Pool.welcomes_iff :
    account.Welcomes env world pool contributor newcomer now amount ↔
      account.status = .Open ∧ now < account.launchAt ∧ 0 < amount ∧
      account.minContributionLamports ≤ amount ∧
      account.totalContributed.toNat + amount.toNat ≤ account.maxPoolLamports.toNat ∧
      (if newcomer then recordRent env world pool contributor else 0) + amount.toNat
        ≤ (world.lamports contributor).toNat ∧
      (world.lamports pool).toNat + amount.toNat < 2 ^ 64 ∧
      account.contributorCount.toNat + (if newcomer then 1 else 0) < 2 ^ 32 := by
  -- The structure is the conjunction of its fields.
  constructor
  · intro welcome
    exact ⟨welcome.status, welcome.early, welcome.positive, welcome.enough, welcome.bounded,
      welcome.funded, welcome.held, welcome.counted⟩
  · intro facts
    obtain ⟨status, early, positive, enough, bounded, funded, held, counted⟩ := facts
    exact ⟨status, early, positive, enough, bounded, funded, held, counted⟩

/-- Each of the conditions is computed. -/
instance : Decidable (account.Welcomes env world pool contributor newcomer now amount) :=
  decidable_of_iff' _ Pool.welcomes_iff

end Decide

/-- Whether a wallet has not contributed in this life of a pool. -/
def isNewcomer (pool contributor : Pubkey) (history : List Transition) : Bool :=
  contributor ∉ depositors pool history

/-- A pool takes one wallet's contribution as it would at an address never used before. -/
structure AsFresh (env : Env) (pool contributor : Pubkey) (history : List Transition)
    (world : World) (account : Pool) (now : Int64) (amount : UInt64) : Prop where
  accepted : (∃ after, step env world (contributeCall pool contributor now amount) = .ok after) ↔
    account.Welcomes env world pool contributor (isNewcomer pool contributor history) now amount
  totals : ∀ after, step env world (contributeCall pool contributor now amount) = .ok after →
    ∃ later, after.pools pool = some later ∧
      later.totalContributed.toNat = account.totalContributed.toNat + amount.toNat ∧
      later.contributorCount.toNat = account.contributorCount.toNat
        + (if isNewcomer pool contributor history then 1 else 0)

/-! ### When a contribution is accepted -/

section Accepted

variable {env : Env} {world opened : World} {creator contributor : Pubkey} {seed : UInt64}
variable {account : Pool} {accounts : ContributeAccounts} {allocated : Contribution}

/-- Allocating a record costs its missing rent, and moves nothing else. -/
theorem initIfNeeded_moved (signed : accounts.contributor.canSign = true)
    (address : accounts.contribution = .contribution accounts.pool accounts.contributor)
    (ready : initIfNeeded env world accounts = .ok (opened, allocated)) :
    (opened.lamports accounts.contributor).toNat
        + (if world.stake accounts.pool accounts.contributor = none then
            recordRent env world accounts.pool accounts.contributor else 0)
      = (world.lamports accounts.contributor).toNat ∧
    ∀ other, other ≠ accounts.contributor → other ≠ accounts.contribution →
      opened.lamports other = world.lamports other := by
  have differ : accounts.contributor ≠ accounts.contribution :=
    Pubkey.ne_of_canSign signed (by rw [address]; rfl)
  have lookup : world.contributions.lookup accounts.contribution
      = world.stake accounts.pool accounts.contributor := by rw [address, World.stake]
  unfold initIfNeeded at ready
  rw [lookup] at ready
  cases stored : world.stake accounts.pool accounts.contributor with
  | none =>
    simp only [stored, bind_eq_ok, pure_eq_ok, Prod.mk.injEq] at ready
    obtain ⟨paid, rented, rfl, -⟩ := ready
    -- The transfer is of the rent the address does not hold yet.
    have moved := World.moveLamports_moved differ rented
    have left := moved.left
    rw [UInt64.toNat_saturatingSub] at left
    refine ⟨?_, moved.others⟩
    rw [if_pos rfl, recordRent, ← address]
    exact left
  | some record =>
    simp only [stored, Except.ok.injEq, Prod.mk.injEq] at ready
    obtain ⟨rfl, -⟩ := ready
    exact ⟨rfl, fun _ _ _ => rfl⟩

/-- A record can be allocated when the wallet covers its missing rent. -/
theorem initIfNeeded_succeeds (signed : accounts.contributor.canSign = true)
    (address : accounts.contribution = .contribution accounts.pool accounts.contributor)
    (covered : (if world.stake accounts.pool accounts.contributor = none then
        recordRent env world accounts.pool accounts.contributor else 0)
      ≤ (world.lamports accounts.contributor).toNat) :
    ∃ opened allocated, initIfNeeded env world accounts = .ok (opened, allocated) := by
  have differ : accounts.contributor ≠ accounts.contribution :=
    Pubkey.ne_of_canSign signed (by rw [address]; rfl)
  have lookup : world.contributions.lookup accounts.contribution
      = world.stake accounts.pool accounts.contributor := by rw [address, World.stake]
  unfold initIfNeeded
  rw [lookup]
  cases stored : world.stake accounts.pool accounts.contributor with
  | none =>
    rw [if_pos stored, recordRent, ← address] at covered
    -- What the address holds and what it lacks make its rent, which is a word.
    have width := (env.minimumBalance Contribution.LEN).toNat_lt
    have held := (world.lamports accounts.contribution).toNat_lt
    obtain ⟨paid, rented⟩ : ∃ paid, payRent env world accounts.contributor accounts.contribution
        Contribution.LEN = .ok paid :=
      (World.moveLamports_succeeds differ).mpr (by
        rw [UInt64.toNat_saturatingSub]
        omega)
    exact ⟨paid, .zeroed, by simp [rented, Bind.bind, Except.bind, Pure.pure, Except.pure]⟩
  | some record => exact ⟨world, record, rfl⟩

/-- In an open pool, the record of a wallet never refunded there takes another contribution. -/
theorem stakeOrNew_open (home : world.RecordsAtHome)
    (invariant : PoolInvariant env (.pool creator seed) world)
    (stored : world.pools (.pool creator seed) = some account) (isOpen : account.status = .Open)
    (unrefunded : ¬ world.wasRefunded (.pool creator seed) contributor) :
    (world.stakeOrNew env ⟨contributor, .pool creator seed,
        .contribution (.pool creator seed) contributor⟩).refunded = false ∧
      (world.stakeOrNew env ⟨contributor, .pool creator seed,
        .contribution (.pool creator seed) contributor⟩).claimed = false ∧
      (world.stakeOrNew env ⟨contributor, .pool creator seed,
        .contribution (.pool creator seed) contributor⟩).amount.toNat
        ≤ account.totalContributed.toNat := by
  unfold World.stakeOrNew
  -- A new record holds nothing, and a stored one is a stake the pool's total covers.
  cases held : world.stake (.pool creator seed) contributor with
  | none => exact ⟨rfl, rfl, Nat.zero_le _⟩
  | some record =>
    rw [Option.getD_some]
    refine ⟨?_, ?_, (invariant.backed account stored).stake_le home held⟩
    · cases marked : record.refunded with
      | false => rfl
      | true => exact absurd ⟨record, held, marked⟩ unrefunded
    · -- Nothing is claimed before finalization.
      exact unclaimed_of_unsettled (invariant.soundRecords stored) (by rw [isOpen]; decide)
        contributor record held

/-- A contribution that is accepted met a fresh pool's conditions, and finds no refunded record. -/
theorem welcomes_of_accepted (home : world.RecordsAtHome)
    (stored : world.pools (.pool creator seed) = some account)
    (signed : contributor.canSign = true) {now : Int64} {amount : UInt64} {after : World}
    (taken : step env world (contributeCall (.pool creator seed) contributor now amount)
      = .ok after) :
    account.Welcomes env world (.pool creator seed) contributor
        (decide (world.stake (.pool creator seed) contributor = none)) now amount ∧
      ¬ world.wasRefunded (.pool creator seed) contributor := by
  obtain ⟨live, opened, allocated, paid, newTotal, total, count, -, loaded, address, ready,
    positive, isOpen, early, enough, added, bounded, transferred, counted, unrefunded, -, -, -⟩ :=
    (contribute_ok home.stakes).mp taken
  have differ : contributor ≠ .pool creator seed := signer_ne_pool signed loaded
  have same := (loadPool_ok.mp loaded).1
  rw [stored, Option.some.injEq] at same
  subst same
  -- The rent and then the amount left the wallet, and the amount reached the pool.
  obtain ⟨rent, others⟩ := initIfNeeded_moved signed address ready
  dsimp only at rent counted
  have moved := World.moveLamports_moved differ transferred
  have left := moved.left
  have reached := moved.reached
  rw [others _ differ.symm (by simp)] at reached
  have width := (paid.lamports (.pool creator seed)).toNat_lt
  have countWidth := count.toNat_lt
  have bounded := UInt64.le_iff_toNat_le.mp bounded
  refine ⟨⟨isOpen, early, positive, enough, by omega, ?_, by omega, ?_⟩, ?_⟩
  · simp only [decide_eq_true_eq]
    omega
  · simp only [decide_eq_true_eq]
    omega
  · -- The record the amount was added to was the wallet's own.
    intro refunded
    obtain ⟨record, held, marked⟩ := refunded
    rw [World.stakeOrNew, held, Option.getD_some, marked] at unrefunded
    cases unrefunded

/-- A contribution that meets a fresh pool's conditions, over no refunded record, is accepted. -/
theorem accepted_of_welcomes (home : world.RecordsAtHome)
    (invariant : PoolInvariant env (.pool creator seed) world)
    (stored : world.pools (.pool creator seed) = some account)
    (signed : contributor.canSign = true) {now : Int64} {amount : UInt64}
    (welcome : account.Welcomes env world (.pool creator seed) contributor
      (decide (world.stake (.pool creator seed) contributor = none)) now amount)
    (unrefunded : ¬ world.wasRefunded (.pool creator seed) contributor) :
    ∃ after, step env world (contributeCall (.pool creator seed) contributor now amount)
      = .ok after := by
  have loaded := (invariant.account account stored).loads stored
  have differ : contributor ≠ .pool creator seed := signer_ne_pool signed loaded
  have funded := welcome.funded
  have counted := welcome.counted
  have bounded := welcome.bounded
  have most := account.maxPoolLamports.toNat_lt
  simp only [decide_eq_true_eq] at funded counted
  obtain ⟨opened, allocated, ready⟩ : ∃ opened allocated, initIfNeeded env world
      ⟨contributor, .pool creator seed, .contribution (.pool creator seed) contributor⟩
      = .ok (opened, allocated) :=
    initIfNeeded_succeeds signed rfl (by dsimp only; omega)
  obtain ⟨rent, others⟩ := initIfNeeded_moved signed rfl ready
  dsimp only at rent others
  -- After the rent the wallet still covers the amount, and the pool has room for it.
  obtain ⟨paid, transferred⟩ : ∃ paid, opened.systemTransfer contributor (.pool creator seed)
      amount = .ok paid := by
    apply (World.moveLamports_succeeds differ).mpr
    rw [others _ differ.symm (by simp)]
    exact ⟨by omega, welcome.held⟩
  obtain ⟨newTotal, -, added⟩ :=
    UInt64.checkedAdd_of_lt (a := account.totalContributed) (b := amount) (by omega)
  obtain ⟨count, counts⟩ : ∃ count : UInt32, count.toNat = account.contributorCount.toNat
      + (if world.stake (.pool creator seed) contributor = none then 1 else 0) :=
    ⟨.ofNat _, UInt32.toNat_ofNat_of_lt' counted⟩
  -- The record is new, or a stake of this life that fits next to the amount.
  have record := stakeOrNew_open home invariant stored welcome.status unrefunded
  obtain ⟨total, -, summed⟩ := UInt64.checkedAdd_of_lt
    (a := (world.stakeOrNew env ⟨contributor, .pool creator seed,
      .contribution (.pool creator seed) contributor⟩).amount) (b := amount) (by omega)
  exact ⟨_, (contribute_ok home.stakes).mpr ⟨account, opened, allocated, paid, newTotal, total,
    count, signed, loaded, rfl, ready, welcome.positive, welcome.status, welcome.early,
    welcome.enough, added, UInt64.le_iff_toNat_le.mpr (by omega), transferred, counts, record.1,
    record.2.1, summed, rfl⟩⟩

/-- A contribution is accepted on a fresh pool's conditions, from a wallet never refunded there. -/
theorem contribute_accepted_iff (home : world.RecordsAtHome)
    (invariant : PoolInvariant env (.pool creator seed) world)
    (stored : world.pools (.pool creator seed) = some account)
    (signed : contributor.canSign = true) (now : Int64) (amount : UInt64) :
    (∃ after, step env world (contributeCall (.pool creator seed) contributor now amount)
        = .ok after) ↔
      account.Welcomes env world (.pool creator seed) contributor
          (decide (world.stake (.pool creator seed) contributor = none)) now amount ∧
        ¬ world.wasRefunded (.pool creator seed) contributor := by
  -- Both directions go through the checks of the handler.
  constructor
  · intro accepted
    obtain ⟨after, taken⟩ := accepted
    exact welcomes_of_accepted home stored signed taken
  · intro conditions
    exact accepted_of_welcomes home invariant stored signed conditions.1 conditions.2

end Accepted

/-! ### Refunds of earlier lives -/

section Repaid

variable {env : Env} {start world : World} {history : List Transition}
variable {creator contributor : Pubkey} {seed : UInt64} {account : Pool}

/-- A step that leaves a wallet's record refunded, as it was not before, refunds the wallet. -/
theorem Effect.repays_of_turn {pool : Pubkey} {before after : World} {action : Action}
    (effect : Effect env pool before action after)
    (unrefunded : ¬ before.wasRefunded pool contributor)
    (refunded : after.wasRefunded pool contributor) :
    repays pool contributor ⟨before, action, after⟩ = true := by
  obtain ⟨record, held, marked⟩ := refunded
  -- Of the wallet's own calls only the refund sets the mark.
  cases effect.on_record contributor with
  | kept same => exact absurd ⟨record, same ▸ held, marked⟩ unrefunded
  | contributed _ _ _ _ _ _ effect =>
    have written := effect.written.record
    rw [held, Option.some.injEq] at written
    subst written
    rw [effect.unrefunded] at marked
    cases marked
  | claimed _ _ _ _ _ _ _ effect =>
    have written := effect.written.record
    rw [held, Option.some.injEq] at written
    subst written
    rw [effect.unrefunded] at marked
    cases marked
  | refunded _ _ _ _ _ effect => simp [repays, effect.instruction, effect.target]

/-- A refund found the pool, and left it refundable and the wallet's record refunded. -/
theorem Effect.refunded_of_repays {pool : Pubkey} {before after : World} {action : Action}
    (effect : Effect env pool before action after)
    (repaying : repays pool contributor ⟨before, action, after⟩ = true) :
    (∃ is, after.pools pool = some is ∧ is.status = .Refundable) ∧
      after.wasRefunded pool contributor := by
  unfold repays at repaying
  split at repaying
  · rename_i accounts instruction
    simp only [decide_eq_true_eq] at repaying
    -- The refund writes the status of the pool and the mark of the record.
    obtain ⟨_, _, _, _, refunded⟩ := effect.refunded_of_call instruction repaying.1
    refine ⟨⟨_, refunded.accountAfter, rfl⟩, ?_⟩
    rw [← repaying.2]
    exact ⟨_, refunded.written.record, rfl⟩
  · cases repaying

/-- A wallet's record is refunded exactly when some step of the history refunded it. -/
theorem run_repaid (genesis : Genesis start) (run : Run env start history world) :
    world.wasRefunded (.pool creator seed) contributor ↔
      ∃ transition ∈ history, repays (.pool creator seed) contributor transition = true := by
  constructor
  · intro refunded
    have unrefunded : ¬ start.wasRefunded (.pool creator seed) contributor := by
      intro marked
      obtain ⟨record, held, -⟩ := marked
      rw [World.stake, genesis.noContributions, AList.lookup_empty] at held
      cases held
    -- Some step set the mark.
    obtain ⟨newer, transition, older, rfl, before, after, -⟩ := run.last_turn
      (fun state => state.wasRefunded (.pool creator seed) contributor) unrefunded refunded
    exact ⟨transition, List.mem_append_right _ List.mem_cons_self,
      (run_effect genesis run creator seed).repays_of_turn before after⟩
  · intro repaid
    obtain ⟨transition, member, repaying⟩ := repaid
    obtain ⟨newer, older, rfl⟩ := List.append_of_mem member
    have effect := run_effect genesis run creator seed
    obtain ⟨begun, taken, continued⟩ := run.split
    have home := run_recordsAtHome genesis begun
    -- A refunded record stays as it is from then on.
    obtain ⟨record, held, marked⟩ := (effect.refunded_of_repays repaying).2
    exact ⟨record, run_done_stays (step_recordsAtHome home taken) continued held (.inr marked),
      marked⟩

/-- In a life without closings, a pool that refunded anyone is refundable. -/
theorem refundable_of_repaid (genesis : Genesis start) (run : Run env start history world)
    (stored : world.pools (.pool creator seed) = some account)
    (kept : ∀ transition ∈ history, closes (.pool creator seed) transition = false)
    (refunded : world.wasRefunded (.pool creator seed) contributor) :
    account.status = .Refundable := by
  obtain ⟨transition, member, repaying⟩ := (run_repaid genesis run).mp refunded
  obtain ⟨newer, older, rfl⟩ := List.append_of_mem member
  obtain ⟨begun, taken, continued⟩ := run.split
  obtain ⟨is, storedIs, returned⟩ :=
    ((run_effect genesis run creator seed).refunded_of_repays repaying).1
  -- The refund left it so, and the rest of the history is one life.
  have life : Life env start (.pool creator seed) (transition :: older) transition.post is newer
      world := ⟨genesis, .cons begun taken, storedIs, continued,
    fun next within => kept next (List.mem_append_left _ within)⟩
  obtain ⟨last, storedLast, continues⟩ := life.continues
  rw [stored, Option.some.injEq] at storedLast
  exact storedLast ▸ continues.leads.refundable returned

end Repaid

/-! ### Fresh again -/

section Fresh

variable {env : Env} {start world : World} {history : List Transition}
variable {creator contributor : Pubkey} {seed : UInt64} {account : Pool}

/-- A wallet never refunded from a pool is a newcomer exactly when it has no record there. -/
theorem isNewcomer_eq (ledger : Ledger (.pool creator seed) history world account)
    (unrefunded : ¬ world.wasRefunded (.pool creator seed) contributor) :
    isNewcomer (.pool creator seed) contributor history
      = decide (world.stake (.pool creator seed) contributor = none) := by
  have booked := ledger.booked contributor
  unfold isNewcomer
  apply decide_eq_decide.mpr
  cases held : world.stake (.pool creator seed) contributor with
  | none => exact iff_of_true (booked.absent held).1 rfl
  | some record =>
    -- A record not refunded is a stake of this life.
    have live : record.refunded = false := by
      cases marked : record.refunded with
      | false => rfl
      | true => exact absurd ⟨record, held, marked⟩ unrefunded
    exact iff_of_false (not_not_intro (booked.staked record held live).1) (by simp)

/-- From a wallet never refunded there, a pool takes contributions as if it were fresh. -/
theorem asFresh_of_unrefunded (genesis : Genesis start) (run : Run env start history world)
    (stored : world.pools (.pool creator seed) = some account)
    (signed : contributor.canSign = true)
    (unrefunded : ¬ world.wasRefunded (.pool creator seed) contributor) (now : Int64)
    (amount : UInt64) :
    AsFresh env (.pool creator seed) contributor history world account now amount := by
  have home := run_recordsAtHome genesis run
  have invariant := run_poolInvariant genesis run creator seed
  have newcomer := isNewcomer_eq (run_ledger genesis run creator seed account stored) unrefunded
  constructor
  · rw [contribute_accepted_iff home invariant stored signed, newcomer]
    exact and_iff_left unrefunded
  · intro after taken
    rw [newcomer]
    have effect : Effect env (.pool creator seed) world
        (contributeCall (.pool creator seed) contributor now amount) after :=
      step_effect home taken
    obtain ⟨_, _, _, _, contributed⟩ := effect.contributed_of_call rfl rfl
    have same := contributed.stored
    rw [stored, Option.some.injEq] at same
    subst same
    -- The effect of the call counts a contributor exactly where it wrote a new record.
    refine ⟨_, contributed.accountAfter, contributed.added, ?_⟩
    simp only [decide_eq_true_eq]
    exact contributed.counted

/--
A pool takes a wallet's contribution as at a fresh address, unless the wallet was refunded there.

A wallet refunded in an earlier life of the address is turned away from whatever a fresh pool would take; in a first life no wallet is.
-/
theorem renewed_asFresh_iff (genesis : Genesis start) (run : Run env start history world)
    (stored : world.pools (.pool creator seed) = some account)
    (signed : contributor.canSign = true) (now : Int64) (amount : UInt64) :
    (AsFresh env (.pool creator seed) contributor history world account now amount ↔
      ¬ ((∃ transition ∈ history, repays (.pool creator seed) contributor transition = true) ∧
        account.Welcomes env world (.pool creator seed) contributor
          (isNewcomer (.pool creator seed) contributor history) now amount)) ∧
    ((∀ transition ∈ history, closes (.pool creator seed) transition = false) →
      AsFresh env (.pool creator seed) contributor history world account now amount) := by
  have home := run_recordsAtHome genesis run
  have invariant := run_poolInvariant genesis run creator seed
  have refused := contribute_accepted_iff home invariant stored signed now amount
  rw [← run_repaid genesis run]
  have whole : AsFresh env (.pool creator seed) contributor history world account now amount ↔
      ¬ (world.wasRefunded (.pool creator seed) contributor ∧
        account.Welcomes env world (.pool creator seed) contributor
          (isNewcomer (.pool creator seed) contributor history) now amount) := by
    by_cases refunded : world.wasRefunded (.pool creator seed) contributor
    · -- The stale record turns every call away, which is fresh only where a fresh pool would.
      constructor
      · intro fresh welcome
        exact (refused.mp (fresh.accepted.mpr welcome.2)).2 refunded
      · intro unwelcome
        constructor
        · exact iff_of_false (fun accepted => (refused.mp accepted).2 refunded)
            fun welcome => unwelcome ⟨refunded, welcome⟩
        · intro after taken
          exact absurd refunded (refused.mp ⟨after, taken⟩).2
    · exact iff_of_true (asFresh_of_unrefunded genesis run stored signed refunded now amount)
        fun both => refunded both.1
  refine ⟨whole, fun kept => whole.mpr fun both => ?_⟩
  -- Without a closing, a pool that has refunded is refundable, and takes nothing from anyone.
  have returned := refundable_of_repaid genesis run stored kept both.1
  rw [both.2.status] at returned
  cases returned

end Fresh

namespace Sample

/-- The sample pool's creator opens it again under the same seed, with later times. -/
def reopening : Action := ⟨170, .createPool ⟨creator, pool, .buyer pool⟩ {
  seed := 7
  launchAt := 300
  graceSecs := 50
  minRaiseLamports := 1000000000
  maxPoolLamports := 10000000000
  minContributionLamports := 100000000 }⟩

/-- The sample raise is given back, and its pool closed and opened again. -/
def renewed : List Action := returned ++ [closing, reopening]

/-- A wallet that took no part in the sample raise. -/
def carol : Pubkey := .key 5

end Sample

/-- The renewed sample pool takes a newcomer's contribution as a fresh pool would. -/
theorem renewed_asFresh_iff_sample : ∃ account,
    (Sample.reach Sample.renewed).pools Sample.pool = some account ∧
      AsFresh Sample.env Sample.pool Sample.carol (Sample.past Sample.renewed)
        (Sample.reach Sample.renewed) account 200 500000000 := by
  have live : ((Sample.reach Sample.renewed).pools Sample.pool).isSome = true := by decide +kernel
  have never : (Sample.past Sample.renewed).any (repays Sample.pool Sample.carol) = false := by
    decide +kernel
  obtain ⟨account, stored⟩ := Option.isSome_iff_exists.mp live
  refine ⟨account, stored, (renewed_asFresh_iff Sample.genesis (Sample.run (by decide +kernel))
    stored (by decide) 200 500000000).1.mpr ?_⟩
  -- Nobody refunded the newcomer.
  intro both
  obtain ⟨⟨transition, member, repaying⟩, -⟩ := both
  have found : (Sample.past Sample.renewed).any (repays Sample.pool Sample.carol) = true :=
    List.any_eq_true.mpr ⟨transition, member, repaying⟩
  rw [found] at never
  cases never

/-- A wallet refunded in the first life of the sample pool is turned away from the second. -/
theorem renewed_turns_away :
    Genesis Sample.start ∧
      Run Sample.env Sample.start (Sample.past Sample.renewed) (Sample.reach Sample.renewed) ∧
      ∃ account, (Sample.reach Sample.renewed).pools Sample.pool = some account ∧
        account.Welcomes Sample.env (Sample.reach Sample.renewed) Sample.pool Sample.alice
          (isNewcomer Sample.pool Sample.alice (Sample.past Sample.renewed)) 200 500000000 ∧
        step Sample.env (Sample.reach Sample.renewed)
            (contributeCall Sample.pool Sample.alice 200 500000000)
          = .error (.batchit .NothingToRefund) ∧
        ¬ AsFresh Sample.env Sample.pool Sample.alice (Sample.past Sample.renewed)
          (Sample.reach Sample.renewed) account 200 500000000 := by
  have live : ((Sample.reach Sample.renewed).pools Sample.pool).any (fun account =>
      account.Welcomes Sample.env (Sample.reach Sample.renewed) Sample.pool Sample.alice
        (isNewcomer Sample.pool Sample.alice (Sample.past Sample.renewed)) 200 500000000)
      = true := by decide +kernel
  obtain ⟨account, stored, welcome⟩ := (Option.any_eq_true _ _).mp live
  have refused : refusal (step Sample.env (Sample.reach Sample.renewed)
      (contributeCall Sample.pool Sample.alice 200 500000000))
      = some (.batchit .NothingToRefund) := by decide +kernel
  have refused := refusal_eq_some.mp refused
  have welcome := of_decide_eq_true welcome
  refine ⟨Sample.genesis, Sample.run (by decide +kernel), account, stored, welcome, refused, ?_⟩
  intro fresh
  -- A fresh pool would have taken it.
  obtain ⟨after, taken⟩ := fresh.accepted.mpr welcome
  rw [refused] at taken
  cases taken

end Batchit
