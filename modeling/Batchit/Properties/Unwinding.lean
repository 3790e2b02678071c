import Batchit.Properties.Payouts
import Batchit.Properties.Reclaiming

/-! Unwinding a pool: whoever is still owed is paid back, in any order, and the account is freed. -/

namespace Batchit

open World

/-- What a wallet still has in a pool. -/
def World.staked (world : World) (pool wallet : Pubkey) : Nat :=
  (world.stake pool wallet).elim 0 fun record => record.amount.toNat

/-- The wallets that still have something in a pool. -/
def World.stakeholders (world : World) (pool : Pubkey) : List Pubkey :=
  ((world.contributions.entries.map (·.2)).filter fun record =>
    record.pool = pool ∧ 0 < record.amount).map (·.contributor) |>.dedup

/-- The call by which anyone marks a pool refundable. -/
def markCall (caller pool : Pubkey) (now : Int64) : Action := ⟨now, .markRefundable ⟨caller, pool⟩⟩

/-- Mark the pool unless it is marked, pay every wallet back in turn, and close it. -/
def unwinding (pool : Pubkey) (account : Pool) (caller : Pubkey) (order : List Pubkey)
    (now : Int64) : List Action :=
  (if account.status = .Refundable then [] else [markCall caller pool now])
    ++ (order.map (refundCall pool · now) ++ [closeCall pool account.creator now])

/-- A wallet has something in a pool when its record there holds something. -/
theorem staked_pos {world : World} {pool wallet : Pubkey} :
    0 < world.staked pool wallet ↔
      ∃ record, world.stake pool wallet = some record ∧ 0 < record.amount := by
  unfold staked
  cases world.stake pool wallet <;> simp [UInt64.lt_iff_toNat_lt]

/-- The wallets with something in a pool are those the enumeration lists. -/
theorem mem_stakeholders {world : World} (home : world.RecordsAtHome) {pool wallet : Pubkey} :
    wallet ∈ world.stakeholders pool ↔ 0 < world.staked pool wallet := by
  rw [staked_pos]
  simp only [stakeholders, List.mem_dedup, List.mem_map, List.mem_filter, decide_eq_true_eq]
  constructor
  · intro listed
    obtain ⟨record, ⟨⟨entry, member, rfl⟩, rfl, positive⟩, rfl⟩ := listed
    have stored := AList.mem_lookup_iff.mpr member
    -- A record is stored for the contributor and the pool it names.
    rw [home _ _ stored] at stored
    exact ⟨entry.2, stored, positive⟩
  · intro holds
    obtain ⟨record, stored, positive⟩ := holds
    obtain ⟨ofPool, ofContributor⟩ := home.stakes _ _ _ stored
    exact ⟨record, ⟨⟨_, AList.mem_lookup_iff.mp stored, rfl⟩, ofPool, positive⟩, ofContributor⟩

section Unwinding

variable {env : Env} {start world : World} {history : List Transition} {pool : Pubkey}
variable {account : Pool} {now : Int64}

/-- A refund pays its wallet what it had in the pool, and leaves every other wallet alone. -/
theorem refund_unwinds (genesis : Genesis start) (run : Run env start history world)
    (stored : world.pools pool = some account) (returned : account.status = .Refundable)
    {wallet : Pubkey} {record : Contribution} (stake : world.stake pool wallet = some record)
    (positive : 0 < record.amount)
    (room : (world.lamports wallet).toNat + record.amount.toNat < 2 ^ 64) (now : Int64) :
    ∃ after, step env world (refundCall pool wallet now) = .ok after ∧
      after.pools pool = some (account.repaid record.amount) ∧
      (∀ other, after.staked pool other = if other = wallet then 0 else world.staked pool other) ∧
      (after.lamports pool).toNat + record.amount.toNat = (world.lamports pool).toNat ∧
      (account.repaid record.amount).totalContributed.toNat + record.amount.toNat
        = account.totalContributed.toNat ∧
      ∀ other, other ≠ pool → (after.lamports other).toNat
        = (world.lamports other).toNat + if other = wallet then record.amount.toNat else 0 := by
  obtain ⟨creator, seed, rfl⟩ := run_poolsAtHome genesis run stored
  have home := run_recordsAtHome genesis run
  have funded := (run_funded genesis run creator seed).lamports
  rw [World.escrow_of_stored stored] at funded
  simp only [Pool.escrow, returned] at funded
  obtain ⟨after, taken, -⟩ := refund_succeeds home (run_poolInvariant genesis run creator seed)
    (by omega) stored (.inl returned) stake positive room
  obtain ⟨loaded, held, ready, rfl⟩ := refund_iff.mp taken
  -- What it loaded is what was stored.
  have sameAccount := (loadPool_ok.mp ready.loaded).1
  have sameRecord := (loadContribution_ok.mp ready.recorded).1
  rw [stored, Option.some.injEq] at sameAccount
  rw [stake, Option.some.injEq] at sameRecord
  subst sameAccount sameRecord
  have differ := signer_ne_pool ready.signed ready.loaded
  refine ⟨_, taken, by rw [repaid_pools, if_pos rfl], ?_, ?_,
    UInt64.toNat_sub_add_cancel ready.total, ?_⟩
  · intro other
    simp only [staked, World.stake, repaid_lookup, Pubkey.contribution.injEq, true_and]
    split <;> rfl
  · rw [repaid_lamports, if_neg differ.symm, if_pos rfl]
    exact UInt64.toNat_sub_add_cancel ready.funded
  · intro other away
    rw [repaid_lamports, if_neg away]
    split
    · rename_i same
      rw [same]
      exact UInt64.toNat_add_of_fits room
    · rfl

/-- What is left of a refundable pool once everyone was paid back. -/
structure PaidBack (env : Env) (start : World) (pool : Pubkey) (account : Pool) (world : World)
    (emptied : Pool) (history : List Transition) (final : World) : Prop where
  run : Run env start history final
  stored : final.pools pool = some emptied
  returned : emptied.status = .Refundable
  creator : emptied.creator = account.creator
  unstaked : ∀ wallet, final.staked pool wallet = 0
  lamports : (final.lamports pool).toNat + account.totalContributed.toNat
    = (world.lamports pool).toNat + emptied.totalContributed.toNat
  repaid : ∀ wallet, wallet ≠ pool →
    (final.lamports wallet).toNat = (world.lamports wallet).toNat + world.staked pool wallet

/-- Whoever has something in a pool is a wallet, and so not the pool. -/
theorem ne_pool_of_staked (genesis : Genesis start) (run : Run env start history world)
    (stored : world.pools pool = some account) {wallet : Pubkey}
    (positive : 0 < world.staked pool wallet) : wallet ≠ pool := by
  obtain ⟨creator, seed, rfl⟩ := run_poolsAtHome genesis run stored
  obtain ⟨record, stake, -⟩ := staked_pos.mp positive
  -- Whoever has a stake has signed for it, which no pool does.
  have own := (run_poolInvariant genesis run creator seed).soundRecords stored _ _ stake
  exact Pubkey.ne_of_canSign own.signed rfl

/-- Everyone with something in a refundable pool is paid back, in whatever order they ask. -/
theorem refunds_unwind (genesis : Genesis start) (run : Run env start history world)
    (stored : world.pools pool = some account) (returned : account.status = .Refundable)
    {order : List Pubkey} (once : order.Nodup)
    (complete : ∀ wallet, wallet ∈ order ↔ 0 < world.staked pool wallet)
    (room : ∀ wallet ∈ order,
      (world.lamports wallet).toNat + world.staked pool wallet < 2 ^ 64) (now : Int64) :
    ∃ final emptied later,
      Machine.exec (step env) world (order.map (refundCall pool · now)) = .ok final ∧
      PaidBack env start pool account world emptied later final := by
  induction order generalizing world history account with
  | nil =>
    -- Nobody is left, so every stake is zero.
    have nothing (wallet : Pubkey) : world.staked pool wallet = 0 := by
      apply Nat.eq_zero_of_not_pos
      intro positive
      exact List.not_mem_nil ((complete wallet).mpr positive)
    exact ⟨world, account, history, rfl, run, stored, returned, rfl, nothing, rfl,
      fun wallet _ => by rw [nothing, Nat.add_zero]⟩
  | cons wallet rest ih =>
    obtain ⟨fresh, onceRest⟩ := List.nodup_cons.mp once
    obtain ⟨record, stake, positive⟩ := staked_pos.mp ((complete wallet).mp List.mem_cons_self)
    have held : world.staked pool wallet = record.amount.toNat := by rw [staked, stake]; rfl
    have credit := room wallet List.mem_cons_self
    rw [held] at credit
    obtain ⟨after, taken, storedAfter, stakedAfter, poolLeft, totalLeft, paid⟩ :=
      refund_unwinds genesis run stored returned stake positive credit now
    -- The others have what they had, and are those left to pay.
    have completeAfter (other : Pubkey) : other ∈ rest ↔ 0 < after.staked pool other := by
      have listed := complete other
      rw [List.mem_cons] at listed
      rw [stakedAfter]
      split
      · rename_i same
        rw [same]
        exact iff_of_false fresh (Nat.lt_irrefl 0)
      · rename_i away
        simpa [away] using listed
    have roomAfter : ∀ other ∈ rest,
        (after.lamports other).toNat + after.staked pool other < 2 ^ 64 := by
      intro other member
      have away : other ≠ wallet := fun same => fresh (same ▸ member)
      have others := ne_pool_of_staked genesis run stored
        ((complete other).mp (.tail _ member))
      rw [paid other others, stakedAfter, if_neg away, if_neg away]
      exact room other (.tail _ member)
    obtain ⟨final, emptied, later, executed, back⟩ :=
      ih (run.cons taken) storedAfter rfl onceRest completeAfter roomAfter
    refine ⟨final, emptied, later, ?_, ?_⟩
    · simp only [List.map_cons, Machine.exec, taken]
      exact executed
    · constructor
      case run => exact back.run
      case stored => exact back.stored
      case returned => exact back.returned
      case creator => exact back.creator
      case unstaked => exact back.unstaked
      case lamports =>
        have lamports := back.lamports
        omega
      case repaid =>
        intro other away
        rw [back.repaid other away, paid other away, stakedAfter]
        split
        · rename_i same
          rw [same, held, Nat.add_zero]
        · rfl

/-- What everybody is owed when a refundable pool is unwound: their stakes, and the creator the rest. -/
def due (start : World) (history : List Transition) (world : World) (pool : Pubkey)
    (account : Pool) (wallet : Pubkey) : Nat :=
  world.staked pool wallet
    + if wallet = account.creator then rent pool history + donated start pool history else 0

/-- A pool paid back in full holds only its rent and donations, and counts nothing as contributed. -/
theorem PaidBack.emptied {emptied : Pool} {later : List Transition} {final : World}
    (genesis : Genesis start) (run : Run env start history world)
    (stored : world.pools pool = some account) (returned : account.status = .Refundable)
    (back : PaidBack env start pool account world emptied later final) :
    emptied.totalContributed = 0 ∧
      (final.lamports pool).toNat = rent pool history + donated start pool history := by
  obtain ⟨creator, seed, rfl⟩ := run_poolsAtHome genesis run stored
  have funded := (run_funded genesis run creator seed).lamports
  rw [World.escrow_of_stored stored] at funded
  simp only [Pool.escrow, returned] at funded
  -- What is contributed is backed by the stakes, all of them zero.
  have nothing : final.owed (.pool creator seed) = 0 := by
    apply World.stakeTotal_eq_zero (run_recordsAtHome genesis back.run)
    intro contributor record found
    have unstaked := back.unstaked contributor
    rw [staked, found] at unstaked
    exact unstaked
  have total := ((run_poolInvariant genesis back.run creator seed).backed _ back.stored).total
  have lamports := back.lamports
  exact ⟨UInt64.toNat_inj.mp (by rw [total, nothing]; rfl), by omega⟩

/-- A refundable pool is unwound by refunds in any order and a closing, each of which succeeds. -/
theorem unwinds_refundable (genesis : Genesis start) (run : Run env start history world)
    (stored : world.pools pool = some account) (returned : account.status = .Refundable)
    {order : List Pubkey} (complete : order.Perm (world.stakeholders pool))
    (room : ∀ wallet ∈ account.creator :: order, (world.lamports wallet).toNat
      + due start history world pool account wallet < 2 ^ 64) (now : Int64) :
    ∃ final, Machine.exec (step env) world (order.map (refundCall pool · now)
        ++ [closeCall pool account.creator now]) = .ok final ∧
      final.pools pool = none ∧ final.lamports pool = 0 ∧
      ∀ wallet, wallet ≠ pool → (final.lamports wallet).toNat = (world.lamports wallet).toNat
        + due start history world pool account wallet := by
  have home := run_recordsAtHome genesis run
  have roomFor : ∀ wallet ∈ order,
      (world.lamports wallet).toNat + world.staked pool wallet < 2 ^ 64 := by
    intro wallet member
    have fits := room wallet (.tail _ member)
    unfold due at fits
    omega
  obtain ⟨paidBack, emptied, later, executed, back⟩ :=
    refunds_unwind genesis run stored returned (complete.nodup_iff.mpr (List.nodup_dedup _))
      (fun wallet => complete.mem_iff.trans (mem_stakeholders home)) roomFor now
  obtain ⟨empty, left⟩ := back.emptied genesis run stored returned
  obtain ⟨creator, seed, rfl⟩ := run_poolsAtHome genesis run stored
  have sound := (run_poolInvariant genesis back.run creator seed).account emptied back.stored
  have loaded := sound.loads back.stored
  have away := signer_ne_pool sound.signed loaded
  have credited := back.repaid emptied.creator away
  have fits := room account.creator List.mem_cons_self
  rw [← back.creator] at fits ⊢
  unfold due at fits
  rw [if_pos back.creator] at fits
  -- What the account still holds goes to the creator, and the account is freed.
  obtain ⟨paid, transferred⟩ : ∃ paid, paidBack.systemTransfer (.pool creator seed) emptied.creator
      (paidBack.lamports (.pool creator seed)) = .ok paid :=
    (World.moveLamports_succeeds away.symm).mpr ⟨Nat.le_refl _, by omega⟩
  have moved := World.moveLamports_moved away.symm transferred
  have closed : step env paidBack (closeCall (.pool creator seed) emptied.creator now)
      = .ok (paid.setPool (.pool creator seed) none) :=
    closePool_ok.mpr ⟨emptied, paid, sound.signed, loaded, rfl, .inl back.returned, empty,
      transferred, rfl⟩
  refine ⟨paid.setPool (.pool creator seed) none, ?_, ?_, ?_, ?_⟩
  · rw [Machine.exec_append executed]
    simp only [Machine.exec, closed]
  · rw [World.setPool_pools, Function.update_self]
  · have drained := moved.left
    exact UInt64.toNat_inj.mp (by rw [World.setPool_lamports, UInt64.toNat_zero]; omega)
  · intro wallet notPool
    have repaid := back.repaid wallet notPool
    have reached := moved.reached
    rw [World.setPool_lamports]
    unfold due
    rw [← back.creator]
    split
    · rename_i own
      rw [own] at repaid ⊢
      omega
    · rename_i other
      rw [moved.others wallet notPool other]
      omega

/-- The state in which a pool has been marked refundable, nothing else being different. -/
def World.marked (world : World) (pool : Pubkey) (account : Pool) : World :=
  world.setPool pool (some { account with status := .Refundable })

/-- Marking a pool leaves everybody what they were owed. -/
theorem due_marked {caller wallet : Pubkey} :
    due start (⟨world, markCall caller pool now, world.marked pool account⟩ :: history)
        (world.marked pool account) pool { account with status := .Refundable } wallet
      = due start history world pool account wallet := by
  let marking : Transition := ⟨world, markCall caller pool now, world.marked pool account⟩
  -- A mark moves no lamports.
  have kept : rent pool (marking :: history) = rent pool history ∧
      donated start pool (marking :: history) = donated start pool history := funds_of_keeps rfl
  rw [due, due, kept.1, kept.2]
  rfl

/--
A pool that pays refunds can be unwound, in whatever order its contributors ask.

Every call succeeds, every stake is paid back, the creator gets the rest, and the account is gone.
The runtime is assumed to accept the credit to each wallet.
-/
theorem pool_unwinds (genesis : Genesis start) (run : Run env start history world)
    (stored : world.pools pool = some account) (pays : account.PaysRefunds now)
    {caller : Pubkey} (signed : caller.canSign = true) {order : List Pubkey}
    (complete : order.Perm (world.stakeholders pool))
    (room : ∀ wallet ∈ account.creator :: order, (world.lamports wallet).toNat
      + due start history world pool account wallet < 2 ^ 64) :
    ∃ final, Machine.exec (step env) world (unwinding pool account caller order now) = .ok final ∧
      final.pools pool = none ∧ final.lamports pool = 0 ∧
      ∀ wallet, wallet ≠ pool → (final.lamports wallet).toNat = (world.lamports wallet).toNat
        + due start history world pool account wallet := by
  unfold unwinding
  split
  · rename_i returned
    exact unwinds_refundable genesis run stored returned complete room now
  · rename_i unmarked
    obtain ⟨early, late⟩ := pays.resolve_left unmarked
    obtain ⟨creator, seed, rfl⟩ := run_poolsAtHome genesis run stored
    have sound := (run_poolInvariant genesis run creator seed).account account stored
    -- The mark changes the status and nothing else.
    have marked : step env world (markCall caller (.pool creator seed) now)
        = .ok (world.marked (.pool creator seed) account) :=
      markRefundable_ok.mpr ⟨account, signed, sound.loads stored, late, early.symm, rfl⟩
    have stored : (world.marked (.pool creator seed) account).pools (.pool creator seed)
        = some { account with status := .Refundable } := by
      rw [World.marked, World.setPool_pools, Function.update_self]
    have continued := run.cons marked
    obtain ⟨final, executed, freed, drained, reached⟩ :=
      unwinds_refundable genesis continued stored rfl complete (by
        intro wallet member
        rw [due_marked]
        exact room wallet member) now
    refine ⟨final, ?_, freed, drained, ?_⟩
    · simp only [List.singleton_append, Machine.exec, marked]
      exact executed
    · intro wallet notPool
      rw [reached wallet notPool, due_marked]
      rfl

end Unwinding

/-- The sample raise is unwound after its grace by paying back either contributor first. -/
theorem pool_unwinds_sample : ∃ account final,
    Machine.exec (step Sample.env) (Sample.reach Sample.raise)
      (unwinding Sample.pool account Sample.bob [Sample.bob, Sample.alice] 150) = .ok final ∧
    final.pools Sample.pool = none ∧ final.lamports Sample.pool = 0 ∧
    ∀ wallet, wallet ≠ Sample.pool → (final.lamports wallet).toNat
      = ((Sample.reach Sample.raise).lamports wallet).toNat + due Sample.start
        (Sample.past Sample.raise) (Sample.reach Sample.raise) Sample.pool account wallet := by
  have live : ((Sample.reach Sample.raise).pools Sample.pool).any (fun account =>
      (account.status = .Open ∧ account.graceEndsAt ≤ 150) ∧
        ∀ wallet ∈ [account.creator, Sample.bob, Sample.alice],
          ((Sample.reach Sample.raise).lamports wallet).toNat + due Sample.start
            (Sample.past Sample.raise) (Sample.reach Sample.raise) Sample.pool account wallet
              < 2 ^ 64) = true := by decide +kernel
  have listed : [Sample.bob, Sample.alice].Perm
      ((Sample.reach Sample.raise).stakeholders Sample.pool) := by decide +kernel
  obtain ⟨account, stored, facts⟩ := (Option.any_eq_true _ _).mp live
  simp only [decide_eq_true_eq] at facts
  obtain ⟨late, room⟩ := facts
  have signed : Sample.bob.canSign = true := rfl
  -- The pool is still open, so the first call marks it.
  obtain ⟨final, unwound⟩ := pool_unwinds Sample.genesis (Sample.run (by decide +kernel)) stored
    (.inr ⟨.inl late.1, late.2⟩) signed listed room
  exact ⟨account, final, unwound⟩

end Batchit
