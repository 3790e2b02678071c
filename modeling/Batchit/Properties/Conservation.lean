import Batchit.Properties.Custody
import Batchit.Properties.Refunds
import Batchit.Protocol.Spending

/-! Conservation of what contributors paid in: spent, returned, or still within their reach. -/

namespace Batchit

/-- Pump takes the whole budget of a buy. -/
def TakesAll (env : Env) (pool : Pubkey) (transition : Transition) : Prop :=
  ∀ accounts minTokensOut account edited fill,
    transition.action.instruction = .completeBuy accounts minTokensOut →
    transition.pre.pools pool = some account →
    transition.pre.editLamports pool (.buyer pool) account.totalContributed = .ok edited →
    env.buyExactSolIn edited accounts.handedOn account.totalContributed minTokensOut = some fill →
    account.totalContributed.toNat ≤ fill.taken

/-- Every lamport a pool accepted was spent or returned, or some instruction can still move it. -/
structure NoneStranded (env : Env) (pool : Pubkey) (history : List Transition) (world : World)
    (account : Pool) : Prop where
  /-- Everything accepted was taken by a buy, paid back, is in escrow, or lies on the buyer. -/
  accounted : accepted pool history ≤ takenByBuys pool history + account.totalRefunded.toNat
    + account.escrow + leftByBuys pool history
  /-- What is in escrow is recorded for its contributors, and each of them gets it back. -/
  recorded : account.escrow ≤ world.owed pool
  refundable : 0 < account.escrow → ∀ contributor record,
    world.stake pool contributor = some record → 0 < record.amount →
    (world.lamports contributor).toNat + record.amount.toNat < 2 ^ 64 →
    ∀ now, account.graceEndsAt ≤ now →
    ∃ after, step env world (refundCall pool contributor now) = .ok after ∧
      (after.lamports contributor).toNat
        = (world.lamports contributor).toNat + record.amount.toNat
  /-- What lies on the buyer can still be moved off it. -/
  movable : 0 < leftByBuys pool history → ∃ later final, Run env world later final ∧
    (final.lamports (.buyer pool)).toNat < (world.lamports (.buyer pool)).toNat

section Conservation

variable {env : Env} {start world : World} {history : List Transition} {pool : Pubkey}
variable {account : Pool}

/-- Once a pool has bought, no run ever leaves its buyer with less. -/
theorem buyer_kept {later : List Transition} {final : World} (genesis : Genesis start)
    (run : Run env start history world) (stored : world.pools pool = some account)
    (spent : account.status = .Bought ∨ account.status = .Finalized)
    (continued : Run env world later final) :
    (world.lamports (.buyer pool)).toNat ≤ (final.lamports (.buyer pool)).toNat := by
  -- Each step of the run is one of a life that has bought.
  induction continued with
  | nil => exact Nat.le_refl _
  | @cons older before after action earlier taken ih =>
    obtain ⟨was, storedWas, continues⟩ := (life_of_spent genesis run stored spent earlier).continues
    have reached := run.append earlier
    obtain ⟨creator, seed, rfl⟩ := run_poolsAtHome genesis reached storedWas
    have home := run_recordsAtHome genesis reached
    have effect : Effect env (.pool creator seed) before action after := step_effect home taken
    exact ih.trans (effect.buyer_kept home taken storedWas (continues.leads.spent spent))

/-- A buy that takes its whole budget leaves nothing on the buyer, and only such a buy. -/
theorem Spent.residue_eq_zero_iff {before after : World} {action : Action}
    {accounts : CompleteBuyAccounts} {minTokensOut : UInt64} {credited : TokenAccount}
    {fill : Fill}
    (effect : Spent env pool before action after accounts minTokensOut account credited fill) :
    residue pool ⟨before, action, after⟩ = 0 ↔ TakesAll env pool ⟨before, action, after⟩ := by
  obtain ⟨edited, moved, -, filled⟩ := effect.filled
  -- The residue is what pump's answer leaves of the total.
  rw [effect.outlay_add_residue.2]
  constructor
  · intro nothing named minOut live other given instruction stored movedAgain filledAgain
    -- The call names one instruction, one account and one answer of pump's.
    have same := effect.instruction.symm.trans instruction
    simp only [Instruction.completeBuy.injEq] at same
    obtain ⟨rfl, rfl⟩ := same
    have same := effect.stored.symm.trans stored
    simp only [Option.some.injEq] at same
    subst same
    have same := moved.symm.trans movedAgain
    simp only [Except.ok.injEq] at same
    subst same
    have same := filled.symm.trans filledAgain
    simp only [Option.some.injEq] at same
    subst same
    omega
  · intro takes
    have all := takes accounts minTokensOut account edited fill effect.instruction effect.stored
      moved filled
    omega

/-- Every lamport of a live pool is accounted for, stranded or not. -/
theorem accounted (genesis : Genesis start) (run : Run env start history world)
    (stored : world.pools pool = some account) :
    accepted pool history ≤ takenByBuys pool history + account.totalRefunded.toNat
      + account.escrow + leftByBuys pool history := by
  obtain ⟨creator, seed, rfl⟩ := run_poolsAtHome genesis run stored
  have ledger := run_ledger genesis run creator seed account stored
  rw [ledger.accepted]
  -- What was not returned is counted, and either spent or still held.
  by_cases spent : account.status = .Bought ∨ account.status = .Finalized
  · have spending := run_spending genesis run stored spent
    omega
  · -- Before its buy a pool holds all it counts in escrow.
    have held : account.escrow = account.totalContributed.toNat := by
      unfold Pool.escrow
      cases status : account.status <;> simp_all
    omega

/-- What is in escrow belongs to records that are paid back once the grace is over. -/
theorem escrow_refundable (genesis : Genesis start) (run : Run env start history world)
    (stored : world.pools pool = some account) (holds : 0 < account.escrow)
    {contributor : Pubkey} {record : Contribution}
    (stake : world.stake pool contributor = some record) (positive : 0 < record.amount)
    (credit : (world.lamports contributor).toNat + record.amount.toNat < 2 ^ 64) {now : Int64}
    (late : account.graceEndsAt ≤ now) :
    ∃ after, step env world (refundCall pool contributor now) = .ok after ∧
      (after.lamports contributor).toNat
        = (world.lamports contributor).toNat + record.amount.toNat := by
  obtain ⟨creator, seed, rfl⟩ := run_poolsAtHome genesis run stored
  have invariant := run_poolInvariant genesis run creator seed
  have funded := (run_funded genesis run creator seed).lamports
  rw [World.escrow_of_stored stored] at funded
  -- A pool with an escrow has not bought, so it pays refunds by now.
  have pays : account.PaysRefunds now ∧ account.escrow = account.totalContributed.toNat := by
    have phase := (invariant.account account stored).phase
    unfold Pool.escrow at holds ⊢
    unfold Pool.PaysRefunds
    cases phase with
    | raising status => simp [status, late]
    | launching status => simp [status, late]
    | bought status => simp [status] at holds
    | finalized status => simp [status] at holds
    | refundable status => simp [status]
  obtain ⟨after, taken, paid, -⟩ := refund_succeeds (run_recordsAtHome genesis run) invariant
    (by omega) stored pays.1 stake positive credit
  exact ⟨after, taken, paid⟩

/-- What a buy leaves on the buyer counts for the rest of the pool's life. -/
theorem residue_le_leftByBuys {newer older : List Transition} {transition : Transition}
    {accounts : CompleteBuyAccounts} {minTokensOut : UInt64} {was : Pool}
    {credited : TokenAccount} {fill : Fill} (genesis : Genesis start)
    (run : Run env start (newer ++ transition :: older) world)
    (spent : Spent env pool transition.pre transition.action transition.post accounts minTokensOut
      was credited fill) :
    residue pool transition ≤ leftByBuys pool (newer ++ transition :: older) := by
  obtain ⟨before, -, -⟩ := run.split
  obtain ⟨creator, seed, rfl⟩ := run_poolsAtHome genesis before spent.stored
  have life := spent.life genesis run
  -- Neither the buy nor anything after it opens the pool, so no new tally begins.
  have inside : opens (.pool creator seed) transition = false :=
    (run_effect genesis run creator seed).opens_false spent.stored
  have since : ∀ next ∈ newer, opens (.pool creator seed) next = false := by
    intro next later
    obtain ⟨newest, between, rfl⟩ := List.append_of_mem later
    obtain ⟨held, _, entry⟩ := life.entry
    exact entry.effect.opens_false entry.stored
  exact Machine.le_tally _ _ inside since

/-- Where every buy took its whole budget, none has left anything on the buyer. -/
theorem leftByBuys_eq_zero (genesis : Genesis start) (run : Run env start history world)
    (all : ∀ transition ∈ history, buys pool transition = true → TakesAll env pool transition) :
    leftByBuys pool history = 0 := by
  apply Machine.tally_eq_zero
  intro transition member
  -- A buy that took everything leaves nothing, and any other step leaves nothing anyway.
  by_cases buying : buys pool transition = true
  · have takes := all transition member buying
    obtain ⟨newer, older, rfl⟩ := List.append_of_mem member
    obtain ⟨_, _, _, _, _, spent⟩ := spent_of_recorded genesis run buying
    exact spent.residue_eq_zero_iff.mpr takes
  · rw [residue, if_neg buying]

/--
No lamport is stranded exactly when every buy of the pool took its whole budget.

Whatever less a buy took is left on the buyer, and no run moves it off again.
-/
theorem none_stranded_iff (genesis : Genesis start) (run : Run env start history world)
    (stored : world.pools pool = some account) :
    NoneStranded env pool history world account ↔
      ∀ transition ∈ history, buys pool transition = true → TakesAll env pool transition := by
  constructor
  · intro conserved transition member buying
    obtain ⟨newer, older, rfl⟩ := List.append_of_mem member
    obtain ⟨accounts, minTokensOut, was, credited, fill, spent⟩ :=
      spent_of_recorded genesis run buying
    have spentNow := spent.stays_spent genesis run stored
    -- A residue would be stranded: it lies on the buyer, and no run moves it off.
    apply spent.residue_eq_zero_iff.mp
    by_contra left
    have left : residue pool transition ≠ 0 := left
    have counted := residue_le_leftByBuys genesis run spent
    obtain ⟨later, final, moving, less⟩ := conserved.movable (by omega)
    have kept := buyer_kept genesis run stored spentNow moving
    omega
  · intro all
    constructor
    · exact accounted genesis run stored
    · -- The escrow is the total or nothing, and the total is what the records hold.
      obtain ⟨creator, seed, rfl⟩ := run_poolsAtHome genesis run stored
      have invariant := run_poolInvariant genesis run creator seed
      rw [← (invariant.backed account stored).total]
      unfold Pool.escrow
      split <;> omega
    · intro holds contributor record stake positive credit now late
      exact escrow_refundable genesis run stored holds stake positive credit late
    · -- There is nothing on the buyer to move.
      intro left
      rw [leftByBuys_eq_zero genesis run all] at left
      exact absurd left (Nat.lt_irrefl 0)

end Conservation

/-- In the sample launch the buy takes its whole budget, and nothing is stranded. -/
theorem none_stranded_iff_sample : ∃ account,
    (Sample.reach Sample.purchased).pools Sample.pool = some account ∧ account.status = .Bought ∧
    NoneStranded Sample.env Sample.pool (Sample.past Sample.purchased)
      (Sample.reach Sample.purchased) account := by
  have live : ((Sample.reach Sample.purchased).pools Sample.pool).any
      (fun account => account.status = .Bought) = true := by decide +kernel
  have whole : (Sample.past Sample.purchased).all
      (fun transition => residue Sample.pool transition = 0) = true := by decide +kernel
  obtain ⟨account, stored, bought⟩ := (Option.any_eq_true _ _).mp live
  have run : Run Sample.env Sample.start (Sample.past Sample.purchased)
      (Sample.reach Sample.purchased) := Sample.run (by decide +kernel)
  refine ⟨account, stored, of_decide_eq_true bought,
    (none_stranded_iff Sample.genesis run stored).mpr ?_⟩
  -- The computed residues are zero, which is what taking the whole budget means.
  intro transition member buying
  have nothing := of_decide_eq_true (List.all_eq_true.mp whole transition member)
  obtain ⟨newer, older, cut⟩ := List.append_of_mem member
  rw [cut] at run
  obtain ⟨_, _, _, _, _, spent⟩ := spent_of_recorded Sample.genesis run buying
  exact spent.residue_eq_zero_iff.mp nothing

namespace Sample

/--
A raise whose total pump's documented quote does not use up.

The buyer is funded beforehand with the rent-exempt minimum of an empty account, which the runtime asks of any account that keeps lamports.
-/
def uneven : List Action :=
  [opening, deposit 10 alice 2000000000, deposit 20 bob 1500001481,
    ⟨30, .systemTransfer bob (.buyer pool) 890880⟩] ++ market ++ [buy vault]

end Sample

/-- At an uneven total the documented quote leaves a contributed lamport on the buyer for good. -/
theorem lamport_stranded :
    Run Sample.env Sample.start (Sample.past Sample.uneven) (Sample.reach Sample.uneven) ∧
      accepted Sample.pool (Sample.past Sample.uneven) = 3500001481 ∧
      takenByBuys Sample.pool (Sample.past Sample.uneven) = 3500001480 ∧
      (Sample.reach Sample.uneven).lamports (.buyer Sample.pool) = 890881 ∧
      ∃ account, (Sample.reach Sample.uneven).pools Sample.pool = some account ∧
        ¬ NoneStranded Sample.env Sample.pool (Sample.past Sample.uneven)
          (Sample.reach Sample.uneven) account := by
  have run : Run Sample.env Sample.start (Sample.past Sample.uneven) (Sample.reach Sample.uneven) :=
    Sample.run (by decide +kernel)
  have live : ((Sample.reach Sample.uneven).pools Sample.pool).any
      (fun account => account.status = .Bought) = true := by decide +kernel
  have left : leftByBuys Sample.pool (Sample.past Sample.uneven) = 1 := by decide +kernel
  obtain ⟨account, stored, bought⟩ := (Option.any_eq_true _ _).mp live
  refine ⟨run, by decide +kernel, by decide +kernel, by decide +kernel, account, stored, ?_⟩
  intro conserved
  -- The lamport counts as left by a buy, yet no run ever lowers the buyer's balance.
  obtain ⟨later, final, moving, less⟩ := conserved.movable (by rw [left]; decide)
  have kept := buyer_kept Sample.genesis run stored (.inl (of_decide_eq_true bought)) moving
  omega

end Batchit
