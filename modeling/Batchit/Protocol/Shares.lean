import Batchit.Protocol.Custody
import Batchit.Lib.ProRata

/-! The shares of a finalized pool: what its records are owed, and what its claims have paid. -/

namespace Batchit

open Machine

/-- The share a record is owed, claimed or not, rounded down. -/
def Contribution.shareOwed (distributable total : Nat) (record : Contribution) : Nat :=
  ProRata.share distributable total record.amount.toNat

/-- A record is paid no more than it is owed. -/
theorem Contribution.sharePaid_le (distributable total : Nat) (record : Contribution) :
    record.sharePaid distributable total ≤ record.shareOwed distributable total := by
  -- A claimed record was paid its share, any other nothing.
  unfold Contribution.sharePaid Contribution.shareOwed ProRata.share
  split
  · exact Nat.le_refl _
  · exact Nat.zero_le _

/-! ### The shares of a pool's records -/

section Owed

variable {world : World} {pool contributor : Pubkey} {record : Contribution}
variable {distributable total : Nat}

/-- What one contribution account weighs in the split of a pool. -/
def stakeWeight (pool : Pubkey) (entry : Sigma fun _ : Pubkey => Contribution) : Nat :=
  if entry.2.pool = pool then entry.2.amount.toNat else 0

/-- The shares owed by a pool are the pro-rata shares of its records' amounts. -/
theorem shareOwed_eq_shares : world.stakeTotal pool (Contribution.shareOwed distributable total)
    = ProRata.shares distributable total (stakeWeight pool) world.contributions.entries := by
  -- Entry by entry, the two lists of shares agree.
  unfold World.stakeTotal Store.total ProRata.shares
  congr 1
  apply List.map_congr_left
  intro entry _
  show (if entry.2.pool = pool then entry.2.shareOwed distributable total else 0)
    = ProRata.share distributable total (stakeWeight pool entry)
  unfold stakeWeight
  split
  · rfl
  · -- A record of another pool weighs nothing, and its share of nothing is nothing.
    rw [ProRata.share, Nat.mul_zero, Nat.zero_div]

/-- The shares owed never add up to more than there is to distribute. -/
theorem shareOwed_le (positive : 0 < total) (whole : world.owed pool = total) :
    world.stakeTotal pool (Contribution.shareOwed distributable total) ≤ distributable := by
  rw [shareOwed_eq_shares]
  exact ProRata.shares_le positive whole

/-- Record by record, a pool has paid no more than it owes. -/
private theorem sharePaid_le_of_pool (pool : Pubkey) (distributable total : Nat)
    (record : Contribution) :
    (if record.pool = pool then record.sharePaid distributable total else 0)
      ≤ if record.pool = pool then record.shareOwed distributable total else 0 := by
  split
  · exact record.sharePaid_le distributable total
  · exact Nat.le_refl _

/-- The shares paid never add up to more than the shares owed. -/
theorem sharePaid_le_shareOwed (world : World) (pool : Pubkey) (distributable total : Nat) :
    world.stakeTotal pool (Contribution.sharePaid distributable total)
      ≤ world.stakeTotal pool (Contribution.shareOwed distributable total) :=
  Store.total_le_total (sharePaid_le_of_pool pool distributable total) _

/-- Paying an unclaimed record leaves the shares paid within the shares owed. -/
theorem sharePaid_add_le (home : world.RecordsAtHome)
    (stored : world.stake pool contributor = some record) (unclaimed : record.claimed = false) :
    world.stakeTotal pool (Contribution.sharePaid distributable total)
        + record.shareOwed distributable total
      ≤ world.stakeTotal pool (Contribution.shareOwed distributable total) := by
  have traded := Store.total_add_le (sharePaid_le_of_pool pool distributable total) stored
  -- The record is of this pool, and has been paid nothing so far.
  rw [if_pos (home.stakes _ _ _ stored).1, if_pos (home.stakes _ _ _ stored).1,
    Contribution.sharePaid, unclaimed] at traded
  simpa [World.stakeTotal] using traded

/-- The records that weigh anything are among those not paid back. -/
theorem weighing_le_active (home : world.RecordsAtHome)
    (emptied : ∀ contributor record, world.stake pool contributor = some record →
      record.refunded = true → record.amount = 0) :
    ProRata.weighing (stakeWeight pool) world.contributions.entries ≤ world.active pool := by
  -- Entry by entry: one that weighs anything belongs to the pool and holds an amount.
  apply List.sum_le_sum
  intro entry member
  have stored := Store.lookup_of_mem member
  show (if stakeWeight pool entry = 0 then 0 else 1)
    ≤ if entry.2.pool = pool then (if entry.2.refunded then 0 else 1) else 0
  unfold stakeWeight
  by_cases ofPool : entry.2.pool = pool
  · rw [if_pos ofPool, if_pos ofPool]
    have derived := home entry.1 entry.2 stored
    rw [ofPool] at derived
    rw [derived] at stored
    cases refunded : entry.2.refunded with
    | false =>
      simp only [Bool.false_eq_true, if_false]
      split <;> omega
    | true =>
      -- A record paid back holds nothing, so it weighs nothing.
      rw [emptied _ entry.2 stored refunded]
      exact Nat.le_refl _
  · rw [if_neg ofPool, if_neg ofPool]
    exact Nat.le_refl _

/-- Rounding leaves less than one unit for each record not paid back. -/
theorem lt_shareOwed_add (home : world.RecordsAtHome) (positive : 0 < total)
    (whole : world.owed pool = total)
    (emptied : ∀ contributor record, world.stake pool contributor = some record →
      record.refunded = true → record.amount = 0) :
    distributable < world.stakeTotal pool (Contribution.shareOwed distributable total)
      + world.active pool := by
  -- The weights add up to what is owed, so the bound of the rounding applies.
  have whole : (world.contributions.entries.map (stakeWeight pool)).sum = total := whole
  have bound : distributable < _ := ProRata.lt_shares_add positive whole
  have counted := weighing_le_active home emptied
  rw [shareOwed_eq_shares]
  omega

end Owed

/-! ### What claims have paid -/

/-- The books of a pool's claims, against its history. -/
structure ClaimBooks (pool : Pubkey) (history : List Transition) (world : World) (account : Pool) :
    Prop where
  total : account.totalClaimed.toNat = sharesPaid pool history
  counted : ∀ contributor, claimCount pool contributor history
    = (world.stake pool contributor).elim 0 fun record => if record.claimed then 1 else 0
  received : ∀ contributor, received pool contributor history
    = (world.stake pool contributor).elim 0
      (Contribution.sharePaid account.distributable.toNat account.totalContributed.toNat)

/-- The claim books of a pool are kept as long as it lives. -/
def ClaimInvariant (pool : Pubkey) (history : List Transition) (world : World) : Prop :=
  ∀ account, world.pools pool = some account → ClaimBooks pool history world account

/-- Nothing has been claimed in this life of a pool. -/
structure Unclaimed (pool : Pubkey) (history : List Transition) : Prop where
  total : sharesPaid pool history = 0
  counted : ∀ contributor, claimCount pool contributor history = 0
  received : ∀ contributor, received pool contributor history = 0

/-- Whether an instruction claims from a pool. -/
def Instruction.claims (pool : Pubkey) : Instruction → Bool
  | .claim accounts => accounts.pool = pool
  | _ => false

section Reading

variable {pool contributor : Pubkey} {transition : Transition} {history : List Transition}

/-- Only a claim on the pool pays a share. -/
theorem sharePaid_of_other (other : transition.action.instruction.claims pool = false) :
    sharePaid pool transition = 0 ∧ ∀ contributor, claimBy pool contributor transition = 0 ∧
      sharePaidTo pool contributor transition = 0 := by
  -- Each of the three readings is zero but on a claim from this pool.
  unfold Instruction.claims at other
  constructor
  · unfold sharePaid
    split <;> simp_all
  · intro contributor
    constructor
    · unfold claimBy
      split <;> simp_all
    · unfold sharePaidTo
      split <;> simp_all

/-- Inside a life, a step adds what its claim paid. -/
theorem sharesPaid_cons (inside : opens pool transition = false) :
    sharesPaid pool (transition :: history)
      = sharePaid pool transition + sharesPaid pool history :=
  tally_within _ _ inside

/-- Inside a life, a step adds its claim to the count of the one who claimed. -/
theorem claimCount_cons (inside : opens pool transition = false) :
    claimCount pool contributor (transition :: history)
      = claimBy pool contributor transition + claimCount pool contributor history :=
  tally_within _ _ inside

/-- Inside a life, a step adds what its claim paid to what the claimant received. -/
theorem received_cons (inside : opens pool transition = false) :
    received pool contributor (transition :: history)
      = sharePaidTo pool contributor transition + received pool contributor history :=
  tally_within _ _ inside

/-- Where nothing was claimed, a step that is no claim leaves it so. -/
theorem Unclaimed.cons (unclaimed : Unclaimed pool history)
    (other : transition.action.instruction.claims pool = false) :
    Unclaimed pool (transition :: history) := by
  obtain ⟨share, each⟩ := sharePaid_of_other other
  -- Whether or not the step begins a life, it adds nothing to nothing.
  cases first : opens pool transition with
  | true =>
    exact ⟨tally_begin _ _ first, fun _ => tally_begin _ _ first, fun _ => tally_begin _ _ first⟩
  | false =>
    constructor
    · rw [sharesPaid_cons first, share, Nat.zero_add]
      exact unclaimed.total
    · intro contributor
      rw [claimCount_cons first, (each contributor).1, Nat.zero_add]
      exact unclaimed.counted contributor
    · intro contributor
      rw [received_cons first, (each contributor).2, Nat.zero_add]
      exact unclaimed.received contributor

end Reading

section Books

variable {env : Env} {pool : Pubkey} {before after : World} {action : Action} {account : Pool}
variable {history : List Transition}

/-- Claim books over unclaimed records are empty. -/
theorem ClaimBooks.of_unclaimed (unclaimed : Unclaimed pool history)
    (records : ∀ contributor record, after.stake pool contributor = some record →
      record.claimed = false) (nothing : account.totalClaimed = 0) :
    ClaimBooks pool history after account where
  -- Nothing was claimed, in the pool as in the books.
  total := by rw [nothing, unclaimed.total, UInt64.toNat_zero]
  -- With no mark on it, a record accounts for no claim and no share.
  counted contributor := by
    rw [unclaimed.counted]
    cases stored : after.stake pool contributor with
    | none => rfl
    | some record => rw [Option.elim_some, records _ _ stored, if_neg (by decide)]
  received contributor := by
    rw [unclaimed.received]
    cases stored : after.stake pool contributor with
    | none => rfl
    | some record =>
      rw [Option.elim_some, Contribution.sharePaid, records _ _ stored, if_neg (by decide)]

/-- Empty claim books are the only ones over unclaimed records. -/
theorem ClaimBooks.unclaimed (books : ClaimBooks pool history before account)
    (records : ∀ contributor record, before.stake pool contributor = some record →
      record.claimed = false) (nothing : account.totalClaimed = 0) : Unclaimed pool history where
  -- Nothing was claimed, in the books as in the pool.
  total := by rw [← books.total, nothing, UInt64.toNat_zero]
  -- What the books count is what the records account for, which is nothing.
  counted contributor := by
    rw [books.counted]
    cases stored : before.stake pool contributor with
    | none => rfl
    | some record => rw [Option.elim_some, records _ _ stored, if_neg (by decide)]
  received contributor := by
    rw [books.received]
    cases stored : before.stake pool contributor with
    | none => rfl
    | some record =>
      rw [Option.elim_some, Contribution.sharePaid, records _ _ stored, if_neg (by decide)]

/-- A pool not yet finalized has counted no claim. -/
theorem Pool.Phase.unclaimed (phase : account.Phase) (unsettled : account.status ≠ .Finalized) :
    account.totalClaimed = 0 := by
  -- Every other phase records that nothing was claimed.
  cases phase with
  | raising _ _ _ unspent => exact unspent.totalClaimed
  | launching _ _ _ _ unspent => exact unspent.totalClaimed
  | bought _ _ _ _ _ _ unclaimed => exact unclaimed
  | finalized status => exact absurd status unsettled
  | refundable _ unspent => exact unspent.totalClaimed

/-- Nothing has been claimed of a pool that is not finalized. -/
theorem ClaimInvariant.unclaimed (books : ClaimInvariant pool history before)
    (invariant : PoolInvariant env pool before) (stored : before.pools pool = some account)
    (unsettled : account.status ≠ .Finalized) : Unclaimed pool history :=
  (books account stored).unclaimed
    (unclaimed_of_unsettled (invariant.soundRecords stored) unsettled)
    ((invariant.account account stored).phase.unclaimed unsettled)

/-- A step between two states in which the pool is not finalized keeps its claim books empty. -/
theorem ClaimInvariant.unsettled {later : Pool} (books : ClaimInvariant pool history before)
    (invariant : PoolInvariant env pool before) (invariantAfter : PoolInvariant env pool after)
    (stored : before.pools pool = some account) (unsettled : account.status ≠ .Finalized)
    (storedAfter : after.pools pool = some later) (unsettledAfter : later.status ≠ .Finalized)
    (other : action.instruction.claims pool = false) :
    ClaimInvariant pool (⟨before, action, after⟩ :: history) after := by
  intro live found
  rw [storedAfter, Option.some.injEq] at found
  subst found
  -- The books were empty before, the step adds nothing, and the records are still unclaimed.
  apply ClaimBooks.of_unclaimed ((books.unclaimed invariant stored unsettled).cons other)
  · exact unclaimed_of_unsettled (invariantAfter.soundRecords storedAfter) unsettledAfter
  · exact (invariantAfter.account _ storedAfter).phase.unclaimed unsettledAfter

/-- A step that leaves a pool's account and records alone keeps its claim books. -/
theorem ClaimInvariant.of_same (books : ClaimInvariant pool history before)
    (same : after.pools pool = before.pools pool)
    (stakes : ∀ contributor, after.stake pool contributor = before.stake pool contributor)
    (inside : opens pool ⟨before, action, after⟩ = false)
    (other : action.instruction.claims pool = false) :
    ClaimInvariant pool (⟨before, action, after⟩ :: history) after := by
  intro live found
  have was := books live (same ▸ found)
  have none : sharePaid pool ⟨before, action, after⟩ = 0 ∧ ∀ contributor,
      claimBy pool contributor ⟨before, action, after⟩ = 0 ∧
        sharePaidTo pool contributor ⟨before, action, after⟩ = 0 := sharePaid_of_other other
  obtain ⟨share, each⟩ := none
  -- Nothing is added to any of the three tallies, nor to what they are compared with.
  constructor
  · rw [sharesPaid_cons inside, share, Nat.zero_add]
    exact was.total
  · intro contributor
    rw [claimCount_cons inside, (each contributor).1, Nat.zero_add, stakes]
    exact was.counted contributor
  · intro contributor
    rw [received_cons inside, (each contributor).2, Nat.zero_add, stakes]
    exact was.received contributor

/-- A claim pays its share into the account it names, which is not the vault. -/
theorem Claimed.credited {accounts : ClaimAccounts} {record : Contribution}
    {vaultAta contributorAta : TokenAccount} {share totalClaimed : UInt64}
    (effect : Claimed env pool before action after accounts account record vaultAta contributorAta
      share totalClaimed) :
    after.tokens.balance accounts.contributorAta
        = before.tokens.balance accounts.contributorAta + share.toNat := by
  -- The claimant signs, so it is not the buyer, and one account has one owner.
  have differ : accounts.vaultAta ≠ accounts.contributorAta := by
    intro same
    have vault := effect.checked.vault
    rw [same, effect.checked.ata, Option.some.injEq] at vault
    have owner := effect.checked.vaultOwner
    rw [← vault, effect.checked.ataOwner, (buyerSeeds_ok.mp effect.checked.buyer).1] at owner
    exact Pubkey.ne_of_canSign effect.checked.signed rfl owner
  have paid := effect.paid
  unfold payShare at paid
  split at paid
  · exact (Tokens.transfer_balances differ paid).1
  · -- A share of nothing is paid without a transfer.
    rename_i nothing
    have zero : share = 0 := by simpa using nothing
    rw [← Except.ok.inj paid, zero, UInt64.toNat_zero, Nat.add_zero]

/-- A claim is booked once: for the pool, and for its contributor. -/
theorem ClaimInvariant.claimed {accounts : ClaimAccounts} {record : Contribution}
    {vaultAta contributorAta : TokenAccount} {share totalClaimed : UInt64}
    (books : ClaimInvariant pool history before) (part : record.amount.toNat
      ≤ account.totalContributed.toNat)
    (effect : Claimed env pool before action after accounts account record vaultAta contributorAta
      share totalClaimed) : ClaimInvariant pool (⟨before, action, after⟩ :: history) after := by
  have was := books account effect.stored
  have inside : opens pool ⟨before, action, after⟩ = false := by simp [opens, effect.instruction]
  have credited := effect.credited
  have added := effect.added
  -- What is paid is the exact floor, the measure the books compare with.
  have exact := ((allocation_exact part).mp effect.allocated).2
  intro live found
  rw [effect.accountAfter, Option.some.injEq] at found
  subst found
  constructor
  · rw [sharesPaid_cons inside]
    have paid : sharePaid pool ⟨before, action, after⟩ = share.toNat := by
      simp only [sharePaid, effect.instruction, effect.target, if_true]
      omega
    rw [paid, added, was.total, Nat.add_comm]
  · -- The claimant had not claimed, and its record is marked now.
    intro contributor
    rw [claimCount_cons inside, was.counted contributor]
    simp only [claimBy, effect.instruction, effect.target, true_and]
    by_cases same : accounts.contributor = contributor
    · subst same
      simp [effect.written.record, effect.stake, effect.unclaimed]
    · rw [if_neg same, effect.written.others contributor (Ne.symm same), Nat.zero_add]
  · -- An unclaimed record had been paid nothing, and a marked one counts its share.
    intro contributor
    rw [received_cons inside, was.received contributor]
    simp only [sharePaidTo, effect.instruction, effect.target, true_and]
    by_cases same : accounts.contributor = contributor
    · subst same
      rw [if_pos rfl, effect.written.record, effect.stake]
      simp only [Option.elim_some, Contribution.sharePaid, effect.unclaimed, if_true]
      simp only [Bool.false_eq_true, if_false]
      omega
    · rw [if_neg same, effect.written.others contributor (Ne.symm same), Nat.zero_add]

/-- An instruction that does not concern a pool neither opens it nor claims from it. -/
theorem Instruction.quiet_of_other (other : action.instruction.concerns pool = false) :
    opens pool ⟨before, action, after⟩ = false ∧ action.instruction.claims pool = false := by
  -- Both are read off the instruction alone, and each such instruction names the pool.
  unfold opens
  generalize action.instruction = instruction at other
  cases instruction <;> simp_all [Instruction.concerns, Instruction.claims]

/-- Whatever a step does to a pool, its claim books are kept. -/
theorem ClaimInvariant.effect (books : ClaimInvariant pool history before)
    (home : before.RecordsAtHome) (invariant : PoolInvariant env pool before)
    (invariantAfter : PoolInvariant env pool after)
    (effect : Effect env pool before action after) :
    ClaimInvariant pool (⟨before, action, after⟩ :: history) after := by
  -- Before its finalization a pool's books are empty, so only a claim ever adds to them.
  have unsettled {account later : Pool} (stored : before.pools pool = some account)
      (status : account.status ≠ .Finalized) (storedAfter : after.pools pool = some later)
      (statusAfter : later.status ≠ .Finalized)
      (other : action.instruction.claims pool = false) :
      ClaimInvariant pool (⟨before, action, after⟩ :: history) after :=
    books.unsettled invariant invariantAfter stored status storedAfter statusAfter other
  cases effect with
  | untouched other frame =>
    have quiet : opens pool ⟨before, action, after⟩ = false ∧
      action.instruction.claims pool = false := Instruction.quiet_of_other other
    exact books.of_same frame.account frame.stakes quiet.1 quiet.2
  | created _ _ _ effect =>
    -- A life begins with nothing tallied, over records none of which is claimed.
    intro live found
    have first : opens pool ⟨before, action, after⟩ = true := by
      simp [opens, effect.instruction, effect.target]
    rw [effect.account, Option.some.injEq] at found
    subst found
    apply ClaimBooks.of_unclaimed
    · exact ⟨tally_begin _ _ first, fun _ => tally_begin _ _ first, fun _ => tally_begin _ _ first⟩
    · exact unclaimed_of_unsettled (invariantAfter.soundRecords effect.account)
        (by simp [CreatePoolArgs.opened])
    · rfl
  | contributed _ _ account _ _ _ effect =>
    have status : account.status ≠ .Finalized := by simp [effect.status]
    exact unsettled effect.stored status effect.accountAfter status
      (by rw [effect.instruction]; rfl)
  | launched _ _ account effect =>
    exact unsettled effect.stored (by simp [effect.status]) effect.accountAfter (by simp)
      (by rw [effect.instruction]; rfl)
  | spent _ _ account _ _ effect =>
    exact unsettled effect.stored (by simp [effect.status]) effect.accountAfter
      (by simp [Pool.bought]) (by rw [effect.instruction]; rfl)
  | repeated _ _ _ effect =>
    exact books.of_same (by rw [effect.same]) (fun _ => by rw [effect.same])
      (by simp [opens, effect.instruction]) (by rw [effect.instruction]; rfl)
  | settled _ account _ _ _ _ _ effect =>
    have status : account.status ≠ .Finalized := by simp [effect.status]
    have other : action.instruction.claims pool = false := by rw [effect.instruction]; rfl
    intro live found
    rw [effect.accountAfter, Option.some.injEq] at found
    subst found
    -- The records are the ones from before, none of them claimed.
    apply ClaimBooks.of_unclaimed ((books.unclaimed invariant effect.stored status).cons other)
    · intro contributor record stored
      have same : after.stake pool contributor = before.stake pool contributor := by
        rw [effect.frame]
        rfl
      rw [same] at stored
      exact unclaimed_of_unsettled (invariant.soundRecords effect.stored) status _ _ stored
    · exact (invariant.account account effect.stored).phase.unclaimed status
  | claimed _ account _ _ _ _ _ effect =>
    exact books.claimed ((invariant.backed account effect.stored).stake_le home effect.stake) effect
  | refunded _ account _ _ _ effect =>
    have early := Pool.early_of_refundAllowed effect.allowed
    exact unsettled effect.stored early.2 effect.accountAfter (by simp)
      (by rw [effect.instruction]; rfl)
  | marked _ account effect =>
    have status : account.status ≠ .Finalized := by
      rcases effect.status with status | status <;> simp [status]
    exact unsettled effect.stored status effect.accountAfter (by simp)
      (by rw [effect.instruction]; rfl)
  | closed _ _ effect =>
    intro live found
    rw [effect.accountAfter] at found
    cases found
  | endowed _ _ effect =>
    exact books.of_same effect.account effect.records.stakes
      (by simp [opens, effect.instruction]) (by rw [effect.instruction]; rfl)

end Books

/-- Every live pool of every reachable state has its claim books kept. -/
theorem run_claimBooks {env : Env} {start world : World} {history : List Transition}
    (genesis : Genesis start) (run : Run env start history world) (creator : Pubkey)
    (seed : UInt64) : ClaimInvariant (.pool creator seed) history world := by
  apply run.extends
  · -- Before the first call there is no pool to keep books of.
    intro account stored
    rw [genesis.noPools] at stored
    cases stored
  · -- The pool invariant is needed on both sides: it says which records are claimed.
    intro past pre action post before books taken
    have home := run_recordsAtHome genesis before
    exact books.effect home (run_poolInvariant genesis before creator seed)
      (run_poolInvariant genesis (.cons before taken) creator seed) (step_effect home taken)

end Batchit
