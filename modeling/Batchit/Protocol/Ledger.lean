import Batchit.Protocol.Invariant

/-! The books of a pool: its recorded totals and its lamports against what its history did. -/

namespace Batchit

open Machine

/-! ### Reading one more transition -/

section Reading

variable {pool contributor : Pubkey} {transition : Transition} {history : List Transition}

/-- Whether an instruction leaves every amount paid into or back out of a pool alone. -/
def Instruction.keepsBooks (pool : Pubkey) : Instruction → Bool
  | .createPool accounts _ => accounts.pool ≠ pool
  | .contribute accounts _ => accounts.pool ≠ pool
  | .refund accounts => accounts.pool ≠ pool
  | _ => true

/-- A transition that adds nothing to a pool's books. -/
structure Quiet (pool : Pubkey) (transition : Transition) : Prop where
  opens : opens pool transition = false
  deposit : deposit pool transition = 0
  depositor : depositor pool transition = []
  depositBy : ∀ contributor, depositBy pool contributor transition = 0
  repaid : ∀ contributor, repaid pool contributor transition = 0

/-- An instruction that keeps the books makes a quiet transition. -/
theorem Quiet.of_keepsBooks (keeps : transition.action.instruction.keepsBooks pool = true) :
    Quiet pool transition := by
  -- Only a creation, a contribution or a refund of this very pool would add an entry.
  unfold Instruction.keepsBooks at keeps
  constructor
  · unfold Batchit.opens
    split <;> simp_all
  · unfold Batchit.deposit
    split <;> simp_all
  · unfold Batchit.depositor
    split <;> simp_all
  · intro contributor
    unfold Batchit.depositBy
    split <;> simp_all
  · intro contributor
    unfold Batchit.repaid
    split <;> simp_all

/-- An instruction that does not concern a pool keeps its books. -/
theorem Instruction.keepsBooks_of_other {instruction : Instruction}
    (other : instruction.concerns pool = false) : instruction.keepsBooks pool = true := by
  cases instruction <;> simp_all [Instruction.concerns, Instruction.keepsBooks]

variable (inside : opens pool transition = false)
include inside

/-- Inside a life, a step adds what it accepted. -/
theorem accepted_cons :
    accepted pool (transition :: history) = deposit pool transition + accepted pool history :=
  tally_within _ _ inside

/-- Inside a life, a step adds what it accepted from one contributor. -/
theorem paidIn_cons : paidIn pool contributor (transition :: history)
    = depositBy pool contributor transition + paidIn pool contributor history :=
  tally_within _ _ inside

/-- Inside a life, a step adds what it paid back to one contributor. -/
theorem paidBack_cons : paidBack pool contributor (transition :: history)
    = repaid pool contributor transition + paidBack pool contributor history :=
  tally_within _ _ inside

/-- Inside a life, a step adds the wallet it accepted a contribution from. -/
theorem depositors_cons : depositors pool (transition :: history)
    = (depositor pool transition).toFinset ∪ depositors pool history := by
  rw [depositors, gather_within _ inside, List.toFinset_append]
  rfl

end Reading

/-! ### What each contributor paid in and was paid back -/

/-- One contributor's record against what the history says it paid in and was paid back. -/
structure Booked (pool contributor : Pubkey) (history : List Transition)
    (record : Option Contribution) : Prop where
  absent : record = none → contributor ∉ depositors pool history ∧
    paidIn pool contributor history = 0 ∧ paidBack pool contributor history = 0
  staked : ∀ held, record = some held → held.refunded = false →
    contributor ∈ depositors pool history ∧
    paidIn pool contributor history = held.amount.toNat ∧ paidBack pool contributor history = 0
  settled : ∀ held, record = some held → held.refunded = true →
    paidBack pool contributor history = paidIn pool contributor history

/-- The books of a live pool: its totals and its records against its history. -/
structure Ledger (pool : Pubkey) (history : List Transition) (world : World) (account : Pool) :
    Prop where
  accepted : accepted pool history
    = account.totalContributed.toNat + account.totalRefunded.toNat
  counted : (depositors pool history).card = account.contributorCount.toNat
  returned : ∀ contributor, paidBack pool contributor history ≤ account.totalRefunded.toNat
  booked : ∀ contributor, Booked pool contributor history (world.stake pool contributor)

/-- A pool's books are kept as long as it lives. -/
def LedgerInvariant (pool : Pubkey) (history : List Transition) (world : World) : Prop :=
  ∀ account, world.pools pool = some account → Ledger pool history world account

section Books

variable {env : Env} {pool : Pubkey} {before after : World} {action : Action}
variable {history : List Transition}

/-- Entries that a step adds nothing to read as before it. -/
theorem Booked.carry {contributor : Pubkey} {record : Option Contribution}
    {transition : Transition} (booked : Booked pool contributor history record)
    (deposits : contributor ∈ depositors pool (transition :: history) ↔
      contributor ∈ depositors pool history)
    (into : paidIn pool contributor (transition :: history) = paidIn pool contributor history)
    (out : paidBack pool contributor (transition :: history)
      = paidBack pool contributor history) :
    Booked pool contributor (transition :: history) record := by
  -- Each clause asks for the same entries it asked for before.
  constructor
  · rw [deposits, into, out]
    exact booked.absent
  · rw [deposits, into, out]
    exact booked.staked
  · rw [into, out]
    exact booked.settled

/-- A quiet step adds nothing to a contributor's entries. -/
theorem Booked.quiet {contributor : Pubkey} {record : Option Contribution}
    {transition : Transition} (booked : Booked pool contributor history record)
    (quiet : Quiet pool transition) :
    Booked pool contributor (transition :: history) record := by
  -- It names nobody as a depositor, and moves nothing in or out.
  apply booked.carry
  · rw [depositors_cons quiet.opens, quiet.depositor, List.toFinset_nil, Finset.empty_union]
  · rw [paidIn_cons quiet.opens, quiet.depositBy, Nat.zero_add]
  · rw [paidBack_cons quiet.opens, quiet.repaid, Nat.zero_add]

/-- Entries depend on a record only through its amount and whether it was refunded. -/
theorem Booked.of_same_amount {contributor : Pubkey} {old new : Contribution}
    (booked : Booked pool contributor history (some old)) (refunded : new.refunded = old.refunded)
    (amount : new.amount = old.amount) : Booked pool contributor history (some new) where
  -- The record is there, with another mark.
  absent := by simp
  -- Both marks of the old record that the entries ask for are the new one's.
  staked := by
    intro held same unrefunded
    simp only [Option.some.injEq] at same
    subst same
    rw [amount]
    exact booked.staked old rfl (refunded ▸ unrefunded)
  settled := by
    intro held same paidBack
    simp only [Option.some.injEq] at same
    subst same
    exact booked.settled old rfl (refunded ▸ paidBack)

/-- A quiet step that keeps a pool's totals and records keeps its books. -/
theorem Ledger.quiet {account written : Pool} (ledger : Ledger pool history before account)
    (keeps : action.instruction.keepsBooks pool = true)
    (booked : ∀ contributor, Booked pool contributor history (before.stake pool contributor) →
      Booked pool contributor history (after.stake pool contributor))
    (total : written.totalContributed = account.totalContributed)
    (refunded : written.totalRefunded = account.totalRefunded)
    (count : written.contributorCount = account.contributorCount) :
    Ledger pool (⟨before, action, after⟩ :: history) after written := by
  have quiet : Quiet pool ⟨before, action, after⟩ := .of_keepsBooks keeps
  -- Neither side of any entry moves: not the tallies, and not the totals kept.
  exact {
    accepted := by
      rw [accepted_cons quiet.opens, quiet.deposit, Nat.zero_add, total, refunded]
      exact ledger.accepted
    counted := by
      rw [depositors_cons quiet.opens, quiet.depositor, List.toFinset_nil, Finset.empty_union,
        count]
      exact ledger.counted
    returned := by
      intro contributor
      rw [paidBack_cons quiet.opens, quiet.repaid, Nat.zero_add, refunded]
      exact ledger.returned contributor
    booked := by
      intro contributor
      exact (booked contributor (ledger.booked contributor)).quiet quiet }

/-- A step that writes a pool without moving its totals or its records keeps its books. -/
theorem LedgerInvariant.rewritten {account written : Pool}
    (invariant : LedgerInvariant pool history before) (stored : before.pools pool = some account)
    (storedAfter : after.pools pool = some written) (records : SameRecords pool before after)
    (keeps : action.instruction.keepsBooks pool = true)
    (total : written.totalContributed = account.totalContributed)
    (refunded : written.totalRefunded = account.totalRefunded)
    (count : written.contributorCount = account.contributorCount) :
    LedgerInvariant pool (⟨before, action, after⟩ :: history) after := by
  intro live found
  rw [storedAfter, Option.some.injEq] at found
  subst found
  refine (invariant account stored).quiet keeps ?_ total refunded count
  -- Each contributor's entries are read against the record they were read against before.
  intro contributor booked
  rw [records.stakes]
  exact booked

/-- A step that leaves a pool's account and records alone keeps its books. -/
theorem LedgerInvariant.of_same (invariant : LedgerInvariant pool history before)
    (account : after.pools pool = before.pools pool) (records : SameRecords pool before after)
    (keeps : action.instruction.keepsBooks pool = true) :
    LedgerInvariant pool (⟨before, action, after⟩ :: history) after := by
  intro live found
  -- The account is the one it was, so it is rewritten by itself.
  have stored : before.pools pool = some live := account ▸ found
  exact invariant.rewritten stored found records keeps rfl rfl rfl live found

/-- A pool opens with empty books, over records that were all paid back. -/
theorem LedgerInvariant.created {accounts : CreatePoolAccounts} {args : CreatePoolArgs}
    {graceEndsAt : Int64} (records : PoolInvariant env pool before)
    (effect : Created env pool before action after accounts args graceEndsAt) :
    LedgerInvariant pool (⟨before, action, after⟩ :: history) after := by
  have first : opens pool ⟨before, action, after⟩ = true := by
    simp [opens, effect.instruction, effect.target]
  -- An opening begins a life, so nothing is counted yet.
  have noDepositor : depositors pool (⟨before, action, after⟩ :: history) = ∅ := by
    rw [depositors, gather_begin _ first]
    rfl
  have nothingIn (contributor : Pubkey) :
      paidIn pool contributor (⟨before, action, after⟩ :: history) = 0 := tally_begin _ _ first
  have nothingOut (contributor : Pubkey) :
      paidBack pool contributor (⟨before, action, after⟩ :: history) = 0 := tally_begin _ _ first
  intro live found
  rw [effect.account, Option.some.injEq] at found
  subst found
  exact {
    accepted := tally_begin _ _ first
    counted := by rw [noDepositor]; rfl
    returned := by
      intro contributor
      rw [nothingOut contributor]
      exact Nat.zero_le _
    booked := by
      intro contributor
      rw [effect.records.stakes]
      constructor
      · intro _
        exact ⟨by simp [noDepositor], nothingIn contributor, nothingOut contributor⟩
      · -- A record left from an earlier life was paid back, so it is not staked.
        intro held stored unrefunded
        rcases (records.records _ _ stored).state with paidBack | ⟨live, present, -⟩
        · rw [paidBack.refunded] at unrefunded
          cases unrefunded
        · rw [effect.unused] at present
          cases present
      · intro held stored _
        rw [nothingIn, nothingOut] }

section Deposit

variable {accounts : ContributeAccounts} {amount : UInt64} {account : Pool}
variable {newTotal total : UInt64} {count : UInt32}

/-- A contribution opens no pool. -/
theorem Contributed.opens_false
    (effect : Contributed env pool before action after accounts amount account newTotal total
      count) : opens pool ⟨before, action, after⟩ = false := by
  simp [opens, effect.instruction]

/-- A contribution makes the one who paid a depositor. -/
theorem Contributed.depositors_eq
    (effect : Contributed env pool before action after accounts amount account newTotal total
      count) : depositors pool (⟨before, action, after⟩ :: history)
        = insert accounts.contributor (depositors pool history) := by
  rw [depositors_cons effect.opens_false]
  simp [depositor, effect.instruction, effect.target]

/-- A contribution is paid in by the one who paid, and by no other. -/
theorem Contributed.paidIn_eq
    (effect : Contributed env pool before action after accounts amount account newTotal total
      count) (contributor : Pubkey) :
    paidIn pool contributor (⟨before, action, after⟩ :: history)
      = (if accounts.contributor = contributor then amount.toNat else 0)
        + paidIn pool contributor history := by
  rw [paidIn_cons effect.opens_false]
  simp [depositBy, effect.instruction, effect.target]

/-- A contribution pays nobody back. -/
theorem Contributed.paidBack_eq
    (effect : Contributed env pool before action after accounts amount account newTotal total
      count) (contributor : Pubkey) :
    paidBack pool contributor (⟨before, action, after⟩ :: history)
      = paidBack pool contributor history := by
  rw [paidBack_cons effect.opens_false]
  simp [repaid, effect.instruction]

/-- A contribution is booked in full for the one who paid. -/
theorem Contributed.booked
    (effect : Contributed env pool before action after accounts amount account newTotal total
      count)
    (booked : Booked pool accounts.contributor history (before.stake pool accounts.contributor)) :
    Booked pool accounts.contributor (⟨before, action, after⟩ :: history)
      (after.stake pool accounts.contributor) := by
  have unrefunded := effect.unrefunded
  have summed := effect.summed
  rw [World.stakeOrNew, effect.target] at unrefunded summed
  rw [effect.written.record]
  constructor
  · simp
  · intro held own _
    simp only [Option.some.injEq] at own
    subst own
    rw [effect.depositors_eq, effect.paidIn_eq, if_pos rfl, effect.paidBack_eq]
    -- What it paid in before is what its record, if any, held.
    refine ⟨Finset.mem_insert_self _ _, ?_⟩
    cases stored : before.stake pool accounts.contributor with
    | none =>
      obtain ⟨-, nothingIn, nothingOut⟩ := booked.absent stored
      rw [stored] at summed
      simp only [Option.getD_none, Contribution.named, UInt64.toNat_zero] at summed
      exact ⟨by simp only; omega, nothingOut⟩
    | some held =>
      rw [stored] at unrefunded summed
      obtain ⟨-, paid, nothingOut⟩ := booked.staked held stored unrefunded
      simp only [Option.getD_some] at summed
      exact ⟨by simp only; omega, nothingOut⟩
  · -- The record written is not a refunded one.
    intro held own refunded
    simp only [Option.some.injEq] at own
    subst own
    rw [World.stakeOrNew, effect.target] at refunded
    rw [unrefunded] at refunded
    cases refunded

/-- A contribution enters the books once: for the pool, and for its contributor. -/
theorem LedgerInvariant.contributed (invariant : LedgerInvariant pool history before)
    (effect : Contributed env pool before action after accounts amount account newTotal total
      count) : LedgerInvariant pool (⟨before, action, after⟩ :: history) after := by
  have ledger := invariant account effect.stored
  have deposit : deposit pool ⟨before, action, after⟩ = amount.toNat := by
    simp [deposit, effect.instruction, effect.target]
  have booked := ledger.booked accounts.contributor
  have unrefunded := effect.unrefunded
  have counted := effect.counted
  have added := effect.added
  rw [World.stakeOrNew, effect.target] at unrefunded
  intro live found
  rw [effect.accountAfter, Option.some.injEq] at found
  subst found
  constructor
  · rw [accepted_cons effect.opens_false, deposit, ledger.accepted]
    simp only
    omega
  · -- The contributor is new to the books exactly when it had no record.
    rw [effect.depositors_eq]
    cases stored : before.stake pool accounts.contributor with
    | none =>
      rw [Finset.card_insert_of_notMem (booked.absent stored).1, ledger.counted]
      rw [if_pos stored] at counted
      exact counted.symm
    | some held =>
      rw [stored] at unrefunded
      rw [Finset.insert_eq_self.mpr (booked.staked held stored unrefunded).1, ledger.counted]
      rw [stored, if_neg (by simp), Nat.add_zero] at counted
      exact counted.symm
  · intro contributor
    rw [effect.paidBack_eq]
    exact ledger.returned contributor
  · -- Either the entries are the contributor's own, or they read as before.
    intro contributor
    by_cases same : contributor = accounts.contributor
    · exact same ▸ effect.booked booked
    · rw [effect.written.others contributor same]
      apply (ledger.booked contributor).carry
      · rw [effect.depositors_eq, Finset.mem_insert, or_iff_right same]
      · rw [effect.paidIn_eq, if_neg (Ne.symm same), Nat.zero_add]
      · exact effect.paidBack_eq contributor

end Deposit

section Repayment

variable {accounts : RefundAccounts} {account : Pool} {record : Contribution}
variable {totalContributed totalRefunded : UInt64}

/-- A refund opens no pool. -/
theorem Refunded.opens_false
    (effect : Refunded pool before action after accounts account record totalContributed
      totalRefunded) : opens pool ⟨before, action, after⟩ = false := by
  simp [opens, effect.instruction]

/-- A refund makes nobody a depositor. -/
theorem Refunded.depositors_eq
    (effect : Refunded pool before action after accounts account record totalContributed
      totalRefunded) : depositors pool (⟨before, action, after⟩ :: history)
        = depositors pool history := by
  rw [depositors_cons effect.opens_false]
  simp [depositor, effect.instruction]

/-- A refund takes nothing in. -/
theorem Refunded.paidIn_eq
    (effect : Refunded pool before action after accounts account record totalContributed
      totalRefunded) (contributor : Pubkey) :
    paidIn pool contributor (⟨before, action, after⟩ :: history)
      = paidIn pool contributor history := by
  rw [paidIn_cons effect.opens_false]
  simp [depositBy, effect.instruction]

/-- A refund pays one contributor back what its record held, and no other. -/
theorem Refunded.paidBack_eq
    (effect : Refunded pool before action after accounts account record totalContributed
      totalRefunded) (contributor : Pubkey) :
    paidBack pool contributor (⟨before, action, after⟩ :: history)
      = (if accounts.contributor = contributor then record.amount.toNat else 0)
        + paidBack pool contributor history := by
  rw [paidBack_cons effect.opens_false]
  -- The wallet gained exactly what the record held.
  have paid := effect.paid
  congr 1
  simp only [repaid, effect.instruction, effect.target, true_and]
  split
  · rename_i same
    subst same
    omega
  · rfl

/-- A refund is booked in full against the one it pays. -/
theorem Refunded.booked
    (effect : Refunded pool before action after accounts account record totalContributed
      totalRefunded)
    (booked : Booked pool accounts.contributor history (before.stake pool accounts.contributor)) :
    Booked pool accounts.contributor (⟨before, action, after⟩ :: history)
      (after.stake pool accounts.contributor) := by
  rw [effect.written.record]
  -- A stake had been paid nothing back, and is now paid all of what it paid in.
  obtain ⟨-, paid, nothingOut⟩ := booked.staked record effect.stake effect.unrefunded
  constructor
  · simp
  · intro held own unrefunded
    simp only [Option.some.injEq] at own
    subst own
    cases unrefunded
  · intro held own _
    rw [effect.paidIn_eq, effect.paidBack_eq, if_pos rfl, paid, nothingOut, Nat.add_zero]

/-- A refund is booked against its contributor, in full. -/
theorem LedgerInvariant.refunded (invariant : LedgerInvariant pool history before)
    (effect : Refunded pool before action after accounts account record totalContributed
      totalRefunded) : LedgerInvariant pool (⟨before, action, after⟩ :: history) after := by
  have ledger := invariant account effect.stored
  have subtracted := effect.subtracted
  have added := effect.added
  intro live found
  rw [effect.accountAfter, Option.some.injEq] at found
  subst found
  constructor
  · -- What leaves the contributed total enters the refunded one.
    rw [accepted_cons effect.opens_false, ledger.accepted]
    simp only [deposit, effect.instruction]
    omega
  · rw [effect.depositors_eq]
    exact ledger.counted
  · -- One wallet gains what the pool's total gains, and the others nothing.
    intro contributor
    have before := ledger.returned contributor
    rw [effect.paidBack_eq]
    simp only
    split <;> omega
  · -- Either the entries are the contributor's own, or they read as before.
    intro contributor
    by_cases same : contributor = accounts.contributor
    · exact same ▸ effect.booked (ledger.booked accounts.contributor)
    · rw [effect.written.others contributor same]
      apply (ledger.booked contributor).carry
      · rw [effect.depositors_eq]
      · exact effect.paidIn_eq contributor
      · rw [effect.paidBack_eq, if_neg (Ne.symm same), Nat.zero_add]

end Repayment

/-- Whatever a step does to a pool, its books are kept. -/
theorem LedgerInvariant.effect (invariant : LedgerInvariant pool history before)
    (records : PoolInvariant env pool before) (effect : Effect env pool before action after) :
    LedgerInvariant pool (⟨before, action, after⟩ :: history) after := by
  cases effect with
  | untouched other frame =>
    exact invariant.of_same frame.account ⟨frame.stakes, frame.totals⟩
      (Instruction.keepsBooks_of_other other)
  | created _ _ _ effect => exact .created records effect
  | contributed _ _ _ _ _ _ effect => exact invariant.contributed effect
  | launched _ _ _ effect =>
    exact invariant.rewritten effect.stored effect.accountAfter
      (.of_eq (by rw [effect.frame]; rfl)) (by rw [effect.instruction]; rfl) rfl rfl rfl
  | spent _ _ _ _ _ effect =>
    exact invariant.rewritten effect.stored effect.accountAfter effect.records
      (by rw [effect.instruction]; rfl) rfl rfl rfl
  | repeated _ _ _ effect =>
    exact invariant.of_same (by rw [effect.same]) (.of_eq (by rw [effect.same]))
      (by rw [effect.instruction]; rfl)
  | settled _ _ _ _ _ _ _ effect =>
    exact invariant.rewritten effect.stored effect.accountAfter
      (.of_eq (by rw [effect.frame]; rfl)) (by rw [effect.instruction]; rfl) rfl rfl rfl
  | claimed accounts account record _ _ _ _ effect =>
    intro live found
    rw [effect.accountAfter, Option.some.injEq] at found
    subst found
    refine (invariant account effect.stored).quiet (by rw [effect.instruction]; rfl) ?_
      rfl rfl rfl
    intro contributor booked
    -- Only the claimant's record is written, and only its claimed mark.
    by_cases same : contributor = accounts.contributor
    · subst same
      rw [effect.written.record]
      rw [effect.stake] at booked
      exact booked.of_same_amount rfl rfl
    · rw [effect.written.others contributor same]
      exact booked
  | refunded _ _ _ _ _ effect => exact invariant.refunded effect
  | marked _ _ effect =>
    exact invariant.rewritten effect.stored effect.accountAfter
      (.of_eq (by rw [effect.frame]; rfl)) (by rw [effect.instruction]; rfl) rfl rfl rfl
  | closed _ _ effect =>
    -- Without an account there are no books to keep.
    intro live found
    rw [effect.accountAfter] at found
    cases found
  | endowed _ _ effect =>
    exact invariant.of_same effect.account effect.records (by rw [effect.instruction]; rfl)

end Books

/-- Every live pool of every reachable state has its books kept. -/
theorem run_ledger {env : Env} {start world : World} {history : List Transition}
    (genesis : Genesis start) (run : Run env start history world) (creator : Pubkey)
    (seed : UInt64) : LedgerInvariant (.pool creator seed) history world := by
  apply run.extends
  · -- Before the first call there is no pool to keep books of.
    intro account stored
    rw [genesis.noPools] at stored
    cases stored
  · -- The pool invariant before the step says which records an opening finds.
    intro past pre action post before invariant taken
    exact invariant.effect (run_poolInvariant genesis before creator seed)
      (step_effect (run_recordsAtHome genesis before) taken)

end Batchit
