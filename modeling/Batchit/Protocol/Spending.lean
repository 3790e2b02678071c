import Batchit.Protocol.Custody

/-! The lamports of a pool's buyer: only the pool's buy takes any, and what it leaves stays. -/

namespace Batchit

open Machine

/-! ### Who is debited -/

/-- The accounts an instruction can leave with fewer lamports. -/
def Instruction.payers : Instruction → List Pubkey
  | .createPool accounts _ => [accounts.creator]
  | .contribute accounts _ => [accounts.contributor]
  | .completeBuy accounts _ => [accounts.pool, accounts.buyer]
  | .refund accounts => [accounts.pool]
  | .closePool accounts => [accounts.pool]
  | .systemTransfer source _ _ => [source]
  | .pumpTrade side trader mint _ _ => [side.payer trader mint]
  | _ => []

/-- Whether an instruction takes lamports from an account this program signs for. -/
def Instruction.debits (address : Pubkey) : Instruction → Bool
  | .completeBuy accounts _ => accounts.pool = address ∨ accounts.buyer = address
  | .refund accounts => accounts.pool = address
  | .closePool accounts => accounts.pool = address
  | _ => false

/-- Whoever is not a payer of a step has no fewer lamports after it. -/
theorem step_payers {env : Env} {world after : World} {action : Action} {address : Pubkey}
    (home : world.RecordsAtHome) (taken : step env world action = .ok after)
    (other : address ∉ action.instruction.payers) :
    (world.lamports address).toNat ≤ (after.lamports address).toNat := by
  obtain ⟨now, instruction⟩ := action
  cases instruction with
  | createPool accounts args =>
    obtain ⟨paid, _, signed, target, -, -, rent, -, -, -, -, -, -, rfl⟩ := createPool_ok.mp taken
    have differ : accounts.creator ≠ accounts.pool :=
      Pubkey.ne_of_canSign signed (by rw [target]; rfl)
    exact (World.moveLamports_moved differ rent).le (List.ne_of_not_mem_cons other)
  | contribute accounts amount =>
    obtain ⟨account, opened, allocated, paid, _, _, _, signed, loaded, record, ready, -, -, -, -, -,
      -, transferred, -, -, -, -, rfl⟩ := (contribute_ok home.stakes).mp taken
    have moved := World.moveLamports_moved (signer_ne_pool signed loaded) transferred
    have deposited := moved.le (List.ne_of_not_mem_cons other)
    -- The rent of a new record comes from the same wallet.
    rcases initIfNeeded_paid signed record ready with rfl | ⟨rent, rented⟩
    · exact deposited
    · exact (rented.le (List.ne_of_not_mem_cons other)).trans deposited
  | beginLaunch accounts mint =>
    obtain ⟨_, -, -, -, -, -, -, -, -, rfl⟩ := beginLaunch_ok.mp taken
    exact Nat.le_refl _
  | completeBuy accounts minTokensOut =>
    have notPool : address ≠ accounts.pool := List.ne_of_not_mem_cons other
    have notBuyer : address ≠ accounts.buyer :=
      List.ne_of_not_mem_cons (List.not_mem_of_not_mem_cons other)
    obtain ⟨account, credited, checked, done⟩ := completeBuy_ok.mp taken
    rcases done with ⟨-, rfl⟩ | ⟨edited, filled, reloaded, -, -, -, -, -, -, -, moved, called, -, -,
      rfl⟩
    · exact Nat.le_refl _
    · obtain ⟨_, fill, paid, tokens, -, -, -, -, -, -, foreign, payments, -, rfl⟩ :=
        cpiBuyExactSolIn_ok.mp called
      have edit := World.moveLamports_moved (pool_ne_buyer checked.loaded checked.buyer) moved
      have out := Fill.paidOut (derived_of_buyerSeeds checked.buyer) foreign payments
      -- The escrow leaves the pool and the curve's price the buyer, neither of them the account.
      exact (edit.le notPool).trans (out.more address notBuyer)
  | finalize accounts =>
    obtain ⟨_, _, _, _, _, _, _, -, -, -, -, -, -, -, -, -, -, -, -, -, rfl⟩ :=
      finalize_ok.mp taken
    exact Nat.le_refl _
  | claim accounts =>
    obtain ⟨_, _, _, _, _, _, _, -, -, -, -, -, -, -, -, -, -, rfl⟩ := claim_ok.mp taken
    exact Nat.le_refl _
  | refund accounts =>
    obtain ⟨_, _, _, _, paid, signed, loaded, -, -, -, -, -, -, -, -, edited, rfl⟩ :=
      refund_ok.mp taken
    have moved := World.moveLamports_moved (signer_ne_pool signed loaded).symm edited
    exact moved.le (List.ne_of_not_mem_cons other)
  | markRefundable accounts =>
    obtain ⟨_, -, -, -, -, rfl⟩ := markRefundable_ok.mp taken
    exact Nat.le_refl _
  | closePool accounts =>
    obtain ⟨_, paid, signed, loaded, -, -, -, transferred, rfl⟩ := closePool_ok.mp taken
    have moved := World.moveLamports_moved (signer_ne_pool signed loaded).symm transferred
    exact moved.le (List.ne_of_not_mem_cons other)
  | systemTransfer source target amount =>
    simp only [step, bind_eq_ok, constraint_eq_ok, exists_const] at taken
    obtain ⟨-, differ, transferred⟩ := taken
    exact (World.moveLamports_moved differ transferred).le (List.ne_of_not_mem_cons other)
  | token instruction =>
    simp only [step, bind_eq_ok, pure_eq_ok] at taken
    obtain ⟨tokens, -, rfl⟩ := taken
    exact Nat.le_refl _
  | writeAccount written info =>
    simp only [step, bind_eq_ok, constraint_eq_ok, exists_const, pure_eq_ok] at taken
    obtain ⟨-, -, rfl⟩ := taken
    exact Nat.le_refl _
  | pumpCreate mint data =>
    simp only [step, bind_eq_ok, constraint_eq_ok, exists_const, pure_eq_ok] at taken
    obtain ⟨-, rfl⟩ := taken
    exact Nat.le_refl _
  | pumpTrade side trader mint amount data =>
    obtain ⟨paid, -, -, -, differ, transferred, rfl⟩ := pumpTrade_ok taken
    exact (World.moveLamports_moved differ transferred).le (List.ne_of_not_mem_cons other)

/-- A payer of a step is one the instruction is meant to debit, or one this program cannot sign for. -/
theorem Instruction.debits_of_payers {env : Env} {world after : World} {action : Action}
    {address : Pubkey} (derived : address.isProgramDerived = true)
    (taken : step env world action = .ok after) (payer : address ∈ action.instruction.payers) :
    action.instruction.debits address = true := by
  -- Whoever signs is not the account.
  have foreign {signer : Pubkey} (signed : signer.canSign = true) : address ≠ signer :=
    (Pubkey.ne_of_canSign signed derived).symm
  obtain ⟨now, instruction⟩ := action
  cases instruction with
  | createPool accounts args =>
    obtain ⟨_, _, signed, -⟩ := createPool_ok.mp taken
    exact absurd (List.mem_singleton.mp payer) (foreign signed)
  | contribute accounts amount =>
    simp only [step, Batchit.contribute, bind_eq_ok, signer_ok] at taken
    obtain ⟨_, signed, -⟩ := taken
    exact absurd (List.mem_singleton.mp payer) (foreign signed)
  | completeBuy accounts minTokensOut =>
    simp only [payers, List.mem_cons, List.not_mem_nil, or_false] at payer
    simp only [debits, decide_eq_true_eq]
    exact payer.imp Eq.symm Eq.symm
  | refund accounts => simp [debits, List.mem_singleton.mp payer]
  | closePool accounts => simp [debits, List.mem_singleton.mp payer]
  | systemTransfer source target amount =>
    simp only [step, bind_eq_ok, constraint_eq_ok, exists_const] at taken
    -- The system program moves nothing out of an address derived by this one.
    rw [List.mem_singleton.mp payer, taken.1] at derived
    cases derived
  | pumpTrade side trader mint amount data =>
    obtain ⟨_, -, -, signs, -⟩ := pumpTrade_ok taken
    -- Nor does a trade.
    rw [List.mem_singleton.mp payer, (side.foreign mint signs).1] at derived
    cases derived
  | _ => cases payer

/-- Only the instructions meant to debit a derived account leave it with less. -/
theorem step_debits {env : Env} {world after : World} {action : Action} {address : Pubkey}
    (home : world.RecordsAtHome) (derived : address.isProgramDerived = true)
    (taken : step env world action = .ok after)
    (other : action.instruction.debits address = false) :
    (world.lamports address).toNat ≤ (after.lamports address).toNat := by
  -- An account of the program's that pays is debited by the instruction.
  apply step_payers home taken
  intro payer
  rw [Instruction.debits_of_payers derived taken payer] at other
  cases other

section Buyer

variable {env : Env} {pool : Pubkey} {before after : World} {action : Action} {account : Pool}

/-- Only a pool's own buy takes lamports from its buyer. -/
theorem buy_of_debited (home : before.RecordsAtHome) (taken : step env before action = .ok after)
    (less : (after.lamports (.buyer pool)).toNat < (before.lamports (.buyer pool)).toNat) :
    ∃ accounts minTokensOut, action.instruction = .completeBuy accounts minTokensOut ∧
      accounts.pool = pool := by
  have debited : action.instruction.debits (.buyer pool) = true := by
    by_contra other
    have kept := step_debits home rfl taken (by simpa using other)
    omega
  obtain ⟨now, instruction⟩ := action
  -- A refund and a closing debit a pool account, which no buyer is.
  cases instruction with
  | completeBuy accounts minTokensOut =>
    simp only [Instruction.debits, decide_eq_true_eq] at debited
    obtain ⟨_, _, checked, -⟩ := completeBuy_ok.mp taken
    have derived := (loadPool_ok.mp checked.loaded).2.1
    have buyer := (buyerSeeds_ok.mp checked.buyer).1
    rcases debited with isPool | isBuyer
    · rw [isPool] at derived
      cases derived
    · rw [isBuyer, Pubkey.buyer.injEq] at buyer
      exact ⟨accounts, minTokensOut, rfl, buyer.symm⟩
  | refund accounts =>
    simp only [Instruction.debits, decide_eq_true_eq] at debited
    obtain ⟨_, _, _, _, _, -, loaded, -⟩ := refund_ok.mp taken
    have derived := (loadPool_ok.mp loaded).2.1
    rw [debited] at derived
    cases derived
  | closePool accounts =>
    simp only [Instruction.debits, decide_eq_true_eq] at debited
    obtain ⟨_, _, -, loaded, -⟩ := closePool_ok.mp taken
    have derived := (loadPool_ok.mp loaded).2.1
    rw [debited] at derived
    cases derived
  | createPool | contribute | beginLaunch | finalize | claim | markRefundable | systemTransfer
  | token | writeAccount | pumpCreate | pumpTrade => cases debited

/-- Once its pool has bought, a buyer is never debited again. -/
theorem Effect.buyer_kept (effect : Effect env pool before action after)
    (home : before.RecordsAtHome) (taken : step env before action = .ok after)
    (stored : before.pools pool = some account)
    (spent : account.status = .Bought ∨ account.status = .Finalized) :
    (before.lamports (.buyer pool)).toNat ≤ (after.lamports (.buyer pool)).toNat := by
  -- Only a buy of the pool could take any, and it has had its one.
  by_contra less
  obtain ⟨accounts, minTokensOut, again, target⟩ :=
    buy_of_debited home taken (Nat.lt_of_not_le less)
  rcases spent with bought | settled
  · -- A repeated buy changes nothing at all.
    rw [effect.same_of_bought stored bought accounts minTokensOut again target] at less
    exact less (Nat.le_refl _)
  · have allowed := effect.allowed stored
    rw [again] at allowed
    simp [Instruction.allowedIn, target, settled] at allowed

/-- What a buy took out of the program and what it left on the buyer cover what it spent. -/
theorem Spent.outlay_add_residue {accounts : CompleteBuyAccounts} {minTokensOut : UInt64}
    {credited : TokenAccount} {fill : Fill}
    (effect : Spent env pool before action after accounts minTokensOut account credited fill) :
    outlay pool ⟨before, action, after⟩ = fill.taken ∧
      residue pool ⟨before, action, after⟩
        = account.totalContributed.toNat - fill.taken := by
  have buying : buys pool ⟨before, action, after⟩ = true := by
    simp [buys, effect.instruction, effect.target, effect.stored, effect.status]
  -- The pool hands the whole total to its buyer, and the curve takes its price from there.
  have paid := effect.lamports
  have received := effect.buyerLamports
  rw [outlay, residue, if_pos buying, if_pos buying]
  simp only
  omega

end Buyer

/-- What a pool spent was taken out of the program, or lies on its buyer. -/
theorem run_spending {env : Env} {start world : World} {history : List Transition}
    (genesis : Genesis start) (run : Run env start history world) {creator : Pubkey}
    {seed : UInt64} {account : Pool} (stored : world.pools (.pool creator seed) = some account)
    (spent : account.status = .Bought ∨ account.status = .Finalized) :
    account.totalContributed.toNat ≤ takenByBuys (.pool creator seed) history
      + leftByBuys (.pool creator seed) history := by
  -- The bound appears with the buy, and both sides keep it from then on.
  induction run generalizing account with
  | nil =>
    rw [genesis.noPools] at stored
    cases stored
  | @cons past before after action earlier taken ih =>
    have effect : Effect env (.pool creator seed) before action after :=
      step_effect (run_recordsAtHome genesis earlier) taken
    have invariant := run_poolInvariant genesis earlier creator seed
    rcases effect.bought_before stored spent with ⟨was, storedWas, spentWas⟩ | buying
    · -- The total is kept, and the tallies only grow.
      have sofar := ih storedWas spentWas
      have sound := invariant.account was storedWas
      have open' := effect.open_of_spent storedWas sound spentWas
      obtain ⟨is, storedIs, advances⟩ := effect.advances storedWas sound open'
      rw [stored, Option.some.injEq] at storedIs
      subst storedIs
      have inside := effect.opens_false storedWas
      rw [advances.continues.total spentWas, takenByBuys, leftByBuys, tally_within _ _ inside,
        tally_within _ _ inside]
      unfold takenByBuys leftByBuys at sofar
      omega
    · -- The buy itself adds what it took and what it left, together at least the total.
      obtain ⟨_, _, was, _, fill, spending⟩ := effect.spent_of_buys buying
      have inside := effect.opens_false spending.stored
      obtain ⟨out, left⟩ := spending.outlay_add_residue
      have bought := spending.accountAfter
      rw [stored, Option.some.injEq] at bought
      rw [takenByBuys, leftByBuys, tally_within _ _ inside, tally_within _ _ inside, out, left,
        bought]
      simp only [Pool.bought]
      omega

end Batchit
