import Batchit.Token

/-! Laws of the token program: supplies are conserved, and an owner's tokens stay put. -/

namespace Batchit

namespace Tokens

/-! ### Supplies -/

/-- Two accounts of one mint together hold no more than was issued of it. -/
theorem add_le_supply {tokens : Tokens} {first second : Pubkey} {one two : TokenAccount}
    (differ : first ≠ second) (foundOne : tokens.lookup first = some one)
    (foundTwo : tokens.lookup second = some two) (sameMint : one.mint = two.mint) :
    one.amount.toNat + two.amount.toNat ≤ tokens.supply two.mint := by
  -- Both count in full towards the supply of their mint.
  have bound := Store.add_le_total (issued two.mint) differ foundOne foundTwo
  rw [issued, if_pos sameMint, issued, if_pos rfl] at bound
  exact bound

/-- A transfer issues nothing and destroys nothing. -/
theorem transfer_supply {tokens after : Tokens} {source destination authority : Pubkey}
    {amount : UInt64} (moved : tokens.transfer source destination authority amount = .ok after)
    (mint : Pubkey) : after.supply mint = tokens.supply mint := by
  -- A transfer to itself changes nothing; any other one debits and credits the same mint.
  by_cases differ : source = destination
  · subst differ
    rw [transfer_self moved]
  · obtain ⟨paying, paid, rest, sum, payingAt, paidAt, sameMint, -, left, reached, rfl⟩ :=
      (transfer_ok differ).mp moved
    have debit := Store.total_insert (issued mint) source { paying with amount := rest } tokens
    -- The destination is read after the debit, which wrote another account.
    have credit := Store.total_insert (issued mint) destination { paid with amount := sum }
      (tokens.insert source { paying with amount := rest })
    rw [payingAt, Option.elim_some] at debit
    rw [AList.lookup_insert_ne (Ne.symm differ), paidAt, Option.elim_some] at credit
    simp only [issued] at debit credit
    unfold supply
    by_cases ofMint : paid.mint = mint
    · rw [if_pos (sameMint.trans ofMint), if_pos (sameMint.trans ofMint)] at debit
      rw [if_pos ofMint, if_pos ofMint] at credit
      omega
    · have notOfMint : paying.mint ≠ mint := by
        rw [sameMint]
        exact ofMint
      rw [if_neg notOfMint, if_neg notOfMint] at debit
      rw [if_neg ofMint, if_neg ofMint] at credit
      omega

/-- A transfer takes its amount from one balance and adds it to another. -/
theorem transfer_balances {tokens after : Tokens} {source destination authority : Pubkey}
    {amount : UInt64} (differ : source ≠ destination)
    (moved : tokens.transfer source destination authority amount = .ok after) :
    after.balance destination = tokens.balance destination + amount.toNat ∧
      after.balance source + amount.toNat = tokens.balance source := by
  obtain ⟨paying, paid, rest, sum, payingAt, paidAt, -, -, left, reached, rfl⟩ :=
    (transfer_ok differ).mp moved
  constructor
  · -- The credited account is written last.
    rw [balance, AList.lookup_insert, balance, paidAt]
    exact reached
  · -- The write of the credited account does not reach the debited one.
    rw [balance, AList.lookup_insert_ne differ, AList.lookup_insert, balance, payingAt]
    exact left

/-- A burn destroys tokens and issues none. -/
theorem burn_supply {tokens after : Tokens} {address named authority : Pubkey} {amount : UInt64}
    (burnt : tokens.burn address named authority amount = .ok after) (mint : Pubkey) :
    after.supply mint ≤ tokens.supply mint := by
  obtain ⟨account, rest, stored, -, -, left, rfl⟩ := burn_ok.mp burnt
  -- The one account written measures less than before, in its own mint.
  have debit := Store.total_insert (issued mint) address { account with amount := rest } tokens
  rw [stored, Option.elim_some] at debit
  simp only [issued] at debit
  unfold supply
  split at debit <;> omega

/-- Rewriting an account at its own mint and amount leaves every supply alone. -/
theorem rewrite_supply {tokens : Tokens} {address : Pubkey} {account new : TokenAccount}
    (stored : tokens.lookup address = some account) (mint : new.mint = account.mint)
    (amount : new.amount = account.amount) (named : Pubkey) :
    Tokens.supply (tokens.insert address new) named = tokens.supply named := by
  unfold supply
  apply Store.total_insert_same
  -- The old account and the new one measure the same.
  rw [stored, Option.elim_some, issued, issued, mint, amount]

/-- No instruction from outside takes a supply past its 64 bits. -/
theorem process_supply {tokens after : Tokens} {instruction : TokenInstruction}
    (processed : tokens.process instruction = .ok after)
    (bounded : ∀ mint, tokens.supply mint < 2 ^ 64) (mint : Pubkey) :
    after.supply mint < 2 ^ 64 := by
  have before := bounded mint
  -- Only minting adds to a supply, and it is refused where the sum would not fit.
  cases instruction with
  | initializeAccount address named owner =>
    simp only [process, bind_eq_ok, constraint_eq_ok, pure_eq_ok, exists_const] at processed
    obtain ⟨-, unused, rfl⟩ := processed
    -- A new account holds nothing.
    have opened := Store.total_insert (issued mint) address { mint := named, owner, amount := 0 }
      tokens
    rw [unused, Option.elim_none] at opened
    simp only [issued, UInt64.toNat_zero, ite_self] at opened
    unfold supply at before ⊢
    omega
  | mintTo address amount =>
    simp only [process, bind_eq_ok, found_eq_ok, constraint_eq_ok, pure_eq_ok, exists_const,
      UInt64.checkedAdd_eq_some] at processed
    -- The check is on the mint's own supply, of which this account is a part.
    obtain ⟨account, stored, fits, sum, reached, rfl⟩ := processed
    have credit := Store.total_insert (issued mint) address { account with amount := sum } tokens
    rw [stored, Option.elim_some] at credit
    simp only [issued] at credit
    unfold supply at before fits ⊢
    split at credit
    · rename_i same
      rw [same] at fits
      omega
    · omega
  | transfer source destination authority amount =>
    simp only [process, bind_eq_ok, constraint_eq_ok, exists_const] at processed
    rcases transferBy_ok processed.2 with owner | rfl | ⟨account, rest, stored, -, -, delegated⟩
    · rw [transfer_supply owner]
      exact before
    · exact before
    · -- The approval is written first, and holds nothing itself.
      rw [transfer_supply delegated, rewrite_supply stored (by rfl) (by rfl)]
      exact before
  | burn address named authority amount =>
    simp only [process, bind_eq_ok, constraint_eq_ok, exists_const] at processed
    rcases burnBy_ok processed.2 with owner | ⟨account, rest, stored, -, -, delegated⟩
    · exact (burn_supply owner mint).trans_lt before
    · have burnt := burn_supply delegated mint
      rw [rewrite_supply stored (by rfl) (by rfl)] at burnt
      exact burnt.trans_lt before
  | approve address delegate authority amount =>
    simp only [process, bind_eq_ok, found_eq_ok, constraint_eq_ok, exists_const] at processed
    obtain ⟨account, stored, -, processed⟩ := processed
    split at processed
    · obtain rfl := pure_eq_ok.mp processed
      rw [rewrite_supply stored (by rfl) (by rfl)]
      exact before
    · cases processed
  | revoke address authority =>
    simp only [process, bind_eq_ok, found_eq_ok, constraint_eq_ok, pure_eq_ok,
      exists_const] at processed
    obtain ⟨-, account, stored, -, rfl⟩ := processed
    rw [rewrite_supply stored (by rfl) (by rfl)]
    exact before
  | setOwner address authority owner =>
    simp only [process, bind_eq_ok, found_eq_ok, constraint_eq_ok, pure_eq_ok,
      exists_const] at processed
    obtain ⟨-, account, stored, -, rfl⟩ := processed
    -- A change of owner leaves mint and amount alone.
    rw [rewrite_supply stored (by rfl) (by rfl)]
    exact before
  | closeAccount address =>
    simp only [process, bind_eq_ok, found_eq_ok, constraint_eq_ok, pure_eq_ok,
      exists_const] at processed
    obtain ⟨account, stored, empty, rfl⟩ := processed
    -- Erasing an account only takes away from a supply.
    have closed := Store.total_erase (issued mint) address tokens
    unfold supply at before ⊢
    omega

/-! ### Tokens that stay with their owner -/

/--
An account of the owner and mint holds at least the given amount, unless that is nothing.

What its owner has approved for a delegate does not count, for the delegate may move it at any time.
-/
def Holds (tokens : Tokens) (address owner mint : Pubkey) (least : Nat) : Prop :=
  least = 0 ∨ ∃ account, tokens.lookup address = some account ∧ account.owner = owner ∧
    account.mint = mint ∧ least + account.approved ≤ account.amount.toNat

/-- An account this program signs for holds all of its amount, for nothing of it is approved. -/
theorem Holds.of_derived {tokens : Tokens} {address owner mint : Pubkey} {least : Nat}
    {account : TokenAccount} (stored : tokens.lookup address = some account)
    (derived : owner.isProgramDerived = true) (owned : account.owner = owner)
    (ofMint : account.mint = mint) (enough : least ≤ account.amount.toNat) :
    tokens.Holds address owner mint least := by
  refine .inr ⟨account, stored, owned, ofMint, ?_⟩
  rw [TokenAccount.approved_of_derived (owned ▸ derived)]
  exact enough

/-- Holding an amount is holding any smaller one. -/
theorem Holds.mono {tokens : Tokens} {address owner mint : Pubkey} {least less : Nat}
    (holds : tokens.Holds address owner mint least) (fewer : less ≤ least) :
    tokens.Holds address owner mint less := by
  rcases holds with nothing | ⟨account, stored, owned, ofMint, enough⟩
  · exact .inl (by omega)
  · exact .inr ⟨account, stored, owned, ofMint, by omega⟩

/-- What an account is held to hold, it holds. -/
theorem Holds.le_balance {tokens : Tokens} {address owner mint : Pubkey} {least : Nat}
    (holds : tokens.Holds address owner mint least) : least ≤ tokens.balance address := by
  -- What is approved for a delegate is counted on top.
  rcases holds with nothing | ⟨account, stored, -, -, enough⟩
  · omega
  · rw [balance, stored, Option.elim_some]
    exact (Nat.le_add_right _ _).trans enough

/-- What an account is held to hold, its owner holds in all. -/
theorem Holds.le_holdings {tokens : Tokens} {address owner mint : Pubkey} {least : Nat}
    (holds : tokens.Holds address owner mint least) : least ≤ tokens.holdings owner mint := by
  rcases holds with nothing | ⟨account, stored, owned, ofMint, enough⟩
  · omega
  · -- The account is one of those its owner's holdings are summed over.
    have bound := Store.le_total (held owner mint) stored
    rw [held, if_pos ⟨owned, ofMint⟩] at bound
    exact ((Nat.le_add_right _ _).trans enough).trans bound

/-- Writing another account leaves what one holds alone. -/
theorem Holds.insert_ne {tokens : Tokens} {address other owner mint : Pubkey} {least : Nat}
    {account : TokenAccount} (holds : tokens.Holds address owner mint least)
    (differ : address ≠ other) : Holds (tokens.insert other account) address owner mint least := by
  rcases holds with nothing | ⟨held, stored, kept⟩
  · exact .inl nothing
  · exact .inr ⟨held, (AList.lookup_insert_ne differ).trans stored, kept⟩

/-- Crediting an account, or writing another, leaves an owner holding what it held. -/
theorem Holds.credit {tokens : Tokens} {address other owner mint : Pubkey} {least : Nat}
    {paid : TokenAccount} {sum : UInt64} (holds : tokens.Holds address owner mint least)
    (stored : tokens.lookup other = some paid) (more : paid.amount.toNat ≤ sum.toNat) :
    Holds (tokens.insert other { paid with amount := sum }) address owner mint least := by
  -- Either the credited account is the one that holds, and now holds more, or it is another.
  by_cases same : address = other
  · subst same
    rcases holds with nothing | ⟨account, found, owned, ofMint, enough⟩
    · exact .inl nothing
    · rw [stored, Option.some.injEq] at found
      subst found
      exact .inr ⟨{ paid with amount := sum }, AList.lookup_insert _, owned, ofMint,
        enough.trans more⟩
  · exact holds.insert_ne same

/-- Debiting an account leaves its owner holding what is left of what it held. -/
theorem Holds.debit {tokens : Tokens} {address other owner mint : Pubkey} {least amount : Nat}
    {paying : TokenAccount} {rest : UInt64} (holds : tokens.Holds address owner mint least)
    (stored : tokens.lookup other = some paying)
    (left : rest.toNat + amount = paying.amount.toNat) :
    Holds (tokens.insert other { paying with amount := rest }) address owner mint
      (least - amount) := by
  -- Either the debited account is the one that holds, or it is another.
  by_cases same : address = other
  · subst same
    rcases holds with nothing | ⟨account, found, owned, ofMint, enough⟩
    · -- Nothing less anything is nothing.
      exact .inl (by omega)
    · rw [stored, Option.some.injEq] at found
      subst found
      -- The approval stays as it was, so the debit comes off what is held beyond it, if anything.
      by_cases spent : least ≤ amount
      · exact .inl (by omega)
      · refine .inr ⟨{ paying with amount := rest }, AList.lookup_insert _, owned, ofMint, ?_⟩
        change least - amount + paying.approved ≤ rest.toNat
        omega
  · exact (holds.insert_ne same).mono (Nat.sub_le _ _)

/-- Debiting an account of someone else leaves an owner holding what it held. -/
theorem Holds.debit_other {tokens : Tokens} {address other owner mint : Pubkey} {least : Nat}
    {paying account : TokenAccount} (holds : tokens.Holds address owner mint least)
    (stored : tokens.lookup other = some paying) (foreign : paying.owner ≠ owner) :
    Holds (tokens.insert other account) address owner mint least := by
  by_cases same : address = other
  · subst same
    -- The account would have two owners, unless nothing is held there.
    rcases holds with nothing | ⟨held, found, owned, -⟩
    · exact .inl nothing
    · rw [stored, Option.some.injEq] at found
      subst found
      exact absurd owned foreign
  · exact holds.insert_ne same

/-- A transfer signed for by someone else takes nothing from an owner. -/
theorem Holds.transfer_other {tokens after : Tokens}
    {address owner mint source destination authority : Pubkey} {least : Nat} {amount : UInt64}
    (holds : tokens.Holds address owner mint least) (foreign : authority ≠ owner)
    (moved : tokens.transfer source destination authority amount = .ok after) :
    after.Holds address owner mint least := by
  by_cases differ : source = destination
  · subst differ
    rw [transfer_self moved]
    exact holds
  · obtain ⟨paying, paid, rest, sum, payingAt, paidAt, -, signed, left, reached, rfl⟩ :=
      (transfer_ok differ).mp moved
    -- The debited account is the signer's own, and the credited one only gains.
    have debited : Holds (tokens.insert source { paying with amount := rest }) address owner mint
        least := holds.debit_other payingAt (by rw [signed]; exact foreign)
    have stored : (tokens.insert source { paying with amount := rest }).lookup destination
        = some paid := (AList.lookup_insert_ne (Ne.symm differ)).trans paidAt
    exact debited.credit stored (by omega)

/-- A transfer takes no more from any account than its amount. -/
theorem Holds.transfer {tokens after : Tokens}
    {address owner mint source destination authority : Pubkey} {least : Nat} {amount : UInt64}
    (holds : tokens.Holds address owner mint least)
    (moved : tokens.transfer source destination authority amount = .ok after) :
    after.Holds address owner mint (least - amount.toNat) := by
  by_cases differ : source = destination
  · subst differ
    rw [transfer_self moved]
    exact holds.mono (Nat.sub_le _ _)
  · obtain ⟨paying, paid, rest, sum, payingAt, paidAt, -, -, left, reached, rfl⟩ :=
      (transfer_ok differ).mp moved
    -- The credited account still reads as before the debit.
    have stored : (tokens.insert source { paying with amount := rest }).lookup destination
        = some paid := (AList.lookup_insert_ne (Ne.symm differ)).trans paidAt
    exact (holds.debit payingAt left).credit stored (by omega)

/-- A burn signed for by someone else takes nothing from an owner. -/
theorem Holds.burn_other {tokens after : Tokens} {address owner mint burning named authority : Pubkey}
    {least : Nat} {amount : UInt64} (holds : tokens.Holds address owner mint least)
    (foreign : authority ≠ owner)
    (burnt : tokens.burn burning named authority amount = .ok after) :
    after.Holds address owner mint least := by
  obtain ⟨account, rest, stored, -, signed, -, rfl⟩ := burn_ok.mp burnt
  exact holds.debit_other stored (by rw [signed]; exact foreign)

/-- A burn takes no more from any account than its amount. -/
theorem Holds.burn {tokens after : Tokens} {address owner mint burning named authority : Pubkey}
    {least : Nat} {amount : UInt64} (holds : tokens.Holds address owner mint least)
    (burnt : tokens.burn burning named authority amount = .ok after) :
    after.Holds address owner mint (least - amount.toNat) := by
  obtain ⟨account, rest, stored, -, -, left, rfl⟩ := burn_ok.mp burnt
  exact holds.debit stored left

/-- Once an approval is used, its account holds so much more beyond it. -/
theorem Holds.approval_used {tokens : Tokens} {address owner mint authority : Pubkey}
    {least amount : Nat} {account : TokenAccount} {rest : UInt64}
    (holds : tokens.Holds address owner mint least) (some' : least ≠ 0)
    (stored : tokens.lookup address = some account) (delegate : account.delegate = some authority)
    (left : rest.toNat + amount = account.delegatedAmount.toNat) :
    Holds (tokens.insert address (account.withApproval rest)) address owner mint
      (least + amount) := by
  rcases holds with nothing | ⟨held, found, owned, ofMint, enough⟩
  · exact absurd nothing some'
  · rw [stored, Option.some.injEq] at found
    subst found
    refine .inr ⟨_, AList.lookup_insert _, owned, ofMint, ?_⟩
    -- What the approval lost, the rest of the amount gained.
    have before : account.approved = account.delegatedAmount.toNat := by
      rw [TokenAccount.approved, delegate, Option.elim_some]
    rw [TokenAccount.approved_withApproval delegate]
    rw [before] at enough
    change _ ≤ account.amount.toNat
    omega

/-- A transfer takes nothing from any account but its source. -/
theorem Holds.transfer_away {tokens after : Tokens}
    {address owner mint source destination authority : Pubkey} {least : Nat} {amount : UInt64}
    (holds : tokens.Holds address owner mint least) (away : address ≠ source)
    (moved : tokens.transfer source destination authority amount = .ok after) :
    after.Holds address owner mint least := by
  by_cases differ : source = destination
  · subst differ
    rw [transfer_self moved]
    exact holds
  · obtain ⟨paying, paid, rest, sum, payingAt, paidAt, -, -, left, reached, rfl⟩ :=
      (transfer_ok differ).mp moved
    -- The credited account still reads as before the debit, which was of another account.
    have stored : (tokens.insert source { paying with amount := rest }).lookup destination
        = some paid := (AList.lookup_insert_ne (Ne.symm differ)).trans paidAt
    exact (holds.insert_ne away).credit stored (by omega)

/-- A transfer that someone else signs for takes nothing beyond what was approved. -/
theorem Holds.transferBy_other {tokens after : Tokens}
    {address owner mint source destination authority : Pubkey} {least : Nat} {amount : UInt64}
    (holds : tokens.Holds address owner mint least) (foreign : authority ≠ owner)
    (moved : tokens.transferBy source destination authority amount = .ok after) :
    after.Holds address owner mint least := by
  rcases transferBy_ok moved with byOwner | rfl | ⟨account, rest, stored, delegate, left, moved⟩
  · exact holds.transfer_other foreign byOwner
  · exact holds
  · by_cases nothing : least = 0
    · exact .inl nothing
    · by_cases same : address = source
      · subst same
        -- The amount comes off the approval, and so not off what is held beyond it.
        have used := (holds.approval_used nothing stored delegate left).transfer moved
        rwa [Nat.add_sub_cancel] at used
      · exact (holds.insert_ne same).transfer_away same moved

/-- A burn that someone else signs for takes nothing beyond what was approved. -/
theorem Holds.burnBy_other {tokens after : Tokens}
    {address owner mint burning named authority : Pubkey} {least : Nat} {amount : UInt64}
    (holds : tokens.Holds address owner mint least) (foreign : authority ≠ owner)
    (burnt : tokens.burnBy burning named authority amount = .ok after) :
    after.Holds address owner mint least := by
  rcases burnBy_ok burnt with byOwner | ⟨account, rest, stored, delegate, left, burnt⟩
  · exact holds.burn_other foreign byOwner
  · by_cases nothing : least = 0
    · exact .inl nothing
    · by_cases same : address = burning
      · subst same
        -- The amount comes off the approval, and so not off what is held beyond it.
        have used := (holds.approval_used nothing stored delegate left).burn burnt
        rwa [Nat.add_sub_cancel] at used
      · obtain ⟨_, _, -, -, -, -, rfl⟩ := burn_ok.mp burnt
        exact (holds.insert_ne same).insert_ne same

/-- No instruction takes anything from an owner that does not sign it, approvals aside. -/
theorem Holds.process_unsigned {tokens after : Tokens} {address owner mint : Pubkey} {least : Nat}
    {instruction : TokenInstruction} (holds : tokens.Holds address owner mint least)
    (unsigned : owner ∉ instruction.signers)
    (processed : tokens.process instruction = .ok after) :
    after.Holds address owner mint least := by
  -- Whoever signs is not the owner.
  have foreign {authority : Pubkey} (signs : authority ∈ instruction.signers) :
      authority ≠ owner := by
    intro same
    rw [same] at signs
    exact unsigned signs
  cases instruction with
  | initializeAccount opened named owned =>
    simp only [Tokens.process, bind_eq_ok, constraint_eq_ok, pure_eq_ok, exists_const] at processed
    obtain ⟨-, unused, rfl⟩ := processed
    by_cases same : address = opened
    · subst same
      -- Nothing can be held at an address where there is no account yet.
      rcases holds with nothing | ⟨account, found, -⟩
      · exact .inl nothing
      · rw [unused] at found
        cases found
    · exact holds.insert_ne same
  | mintTo credited amount =>
    simp only [Tokens.process, bind_eq_ok, found_eq_ok, constraint_eq_ok, pure_eq_ok, exists_const,
      UInt64.checkedAdd_eq_some] at processed
    obtain ⟨account, stored, -, sum, reached, rfl⟩ := processed
    exact holds.credit stored (by omega)
  | transfer source destination authority amount =>
    simp only [Tokens.process, bind_eq_ok, constraint_eq_ok, exists_const] at processed
    exact holds.transferBy_other (foreign (.head _)) processed.2
  | burn burning named authority amount =>
    simp only [Tokens.process, bind_eq_ok, constraint_eq_ok, exists_const] at processed
    exact holds.burnBy_other (foreign (.head _)) processed.2
  | approve approving delegate authority amount =>
    simp only [Tokens.process, bind_eq_ok, found_eq_ok, constraint_eq_ok, exists_const] at processed
    obtain ⟨account, stored, signed, processed⟩ := processed
    split at processed
    · obtain rfl := pure_eq_ok.mp processed
      exact holds.debit_other stored (by rw [signed]; exact foreign (.head _))
    · cases processed
  | revoke revoking authority =>
    simp only [Tokens.process, bind_eq_ok, found_eq_ok, constraint_eq_ok, pure_eq_ok,
      exists_const] at processed
    obtain ⟨-, account, stored, signed, rfl⟩ := processed
    exact holds.debit_other stored (by rw [signed]; exact foreign (.head _))
  | setOwner changed authority owned =>
    simp only [Tokens.process, bind_eq_ok, found_eq_ok, constraint_eq_ok, pure_eq_ok,
      exists_const] at processed
    obtain ⟨-, account, stored, signed, rfl⟩ := processed
    exact holds.debit_other stored (by rw [signed]; exact foreign (.head _))
  | closeAccount closed =>
    simp only [Tokens.process, bind_eq_ok, found_eq_ok, constraint_eq_ok, pure_eq_ok,
      exists_const] at processed
    obtain ⟨account, stored, empty, rfl⟩ := processed
    rcases holds with nothing | ⟨held, found, owned, ofMint, enough⟩
    · exact .inl nothing
    · by_cases same : address = closed
      · subst same
        -- Only an empty account closes, so what it held was nothing.
        rw [stored, Option.some.injEq] at found
        subst found
        rw [empty, UInt64.toNat_zero] at enough
        exact .inl (by omega)
      · exact .inr ⟨held, (AList.lookup_erase_ne same).trans found, owned, ofMint, enough⟩

/-- Nobody this program signs for signs an instruction from outside. -/
theorem process_signers {tokens after : Tokens} {instruction : TokenInstruction}
    (processed : tokens.process instruction = .ok after) {signing : Pubkey}
    (signs : signing ∈ instruction.signers) : signing.isProgramDerived = false := by
  -- Each instruction that names a signer asks first that it can sign from outside.
  cases instruction with
  | initializeAccount opened mint owner =>
    simp only [process, bind_eq_ok, constraint_eq_ok, exists_const] at processed
    rw [List.mem_singleton.mp signs]
    exact processed.1
  | transfer source destination authority amount =>
    simp only [process, bind_eq_ok, constraint_eq_ok, exists_const] at processed
    rw [List.mem_singleton.mp signs]
    exact processed.1
  | burn address mint authority amount =>
    simp only [process, bind_eq_ok, constraint_eq_ok, exists_const] at processed
    rw [List.mem_singleton.mp signs]
    exact processed.1
  | approve address delegate authority amount =>
    simp only [process, bind_eq_ok, found_eq_ok, constraint_eq_ok, exists_const] at processed
    obtain ⟨account, -, owned, processed⟩ := processed
    split at processed
    · rename_i outside
      rw [List.mem_singleton.mp signs, ← owned]
      exact outside
    · cases processed
  | revoke address authority =>
    simp only [process, bind_eq_ok, constraint_eq_ok, exists_const] at processed
    rw [List.mem_singleton.mp signs]
    exact processed.1
  | setOwner address authority owner =>
    simp only [process, bind_eq_ok, constraint_eq_ok, exists_const] at processed
    rw [List.mem_singleton.mp signs]
    exact processed.1
  | mintTo address amount => cases signs
  | closeAccount address => cases signs

/-- No instruction from outside takes anything from an owner this program signs for. -/
theorem Holds.process {tokens after : Tokens} {address owner mint : Pubkey} {least : Nat}
    {instruction : TokenInstruction} (holds : tokens.Holds address owner mint least)
    (derived : owner.isProgramDerived = true)
    (processed : tokens.process instruction = .ok after) :
    after.Holds address owner mint least := by
  -- No account of the program's signs a token instruction from outside.
  apply holds.process_unsigned ?_ processed
  intro signs
  rw [process_signers processed signs] at derived
  cases derived

end Tokens

end Batchit
