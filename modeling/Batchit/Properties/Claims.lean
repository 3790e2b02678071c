import Batchit.Properties.Custody
import Batchit.Protocol.Records
import Batchit.Protocol.Shares

/-! Claims: every share is exact, paid once, and covered whatever was claimed before it. -/

namespace Batchit

/-- The share of a contributor who paid in what the history says it did, rounded down. -/
def shareOf (pool contributor : Pubkey) (history : List Transition) (account : Pool) : Nat :=
  ProRata.share account.distributable.toNat (accepted pool history)
    (paidIn pool contributor history)

/-- The call by which a contributor asks for its share out of a vault. -/
def claimCall (pool contributor vault contributorAta : Pubkey) (now : Int64) : Action :=
  ⟨now, .claim {
    contributor
    pool
    contribution := .contribution pool contributor
    buyer := .buyer pool
    vaultAta := vault
    contributorAta }⟩

section Owed

variable {env : Env} {start world : World} {history : List Transition} {pool : Pubkey}
variable {account : Pool}

/-- A finalized pool counts everything it accepted, and has paid nothing back. -/
theorem accepted_of_settled (genesis : Genesis start) (run : Run env start history world)
    (stored : world.pools pool = some account) (settled : account.status = .Finalized) :
    accepted pool history = account.totalContributed.toNat ∧ account.totalRefunded = 0 := by
  obtain ⟨creator, seed, rfl⟩ := run_poolsAtHome genesis run stored
  have sound := (run_poolInvariant genesis run creator seed).account account stored
  have ledger := run_ledger genesis run creator seed account stored
  obtain ⟨-, -, kept⟩ := sound.phase.raised (.inr (.inr settled))
  -- Everything accepted is still counted or was paid back, which nothing was.
  have accepted := ledger.accepted
  rw [kept, UInt64.toNat_zero, Nat.add_zero] at accepted
  exact ⟨accepted, kept⟩

/-- What a finalized pool owes a contributor is its share of what it paid in. -/
theorem shareOf_eq (genesis : Genesis start) (run : Run env start history world)
    (stored : world.pools pool = some account) (settled : account.status = .Finalized)
    (contributor : Pubkey) :
    shareOf pool contributor history account = (world.stake pool contributor).elim 0
      (Contribution.shareOwed account.distributable.toNat account.totalContributed.toNat) := by
  obtain ⟨accepted, kept⟩ := accepted_of_settled genesis run stored settled
  obtain ⟨creator, seed, rfl⟩ := run_poolsAtHome genesis run stored
  have ledger := run_ledger genesis run creator seed account stored
  have booked := ledger.booked contributor
  unfold shareOf
  rw [accepted]
  cases found : world.stake (.pool creator seed) contributor with
  | none =>
    -- Without a record nothing was paid in.
    rw [(booked.absent found).2.1, ProRata.share, Nat.mul_zero, Nat.zero_div]
    rfl
  | some record =>
    rw [found] at booked
    rw [Option.elim_some, Contribution.shareOwed]
    cases refunded : record.refunded with
    | false => rw [(booked.staked record rfl refunded).2.1]
    | true =>
      -- A refunded record is left from an earlier life, and this one paid nothing back.
      have sound := (run_poolInvariant genesis run creator seed).soundRecords stored _ _ found
      have amount := sound.emptied refunded
      have returned := ledger.returned contributor
      rw [kept, UInt64.toNat_zero, booked.settled record rfl refunded] at returned
      rw [amount, Nat.le_zero.mp returned, UInt64.toNat_zero]

/-- The shares a finalized pool has paid stay within what it distributes. -/
theorem claimed_le (genesis : Genesis start) (run : Run env start history world)
    (stored : world.pools pool = some account) (settled : account.status = .Finalized) :
    account.totalClaimed.toNat ≤ account.distributable.toNat := by
  obtain ⟨creator, seed, rfl⟩ := run_poolsAtHome genesis run stored
  have invariant := run_poolInvariant genesis run creator seed
  have backed := invariant.backed account stored
  have positive := (invariant.account account stored).spent_positive (.inr settled)
  -- Paid is at most owed, and what is owed is rounded down.
  calc account.totalClaimed.toNat
    _ = world.stakeTotal (.pool creator seed) (Contribution.sharePaid account.distributable.toNat
          account.totalContributed.toNat) := backed.claimed
    _ ≤ world.stakeTotal (.pool creator seed) (Contribution.shareOwed account.distributable.toNat
          account.totalContributed.toNat) := sharePaid_le_shareOwed ..
    _ ≤ account.distributable.toNat := shareOwed_le positive backed.total.symm

end Owed

/-! ### A claim that is due succeeds -/

/-- A vault that holds a share pays it into another owner's account of the same mint. -/
theorem payShare_covered {tokens : Tokens} {vault contributorAta buyer mint : Pubkey} {least : Nat}
    {share : UInt64} {held : TokenAccount} (covers : tokens.Holds vault buyer mint least)
    (positive : 0 < share) (enough : share.toNat ≤ least)
    (ata : tokens.lookup contributorAta = some held) (foreign : held.owner ≠ buyer)
    (sameMint : held.mint = mint) (fits : tokens.supply mint < 2 ^ 64) :
    ∃ paying after, tokens.lookup vault = some paying ∧ paying.owner = buyer ∧
      paying.mint = mint ∧ payShare tokens vault contributorAta buyer share = .ok after ∧
      after.balance contributorAta = tokens.balance contributorAta + share.toNat ∧
      after.balance vault + share.toNat = tokens.balance vault := by
  have positiveNat := UInt64.lt_iff_toNat_lt.mp positive
  rw [UInt64.toNat_zero] at positiveNat
  rcases covers with nothing | ⟨paying, payingAt, payingOwner, payingMint, covered⟩
  · omega
  -- The vault is the buyer's and the other account is not.
  have differ : vault ≠ contributorAta := by
    intro same
    rw [same, ata, Option.some.injEq] at payingAt
    rw [← payingAt] at payingOwner
    exact foreign payingOwner
  -- Both accounts are part of one supply, so the credit cannot overflow.
  have together := Tokens.add_le_supply differ payingAt ata (payingMint.trans sameMint.symm)
  rw [sameMint] at together
  obtain ⟨rest, -, left⟩ :=
    UInt64.checkedSub_of_le (a := paying.amount) (b := share) (by omega)
  obtain ⟨sum, -, reached⟩ :=
    UInt64.checkedAdd_of_lt (a := held.amount) (b := share) (by omega)
  have moved : tokens.transfer vault contributorAta buyer share
      = .ok ((tokens.insert vault { paying with amount := rest }).insert contributorAta
        { held with amount := sum }) :=
    (Tokens.transfer_ok differ).mpr ⟨paying, held, rest, sum, payingAt, ata,
      payingMint.trans sameMint.symm, payingOwner, left, reached, rfl⟩
  have balances := Tokens.transfer_balances differ moved
  -- A positive share is paid by that one transfer.
  refine ⟨paying, _, payingAt, payingOwner, payingMint, ?_, balances.1, balances.2⟩
  rw [payShare, if_pos positive]
  exact moved

section Success

variable {env : Env} {creator contributor vault contributorAta : Pubkey} {seed : UInt64}
variable {world : World} {account : Pool} {record : Contribution} {held : TokenAccount}

/-- A share that is owed, unclaimed and covered by a vault is paid in full. -/
theorem claim_succeeds (now : Int64) (home : world.RecordsAtHome)
    (invariant : PoolInvariant env (.pool creator seed) world) (fit : world.SuppliesFit)
    (stored : world.pools (.pool creator seed) = some account)
    (settled : account.status = .Finalized)
    (covers : account.VaultCovers (.pool creator seed) vault world)
    (stake : world.stake (.pool creator seed) contributor = some record)
    (unclaimed : record.claimed = false) (unrefunded : record.refunded = false)
    (owed : 0 < record.shareOwed account.distributable.toNat account.totalContributed.toNat)
    (ata : world.tokens.lookup contributorAta = some held) (owner : held.owner = contributor)
    (mint : held.mint = account.mint) :
    ∃ after, step env world (claimCall (.pool creator seed) contributor vault contributorAta now)
        = .ok after ∧
      after.tokens.balance contributorAta = world.tokens.balance contributorAta
        + record.shareOwed account.distributable.toNat account.totalContributed.toNat ∧
      after.tokens.balance vault
          + record.shareOwed account.distributable.toNat account.totalContributed.toNat
        = world.tokens.balance vault ∧
      ∃ done, after.stake (.pool creator seed) contributor = some done ∧ done.claimed = true := by
  have sound := invariant.account account stored
  have backed := invariant.backed account stored
  have own := invariant.soundRecords stored _ _ stake
  have positive := sound.spent_positive (.inr settled)
  have part := backed.stake_le home stake
  obtain ⟨ofPool, ofContributor⟩ := home.stakes _ _ _ stake
  -- The allocation is exactly the share owed.
  obtain ⟨share, allocated⟩ :=
    allocation_total positive account.distributable record.amount
  have exact : share.toNat
      = record.shareOwed account.distributable.toNat account.totalContributed.toNat :=
    ((allocation_exact part).mp allocated).2
  -- What is left of the distributable amount still covers it.
  have within : account.totalClaimed.toNat + share.toNat ≤ account.distributable.toNat := by
    rw [backed.claimed, exact]
    exact Nat.le_trans (sharePaid_add_le home stake unclaimed)
      (shareOwed_le positive backed.total.symm)
  have width := account.distributable.toNat_lt
  have some' : 0 < share := UInt64.lt_iff_toNat_lt.mpr (by rw [exact]; exact owed)
  obtain ⟨totalClaimed, -, added⟩ :=
    UInt64.checkedAdd_of_lt (a := account.totalClaimed) (b := share) (by omega)
  -- The vault holds at least that much, so it is there and pays.
  unfold Pool.VaultCovers at covers
  simp only [Pool.vaulted, settled, if_true] at covers
  have foreign : held.owner ≠ .buyer (.pool creator seed) := by
    rw [owner]
    exact Pubkey.ne_of_canSign own.signed rfl
  obtain ⟨paying, tokens, payingAt, payingOwner, payingMint, paid, credited, debited⟩ :=
    payShare_covered covers some' (by omega) ata foreign mint (fit account.mint)
  refine ⟨_, claim_ok.mpr ⟨account, record, paying, held, share, totalClaimed, _, {
    signed := own.signed
    loaded := sound.loads stored
    record := loadContribution_ok.mpr ⟨stake, rfl, own.bump, ofPool⟩
    buyer := buyerSeeds_ok.mpr ⟨rfl, sound.buyerBump⟩
    vault := payingAt
    vaultOwner := payingOwner
    vaultMint := payingMint
    ata
    ataOwner := owner
    ataMint := mint }, settled, ofContributor, unclaimed, unrefunded, ?_, allocated, .inl some',
    paid, added, rfl⟩, ?_, ?_, ?_⟩
  · -- A record with a positive share holds something.
    apply UInt64.lt_iff_toNat_lt.mpr
    rw [UInt64.toNat_zero]
    apply Nat.pos_of_ne_zero
    intro nothing
    rw [Contribution.shareOwed, ProRata.share, nothing, Nat.mul_zero, Nat.zero_div] at owed
    exact Nat.lt_irrefl 0 owed
  · rw [← exact]
    exact credited
  · rw [← exact]
    exact debited
  · exact ⟨{ record with claimed := true }, by simp [World.stake], rfl⟩

end Success

/-! ### Every claim of a finalized pool -/

/-- What every finalized pool whose buy credited its buyer's vault owes, and has paid. -/
structure ClaimsCovered (env : Env) (pool vault : Pubkey) (history : List Transition)
    (world : World) (account : Pool) : Prop where
  /-- A positive share not yet claimed is paid in full to any account its contributor names. -/
  succeeds : ∀ contributor, 0 < shareOf pool contributor history account →
    claimCount pool contributor history = 0 → ∀ contributorAta held,
    world.tokens.lookup contributorAta = some held → held.owner = contributor →
    held.mint = account.mint → ∀ now, ∃ after,
      step env world (claimCall pool contributor vault contributorAta now) = .ok after ∧
      after.tokens.balance contributorAta = world.tokens.balance contributorAta
        + shareOf pool contributor history account ∧
      after.tokens.balance vault + shareOf pool contributor history account
        = world.tokens.balance vault ∧
      -- After it, along every run, the contributor is paid nothing more.
      ∀ later final, Run env after later final → ∀ clock instruction result,
        instruction.asksPayTo pool contributor = true →
        step env final ⟨clock, instruction⟩ ≠ .ok result
  /-- Nobody has claimed twice, and whoever has claimed received exactly its share. -/
  once : ∀ contributor, claimCount pool contributor history = 0 ∧
      received pool contributor history = 0 ∨
    claimCount pool contributor history = 1 ∧
      received pool contributor history = shareOf pool contributor history account
  /-- Whoever has claimed is paid nothing more, along every run. -/
  spent : ∀ contributor, claimCount pool contributor history = 1 →
    ∀ later final, Run env world later final → ∀ clock instruction result,
      instruction.asksPayTo pool contributor = true →
      step env final ⟨clock, instruction⟩ ≠ .ok result
  /-- No refund succeeds any more, along every run. -/
  unrefundable : ∀ later final, Run env world later final →
    ∀ clock (accounts : RefundAccounts) result, accounts.pool = pool →
      step env final ⟨clock, .refund accounts⟩ ≠ .ok result
  /-- The vault covers everything still to be claimed. -/
  covered : account.distributable.toNat - account.totalClaimed.toNat ≤ world.tokens.balance vault
  /-- The pool counts exactly the shares paid, within what there is to distribute. -/
  counted : account.totalClaimed.toNat = sharesPaid pool history
  bounded : account.totalClaimed ≤ account.distributable
  /-- Everything bought was either distributed or burned. -/
  split : account.distributable.toNat + account.burned.toNat = account.tokensBought.toNat
  /-- Once every positive share is claimed, rounding has left less than one unit each. -/
  dust : (∀ contributor, 0 < shareOf pool contributor history account →
      claimCount pool contributor history = 1) →
    account.distributable.toNat - account.totalClaimed.toNat < account.contributorCount.toNat

section Covered

variable {env : Env} {start world : World} {history : List Transition} {pool : Pubkey}
variable {account : Pool}

/-- Whoever has claimed has a record marked so. -/
theorem claimed_of_count (books : ClaimBooks pool history world account) {contributor : Pubkey}
    (counted : claimCount pool contributor history ≠ 0) :
    ∃ record, world.stake pool contributor = some record ∧ record.claimed = true := by
  -- The count is read off the record, so there is one and it is marked.
  rw [books.counted] at counted
  cases found : world.stake pool contributor with
  | none =>
    rw [found] at counted
    exact absurd rfl counted
  | some record =>
    rw [found] at counted
    refine ⟨record, rfl, ?_⟩
    by_contra unclaimed
    exact counted (by simp [unclaimed])

/-- Once every positive share is claimed, what is left is less than one unit per contributor. -/
theorem dust_of_claimed (genesis : Genesis start) (run : Run env start history world)
    (stored : world.pools pool = some account) (settled : account.status = .Finalized)
    (all : ∀ contributor, 0 < shareOf pool contributor history account →
      claimCount pool contributor history = 1) :
    account.distributable.toNat - account.totalClaimed.toNat < account.contributorCount.toNat := by
  have shares := shareOf_eq genesis run stored settled
  have bounded := claimed_le genesis run stored settled
  obtain ⟨creator, seed, rfl⟩ := run_poolsAtHome genesis run stored
  have home := run_recordsAtHome genesis run
  have invariant := run_poolInvariant genesis run creator seed
  have backed := invariant.backed account stored
  have books := run_claimBooks genesis run creator seed account stored
  have positive := (invariant.account account stored).spent_positive (.inr settled)
  have rounding : account.distributable.toNat < _ :=
    lt_shareOwed_add home positive backed.total.symm
      fun _ _ found refunded => (invariant.records _ _ found).emptied refunded
  -- Everything owed has been paid, so the rounding is all that is left.
  have paid : world.stakeTotal (.pool creator seed) (Contribution.sharePaid
        account.distributable.toNat account.totalContributed.toNat)
      = world.stakeTotal (.pool creator seed) (Contribution.shareOwed
        account.distributable.toNat account.totalContributed.toNat) := by
    apply World.stakeTotal_congr home
    intro contributor record found
    unfold Contribution.sharePaid
    split
    · rfl
    · -- An unclaimed record is owed nothing, or its contributor would have claimed.
      rename_i unclaimed
      have share := shares contributor
      rw [found, Option.elim_some] at share
      by_contra owed
      have claimed := all contributor (by rw [share]; omega)
      obtain ⟨held, same, marked⟩ := claimed_of_count books (by rw [claimed]; decide)
      rw [found, Option.some.injEq] at same
      exact unclaimed (same ▸ marked)
  have active := backed.active
  have claimed := backed.claimed
  omega

/-- A contributor whose record is claimed is paid nothing more, along every run. -/
theorem refused_of_claimed {middle final : World} {creator contributor : Pubkey} {seed : UInt64}
    {later : List Transition} {record : Contribution} (home : middle.RecordsAtHome)
    (found : middle.stake (.pool creator seed) contributor = some record)
    (claimed : record.claimed = true) (continued : Run env middle later final) {clock : Int64}
    {instruction : Instruction} {result : World}
    (asks : instruction.asksPayTo (.pool creator seed) contributor = true) :
    step env final ⟨clock, instruction⟩ ≠ .ok result := by
  -- The mark stays on the record, and both calls require it to be unset.
  have stays := run_done_stays home continued found (.inl claimed)
  exact refused_of_done stays (.inl claimed) asks

/-- A positive share not yet claimed is paid in full, and never again. -/
theorem claim_due_succeeds (genesis : Genesis start) (run : Run env start history world)
    {vault : Pubkey} (into : BoughtInto pool vault history)
    (stored : world.pools pool = some account) (settled : account.status = .Finalized)
    {contributor contributorAta : Pubkey} {held : TokenAccount}
    (positive : 0 < shareOf pool contributor history account)
    (unclaimed : claimCount pool contributor history = 0)
    (ata : world.tokens.lookup contributorAta = some held) (owner : held.owner = contributor)
    (mint : held.mint = account.mint) (now : Int64) :
    ∃ after, step env world (claimCall pool contributor vault contributorAta now) = .ok after ∧
      after.tokens.balance contributorAta = world.tokens.balance contributorAta
        + shareOf pool contributor history account ∧
      after.tokens.balance vault + shareOf pool contributor history account
        = world.tokens.balance vault ∧
      ∀ later final, Run env after later final → ∀ clock instruction result,
        instruction.asksPayTo pool contributor = true →
        step env final ⟨clock, instruction⟩ ≠ .ok result := by
  have share := shareOf_eq genesis run stored settled contributor
  obtain ⟨last, storedLast, covers⟩ := covers_of_boughtInto genesis run into
  rw [stored, Option.some.injEq] at storedLast
  subst storedLast
  obtain ⟨creator, seed, rfl⟩ := run_poolsAtHome genesis run stored
  have home := run_recordsAtHome genesis run
  have invariant := run_poolInvariant genesis run creator seed
  have books := run_claimBooks genesis run creator seed account stored
  cases found : world.stake (.pool creator seed) contributor with
  | none =>
    -- Without a record nothing is owed.
    rw [found, Option.elim_none] at share
    omega
  | some record =>
    rw [found, Option.elim_some] at share
    have count := books.counted contributor
    rw [unclaimed, found, Option.elim_some] at count
    have fresh : record.claimed = false := by
      by_contra claimed
      rw [Bool.not_eq_false] at claimed
      simp [claimed] at count
    -- A refunded record holds nothing, and is owed no share.
    have unrefunded : record.refunded = false := by
      by_contra refunded
      rw [Bool.not_eq_false] at refunded
      rw [share, Contribution.shareOwed, (invariant.records _ _ found).emptied refunded,
        ProRata.share, UInt64.toNat_zero, Nat.mul_zero, Nat.zero_div] at positive
      omega
    rw [share] at positive ⊢
    obtain ⟨after, taken, credited, debited, done, storedDone, claimed⟩ :=
      claim_succeeds now home invariant (run_suppliesFit genesis run) stored settled covers
        found fresh unrefunded positive ata owner mint
    refine ⟨after, taken, credited, debited, ?_⟩
    intro later final continued clock instruction result asks
    exact refused_of_claimed (step_recordsAtHome home taken) storedDone claimed continued asks

/-- Nobody claims twice, and whoever has claimed received exactly its share. -/
theorem claimed_once (genesis : Genesis start) (run : Run env start history world)
    (stored : world.pools pool = some account) (settled : account.status = .Finalized)
    (contributor : Pubkey) :
    claimCount pool contributor history = 0 ∧ received pool contributor history = 0 ∨
      claimCount pool contributor history = 1 ∧
        received pool contributor history = shareOf pool contributor history account := by
  have share := shareOf_eq genesis run stored settled contributor
  obtain ⟨creator, seed, rfl⟩ := run_poolsAtHome genesis run stored
  have books := run_claimBooks genesis run creator seed account stored
  rw [share, books.counted contributor, books.received contributor]
  -- Both tallies are read off the one record, by its mark.
  cases world.stake (.pool creator seed) contributor with
  | none => exact .inl ⟨rfl, rfl⟩
  | some record =>
    simp only [Option.elim_some, Contribution.sharePaid]
    cases record.claimed with
    | false => exact .inl ⟨rfl, rfl⟩
    | true => exact .inr ⟨rfl, rfl⟩

/-- A finalized pool whose buy credited its buyer's vault pays every share, exactly and once. -/
theorem claims_covered (genesis : Genesis start) (run : Run env start history world)
    {vault : Pubkey} (into : BoughtInto pool vault history)
    (stored : world.pools pool = some account) (settled : account.status = .Finalized) :
    ClaimsCovered env pool vault history world account := by
  have once := claimed_once genesis run stored settled
  have bounded := claimed_le genesis run stored settled
  have dust := dust_of_claimed genesis run stored settled
  obtain ⟨last, storedLast, covers⟩ := covers_of_boughtInto genesis run into
  rw [stored, Option.some.injEq] at storedLast
  subst storedLast
  constructor
  -- What is due, what was paid, and what is refused from here on.
  · intro contributor positive unclaimed contributorAta held ata owner mint now
    exact claim_due_succeeds genesis run into stored settled positive unclaimed ata owner mint now
  · exact once
  · intro contributor counted later final continued clock instruction result asks
    obtain ⟨creator, seed, rfl⟩ := run_poolsAtHome genesis run stored
    have books := run_claimBooks genesis run creator seed account stored
    obtain ⟨record, found, claimed⟩ := claimed_of_count books (by rw [counted]; decide)
    exact refused_of_claimed (run_recordsAtHome genesis run) found claimed continued asks
  · intro later final continued clock accounts result target taken
    -- With the refund taken, the run would undo the buy.
    have life := life_of_spent genesis run stored (.inr settled) (.cons continued taken)
    have kept := life.keepsBuy (.inr settled) _ List.mem_cons_self
    simp [Instruction.undoesBuy, target] at kept
  · have least := Tokens.Holds.le_balance covers
    simpa only [Pool.vaulted, settled, if_true] using least
  · obtain ⟨creator, seed, rfl⟩ := run_poolsAtHome genesis run stored
    exact (run_claimBooks genesis run creator seed account stored).total
  · exact UInt64.le_iff_toNat_le.mpr bounded
  · obtain ⟨creator, seed, rfl⟩ := run_poolsAtHome genesis run stored
    have invariant := run_poolInvariant genesis run creator seed
    exact ((invariant.account account stored).phase.split settled).2
  · exact dust

end Covered

namespace Sample

/-- Alice's token account. -/
def aliceAta : Pubkey := .key 25

/-- The sample launch is finalized, and one of its two contributors claims. -/
def claimed : List Action :=
  raise ++ market ++ [buy vault, settle curve,
    ⟨130, .token (.initializeAccount aliceAta mint alice)⟩,
    claimCall pool alice vault aliceAta 131]

/-- The sample launch bought into the buyer's own vault. -/
theorem boughtInto : BoughtInto pool vault (past claimed) := by
  have bought : (past claimed).any (fun transition => buys pool transition &&
      decide (transition.action = buy vault) &&
      (transition.pre.tokens.lookup vault).any (·.owner = .buyer pool)) = true := by decide +kernel
  -- The computed test finds the buy, and says whose account it credited.
  obtain ⟨transition, member, facts⟩ := List.any_eq_true.mp bought
  simp only [Bool.and_eq_true, decide_eq_true_eq, Option.any_eq_true] at facts
  obtain ⟨⟨buying, action⟩, credited, found, owned⟩ := facts
  exact ⟨transition, member, buying, buyAccounts vault, 1, credited, by rw [action]; rfl, rfl,
    found, owned⟩

end Sample

/-- In the sample launch every claim is covered, and one contributor has claimed. -/
theorem claims_covered_sample : ∃ account,
    ClaimsCovered Sample.env Sample.pool Sample.vault (Sample.past Sample.claimed)
      (Sample.reach Sample.claimed) account ∧
    claimCount Sample.pool Sample.alice (Sample.past Sample.claimed) = 1 ∧
    claimCount Sample.pool Sample.bob (Sample.past Sample.claimed) = 0 := by
  have live : ((Sample.reach Sample.claimed).pools Sample.pool).any
      (fun account => account.status = .Finalized) = true := by decide +kernel
  obtain ⟨account, stored, settled⟩ := (Option.any_eq_true _ _).mp live
  -- The other contributor's share is still due.
  exact ⟨account, claims_covered Sample.genesis (Sample.run (by decide +kernel)) Sample.boughtInto
    stored (of_decide_eq_true settled), by decide +kernel, by decide +kernel⟩

end Batchit
