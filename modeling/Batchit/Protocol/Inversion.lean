import Batchit.Protocol.Effect

/-! Every step is one of the effects, and keeps every record at its own address. -/

namespace Batchit

/-- A signer is not an address this program derives. -/
theorem Pubkey.ne_of_canSign {signer derived : Pubkey} (signed : signer.canSign = true)
    (program : derived.isProgramDerived = true) : signer ≠ derived := by
  intro same
  rw [same] at signed
  simp [canSign, program] at signed

/-- A signer is not the address of a pool that loads. -/
theorem signer_ne_pool {env : Env} {world : World} {signer address : Pubkey} {account : Pool}
    (signed : signer.canSign = true) (loaded : loadPool env world address = .ok account) :
    signer ≠ address := by
  -- A pool that loads is at an address derived from its creator and seed.
  apply Pubkey.ne_of_canSign signed
  rw [(loadPool_ok.mp loaded).2.1]
  rfl

/-- The address of a pool that loads is not the one of its buyer. -/
theorem pool_ne_buyer {env : Env} {world : World} {address buyer : Pubkey} {account : Pool}
    (loaded : loadPool env world address = .ok account)
    (derived : buyerSeeds env account buyer address = .ok ()) : address ≠ buyer := by
  -- The two are derived from different seed lists.
  rw [(buyerSeeds_ok.mp derived).1, (loadPool_ok.mp loaded).2.1]
  simp

/-- Allocating a contribution account at most pays its rent. -/
theorem initIfNeeded_paid {env : Env} {world opened : World} {accounts : ContributeAccounts}
    {allocated : Contribution} (signed : accounts.contributor.canSign = true)
    (address : accounts.contribution = .contribution accounts.pool accounts.contributor)
    (ready : initIfNeeded env world accounts = .ok (opened, allocated)) :
    opened = world ∨ ∃ rent,
      World.Moved accounts.contributor accounts.contribution rent world opened := by
  unfold initIfNeeded at ready
  split at ready
  · -- A record that is already there costs nothing.
    simp only [Except.ok.injEq, Prod.mk.injEq] at ready
    exact .inl ready.1.symm
  · simp only [bind_eq_ok, pure_eq_ok, Prod.mk.injEq] at ready
    obtain ⟨paid, moved, rfl, -⟩ := ready
    -- A signer is never a derived address, so the rent moves between two accounts.
    have differ : accounts.contributor ≠ accounts.contribution :=
      Pubkey.ne_of_canSign signed (by rw [address]; rfl)
    exact .inr ⟨_, World.moveLamports_moved differ moved⟩

/-! ### One effect for each instruction -/

section Inversion

variable {env : Env} {creator : Pubkey} {seed : UInt64} {world after : World} {now : Int64}

/-- A pool address is not one of a signer's. -/
private theorem pool_ne_signer {signer : Pubkey} (signed : signer.canSign = true) :
    Pubkey.pool creator seed ≠ signer :=
  (Pubkey.ne_of_canSign signed rfl).symm

/-- Creating a pool opens the account it names and touches no other pool. -/
theorem createPool_effect {accounts : CreatePoolAccounts} {args : CreatePoolArgs}
    (taken : createPool env world now accounts args = .ok after) :
    Effect env (.pool creator seed) world ⟨now, .createPool accounts args⟩ after := by
  obtain ⟨paid, graceEndsAt, signed, address, buyer, unused, rent, grace, least, raise, most, early,
    ends, rfl⟩ := createPool_ok.mp taken
  have differ : accounts.creator ≠ accounts.pool :=
    Pubkey.ne_of_canSign signed (by rw [address]; rfl)
  have moved := World.moveLamports_moved differ rent
  -- Either this is the pool created, or only the rent and another account were written.
  by_cases same : accounts.pool = .pool creator seed
  · rw [same] at moved buyer unused address
    exact .created accounts args graceEndsAt {
      instruction := rfl
      target := same
      signed, address, buyer, unused, grace, least, raise, most, early, ends
      account := by rw [World.setPool_pools, same, Function.update_self]
      records := .of_eq moved.contributions
      lamports := by simpa using moved.reached }
  · refine .untouched (by simpa [Instruction.concerns] using same) ?_
    exact (Untouched.moved moved (pool_ne_signer signed) (Ne.symm same)).trans
      (.setPool (Ne.symm same) _)

/-- A contribution adds to the pool it names and touches no other. -/
theorem contribute_effect {accounts : ContributeAccounts} {amount : UInt64}
    (home : world.RecordsAtHome)
    (taken : contribute env world now accounts amount = .ok after) :
    Effect env (.pool creator seed) world ⟨now, .contribute accounts amount⟩ after := by
  obtain ⟨account, opened, allocated, paid, newTotal, total, count, signed, loaded, address, ready,
    positive, status, early, enough, added, bounded, transferred, counted, unrefunded, unclaimed,
    summed, rfl⟩ := (contribute_ok home.stakes).mp taken
  obtain ⟨stored, -⟩ := loadPool_ok.mp loaded
  obtain ⟨ofPool, -⟩ := World.stakeOrNew_names env accounts home.stakes
  have rent := initIfNeeded_paid signed address ready
  have moved := World.moveLamports_moved (signer_ne_pool signed loaded) transferred
  -- The rent, if any, goes from the signer to the record's own address.
  have contributions : paid.contributions = world.contributions := by
    rw [moved.contributions]
    rcases rent with rfl | ⟨rent, rented⟩
    · rfl
    · exact rented.contributions
  have kept (pool : Pubkey) (notSigner : pool ≠ accounts.contributor)
      (notRecord : pool ≠ accounts.contribution) : Untouched pool world opened := by
    rcases rent with rfl | ⟨rent, rented⟩
    · exact .refl _
    · exact .moved rented notSigner notRecord
  have kept := kept (.pool creator seed) (pool_ne_signer signed) (by simp [address])
  -- Either the pool is the one contributed to, or none of the accounts written is its own.
  by_cases same : accounts.pool = .pool creator seed
  · refine .contributed accounts amount account newTotal total count {
      instruction := rfl
      target := same
      signed
      record := same ▸ address
      stored := same ▸ stored
      positive, status, early, enough, added, bounded
      counted := same ▸ counted
      unrefunded, unclaimed, summed
      written := ?_
      accountAfter := by rw [World.setPool_pools, same, Function.update_self]
      lamports := ?_ }
    · refine .of_insert home.stakes (ofPool.trans same) ?_
      rw [World.setPool_contributions, World.setContribution_contributions, contributions, address,
        same]
    · have reached := moved.reached
      rw [same, kept.lamports] at reached
      exact reached
  · refine .untouched (by simpa [Instruction.concerns] using same) ?_
    refine ((kept.trans (.moved moved (pool_ne_signer signed) (Ne.symm same))).trans ?_).trans
      (.setPool (Ne.symm same) _)
    rw [address]
    have stakes := home.stakes.of_eq contributions
    exact .setContribution same (fun old found => (stakes _ _ _ found).1) ofPool

/-- Beginning a launch writes the pool it names and touches no other. -/
theorem beginLaunch_effect {accounts : BeginLaunchAccounts} {mint : Pubkey}
    (taken : beginLaunch env world now accounts mint = .ok after) :
    Effect env (.pool creator seed) world ⟨now, .beginLaunch accounts mint⟩ after := by
  obtain ⟨account, -, loaded, status, named, late, early, raised, unset, rfl⟩ :=
    beginLaunch_ok.mp taken
  obtain ⟨stored, -⟩ := loadPool_ok.mp loaded
  -- One pool account is written, and nothing else.
  by_cases same : accounts.pool = .pool creator seed
  · rw [same] at stored ⊢
    exact .launched accounts mint account {
      instruction := rfl
      target := same
      stored, status, named, late, early, raised, unset
      accountAfter := by rw [World.setPool_pools, Function.update_self]
      frame := rfl }
  · exact .untouched (by simpa [Instruction.concerns] using same) (.setPool (Ne.symm same) _)

/-- Marking a pool refundable writes the pool it names and touches no other. -/
theorem markRefundable_effect {accounts : MarkRefundableAccounts}
    (taken : markRefundable env world now accounts = .ok after) :
    Effect env (.pool creator seed) world ⟨now, .markRefundable accounts⟩ after := by
  obtain ⟨account, -, loaded, late, status, rfl⟩ := markRefundable_ok.mp taken
  obtain ⟨stored, -⟩ := loadPool_ok.mp loaded
  -- One pool account is written, and nothing else.
  by_cases same : accounts.pool = .pool creator seed
  · rw [same] at stored ⊢
    exact .marked accounts account {
      instruction := rfl
      target := same
      stored, late, status
      accountAfter := by rw [World.setPool_pools, Function.update_self]
      frame := rfl }
  · exact .untouched (by simpa [Instruction.concerns] using same) (.setPool (Ne.symm same) _)

/-- A refund pays out of the pool it names and touches no other. -/
theorem refund_effect {accounts : RefundAccounts} (home : world.RecordsAtHome)
    (taken : refund env world now accounts = .ok after) :
    Effect env (.pool creator seed) world ⟨now, .refund accounts⟩ after := by
  obtain ⟨account, record, totalContributed, totalRefunded, paid, signed, loaded, loadedRecord,
    allowed, -, unrefunded, unclaimed, positive, subtracted, added, edited, rfl⟩ :=
    refund_ok.mp taken
  obtain ⟨stored, -⟩ := loadPool_ok.mp loaded
  obtain ⟨stake, address, -, ofPool⟩ := loadContribution_ok.mp loadedRecord
  have moved := World.moveLamports_moved (signer_ne_pool signed loaded).symm edited
  -- Either the pool is the one refunding, or none of the accounts written is its own.
  by_cases same : accounts.pool = .pool creator seed
  · rw [same] at stored stake ofPool moved address
    refine .refunded accounts account record totalContributed totalRefunded {
      instruction := rfl
      target := same
      stored, allowed, stake, unrefunded, unclaimed, positive, subtracted, added
      written := ?_
      accountAfter := by rw [World.setPool_pools, same, Function.update_self]
      lamports := moved.left
      paid := moved.reached }
    refine .of_insert home.stakes ofPool ?_
    rw [World.setPool_contributions, World.setContribution_contributions, moved.contributions,
      address]
  · refine .untouched (by simpa [Instruction.concerns] using same) ?_
    refine ((Untouched.moved moved (Ne.symm same) (pool_ne_signer signed)).trans ?_).trans
      (.setPool (Ne.symm same) _)
    rw [address]
    have stakes := home.stakes.of_eq moved.contributions
    exact .setContribution same (fun old found => (stakes _ _ _ found).1) ofPool

/-- Closing a pool removes the account it names and touches no other pool. -/
theorem closePool_effect {accounts : ClosePoolAccounts}
    (taken : closePool env world accounts = .ok after) :
    Effect env (.pool creator seed) world ⟨now, .closePool accounts⟩ after := by
  obtain ⟨account, paid, signed, loaded, owner, status, empty, transferred, rfl⟩ :=
    closePool_ok.mp taken
  obtain ⟨stored, -⟩ := loadPool_ok.mp loaded
  -- The creator signs, so the lamports move between two accounts.
  have moved := World.moveLamports_moved (signer_ne_pool signed loaded).symm transferred
  by_cases same : accounts.pool = .pool creator seed
  · -- The balance moved out is the whole one, so nothing is left on the account.
    rw [same] at stored moved
    have left := moved.left
    exact .closed accounts account {
      instruction := rfl
      target := same
      stored, creator := owner, status, empty
      accountAfter := by rw [World.setPool_pools, same, Function.update_self]
      records := .of_eq moved.contributions
      lamports := by rw [World.setPool_lamports]; omega
      reclaimed := moved.reached }
  · refine .untouched (by simpa [Instruction.concerns] using same) ?_
    exact (Untouched.moved moved (Ne.symm same) (pool_ne_signer signed)).trans
      (.setPool (Ne.symm same) _)

/-- A finalization splits the pool it names and touches no other. -/
theorem finalize_effect {accounts : FinalizeAccounts}
    (taken : finalize env world accounts = .ok after) :
    Effect env (.pool creator seed) world ⟨now, .finalize accounts⟩ after := by
  obtain ⟨account, vault, vtok, vquote, distributable, burned, tokens, -, loaded, buyer, stocked,
    vaultOwner, vaultMint, status, -, priced, -, -, split, burnt, rfl⟩ := finalize_ok.mp taken
  obtain ⟨stored, -⟩ := loadPool_ok.mp loaded
  obtain ⟨address, -⟩ := buyerSeeds_ok.mp buyer
  by_cases same : accounts.pool = .pool creator seed
  · -- The vault was checked to be the buyer's, and the buyer to be this pool's.
    rw [same] at stored address ⊢
    exact .settled accounts account vault vtok vquote distributable burned {
      instruction := rfl
      target := same
      stored, status, stocked
      vaultOwner := vaultOwner.trans address
      vaultMint
      buyer := address
      priced, split, burnt
      accountAfter := by rw [World.setPool_pools, Function.update_self]
      frame := rfl }
  · exact .untouched (by simpa [Instruction.concerns] using same)
      ((Untouched.setTokens tokens).trans (.setPool (Ne.symm same) _))

/-- A claim pays out of the pool it names and touches no other. -/
theorem claim_effect {accounts : ClaimAccounts} (home : world.RecordsAtHome)
    (taken : claim env world accounts = .ok after) :
    Effect env (.pool creator seed) world ⟨now, .claim accounts⟩ after := by
  obtain ⟨account, record, vaultAta, contributorAta, share, totalClaimed, tokens, checked, status,
    -, unclaimed, unrefunded, positive, allocated, -, paid, added, rfl⟩ := claim_ok.mp taken
  obtain ⟨stored, -⟩ := loadPool_ok.mp checked.loaded
  obtain ⟨stake, address, -, ofPool⟩ := loadContribution_ok.mp checked.record
  -- Either the pool is the one claimed on, or none of the accounts written is its own.
  by_cases same : accounts.pool = .pool creator seed
  · rw [same] at stored stake ofPool address
    refine .claimed accounts account record vaultAta contributorAta share totalClaimed {
      instruction := rfl
      target := same
      checked, stored, status, stake, unclaimed, unrefunded, positive, allocated, paid, added
      written := ?_
      accountAfter := by rw [World.setPool_pools, same, Function.update_self]
      lamports := rfl }
    refine .of_insert home.stakes ofPool ?_
    rw [World.setPool_contributions, World.setContribution_contributions, address]
    rfl
  · refine .untouched (by simpa [Instruction.concerns] using same) ?_
    refine ((Untouched.setTokens tokens).trans ?_).trans (.setPool (Ne.symm same) _)
    rw [address]
    exact .setContribution same (fun old found => (home.stakes _ _ _ found).1) ofPool

/-- A buy spends the pool it names and touches no other; on one that has bought it does nothing. -/
theorem completeBuy_effect {accounts : CompleteBuyAccounts} {minTokensOut : UInt64}
    (taken : completeBuy env world now accounts minTokensOut = .ok after) :
    Effect env (.pool creator seed) world ⟨now, .completeBuy accounts minTokensOut⟩ after := by
  obtain ⟨account, credited, checked, done⟩ := completeBuy_ok.mp taken
  obtain ⟨stored, -⟩ := loadPool_ok.mp checked.loaded
  obtain ⟨address, -⟩ := buyerSeeds_ok.mp checked.buyer
  rcases done with ⟨status, rfl⟩ | ⟨edited, filled, reloaded, status, early, -, mint, -, -, positive,
    moved, called, user', some', rfl⟩
  · -- On a pool that has bought the call returns early.
    by_cases same : accounts.pool = .pool creator seed
    · exact .repeated accounts minTokensOut account {
        instruction := rfl
        target := same
        stored := same ▸ stored
        status
        same := rfl }
    · exact .untouched (by simpa [Instruction.concerns] using same) (.refl _)
  · obtain ⟨user, fill, paid, tokens, admitted, curve, found, ofMint, answer, -, foreign, payments,
      transferred, rfl⟩ := cpiBuyExactSolIn_ok.mp called
    have edit := World.moveLamports_moved (pool_ne_buyer checked.loaded checked.buyer) moved
    -- Pump is paid by the buyer, and pays none of the accounts this program derives.
    have out := Fill.paidOut (derived_of_buyerSeeds checked.buyer) foreign payments
    have unpaid := @Fill.unpaid _ _ (.pool creator seed) rfl foreign
    have notBuyer : Pubkey.pool creator seed ≠ accounts.buyer := by
      simp [address]
    by_cases same : accounts.pool = .pool creator seed
    · -- The call is handed the accounts it was given, so its result is read at those.
      simp only [CompleteBuyAccounts.handedOn_mint, CompleteBuyAccounts.handedOn_bondingCurve,
        CompleteBuyAccounts.handedOn_associatedBondingCurve,
        CompleteBuyAccounts.handedOn_associatedUser, edit.tokens, out.tokens]
        at curve found ofMint transferred user' some' ⊢
      -- The difference read back is what the curve transferred.
      obtain ⟨distinct, credit⟩ := Tokens.transfer_credited transferred checked.user user' some'
      rw [credit] at some' ⊢
      rw [same] at stored moved edit ⊢
      rw [checked.user, Option.some.injEq] at found
      -- The pool has the escrow taken off it, and the buyer what pump took off the escrow.
      have spendable := edit.left
      have kept := out.others _ notBuyer unpaid
      have left := out.left
      have reached := edit.reached
      rw [CompleteBuyAccounts.handedOn_user] at left
      rw [same] at address
      rw [address] at moved left reached
      exact .spent accounts minTokensOut account credited fill {
        instruction := rfl
        target := same
        stored, status, early, mint, positive
        curve := by rw [← mint]; exact curve
        user := checked.user
        userMint := by rw [found, ofMint, mint]
        distinct
        filled := ⟨edited, moved, admitted, answer⟩
        bought := some'
        tokens := transferred
        accountAfter := by simp
        records := .of_eq (out.contributions.trans edit.contributions)
        lamports := by simpa [kept] using spendable
        buyerLamports := left.trans reached }
    · refine .untouched (by simpa [Instruction.concerns] using same) ?_
      -- The escrow, what pump is paid, the tokens, the curve's bytes and the account, in order.
      exact (((Untouched.moved edit (Ne.symm same) notBuyer).trans
        (.paidOut out notBuyer unpaid)).trans ((Untouched.setTokens tokens).trans
          (.setInfo _ _))).trans (.setPool (Ne.symm same) _)

/-- A transfer between other accounts endows the pool it reaches and touches no other. -/
theorem systemTransfer_effect {source target : Pubkey} {amount : UInt64}
    (outside : source.isProgramDerived = false) (differ : source ≠ target)
    (taken : world.systemTransfer source target amount = .ok after) :
    Effect env (.pool creator seed) world ⟨now, .systemTransfer source target amount⟩ after := by
  have moved := World.moveLamports_moved differ taken
  -- A pool's address is one only the program signs for, so it is never the source.
  have notSource : Pubkey.pool creator seed ≠ source := by
    intro same
    rw [← same] at outside
    cases outside
  by_cases same : target = .pool creator seed
  · subst same
    exact .endowed source amount {
      instruction := rfl
      account := by rw [moved.pools]
      records := .of_eq moved.contributions
      lamports := moved.reached }
  · exact .untouched (by simpa [Instruction.concerns] using same)
      (.moved moved notSource (Ne.symm same))

end Inversion

/-- Whatever step is taken, it has one of the effects on any pool. -/
theorem step_effect {env : Env} {creator : Pubkey} {seed : UInt64} {world after : World}
    {action : Action} (home : world.RecordsAtHome) (taken : step env world action = .ok after) :
    Effect env (.pool creator seed) world action after := by
  obtain ⟨now, instruction⟩ := action
  -- The nine instructions have their own inversions; the rest of the chain only sends lamports.
  cases instruction with
  | createPool accounts args => exact createPool_effect taken
  | contribute accounts amount => exact contribute_effect home taken
  | beginLaunch accounts mint => exact beginLaunch_effect taken
  | completeBuy accounts minTokensOut => exact completeBuy_effect taken
  | finalize accounts => exact finalize_effect taken
  | claim accounts => exact claim_effect home taken
  | refund accounts => exact refund_effect home taken
  | markRefundable accounts => exact markRefundable_effect taken
  | closePool accounts => exact closePool_effect taken
  | systemTransfer source target amount =>
    simp only [step, bind_eq_ok, constraint_eq_ok, exists_const] at taken
    obtain ⟨outside, differ, transferred⟩ := taken
    exact systemTransfer_effect outside differ transferred
  | token instruction =>
    simp only [step, bind_eq_ok, pure_eq_ok] at taken
    obtain ⟨tokens, -, rfl⟩ := taken
    exact .untouched rfl (.setTokens tokens)
  | writeAccount address info =>
    simp only [step, bind_eq_ok, constraint_eq_ok, exists_const, pure_eq_ok] at taken
    obtain ⟨-, -, rfl⟩ := taken
    exact .untouched rfl (.setInfo address info)
  | pumpCreate mint data =>
    simp only [step, bind_eq_ok, constraint_eq_ok, exists_const, pure_eq_ok] at taken
    obtain ⟨-, rfl⟩ := taken
    exact .untouched rfl (.setInfo _ _)
  | pumpTrade side trader mint amount data =>
    obtain ⟨paid, -, -, signs, differ, transferred, rfl⟩ := pumpTrade_ok taken
    -- Neither the trader nor the curve is the pool.
    obtain ⟨payer, payee⟩ := side.foreign mint signs
    have moved := World.moveLamports_moved differ transferred
    have notPayer : Pubkey.pool creator seed ≠ side.payer trader mint := by
      intro same
      rw [← same] at payer
      cases payer
    have notPayee : Pubkey.pool creator seed ≠ side.payee trader mint := by
      intro same
      rw [← same] at payee
      cases payee
    exact .untouched rfl ((Untouched.moved moved notPayer notPayee).trans (.setInfo _ _))

/-! ### What a step writes over all pools -/

/-- A step writes at most one pool and one record, each at the address derived for it. -/
structure Footprint (before after : World) : Prop where
  pools : after.pools = before.pools ∨ ∃ (creator : Pubkey) (seed : UInt64) (account : Option Pool),
    after.pools = Function.update before.pools (.pool creator seed) account
  contributions : after.contributions = before.contributions ∨ ∃ new : Contribution,
    after.contributions = before.contributions.insert (.contribution new.pool new.contributor) new

/-- A step that writes neither a pool nor a record has an empty footprint. -/
theorem Footprint.of_eq {before after : World} (pools : after.pools = before.pools)
    (contributions : after.contributions = before.contributions) : Footprint before after :=
  ⟨.inl pools, .inl contributions⟩

/-- A step that writes one loaded pool and no record. -/
theorem Footprint.of_pool {env : Env} {before middle : World} {address : Pubkey}
    {loaded : Pool} {account : Option Pool} (found : loadPool env before address = .ok loaded)
    (pools : middle.pools = before.pools)
    (contributions : middle.contributions = before.contributions) :
    Footprint before (middle.setPool address account) where
  -- A loaded pool is at the address its creator and seed derive.
  pools := .inr ⟨loaded.creator, loaded.seed, account, by
    rw [World.setPool_pools, pools, (loadPool_ok.mp found).2.1]⟩
  contributions := .inl contributions

/-- A step that writes one loaded pool, and one record at its own address. -/
theorem Footprint.of_record {env : Env} {before middle : World} {address record : Pubkey}
    {loaded : Pool} {account : Option Pool} {new : Contribution}
    (found : loadPool env before address = .ok loaded) (pools : middle.pools = before.pools)
    (contributions : middle.contributions = before.contributions)
    (home : record = .contribution new.pool new.contributor) :
    Footprint before ((middle.setContribution record new).setPool address account) where
  -- The record is written first, and the pool account over it.
  pools := .inr ⟨loaded.creator, loaded.seed, account, by
    rw [World.setPool_pools, World.setContribution_pools, pools, (loadPool_ok.mp found).2.1]⟩
  contributions := .inr ⟨new, by
    rw [World.setPool_contributions, World.setContribution_contributions, contributions, home]⟩

/-- Allocating a contribution account writes neither a pool nor a record. -/
theorem initIfNeeded_footprint {env : Env} {world opened : World} {accounts : ContributeAccounts}
    {allocated : Contribution} (signed : accounts.contributor.canSign = true)
    (address : accounts.contribution = .contribution accounts.pool accounts.contributor)
    (ready : initIfNeeded env world accounts = .ok (opened, allocated)) :
    opened.pools = world.pools ∧ opened.contributions = world.contributions := by
  rcases initIfNeeded_paid signed address ready with rfl | ⟨rent, moved⟩
  · exact ⟨rfl, rfl⟩
  · exact ⟨moved.pools, moved.contributions⟩

/-- Every step writes at most one pool and one record. -/
theorem step_footprint {env : Env} {world after : World} {action : Action}
    (home : world.RecordsAtHome) (taken : step env world action = .ok after) :
    Footprint world after := by
  obtain ⟨now, instruction⟩ := action
  -- Each instruction ends in at most one write of either kind, and moves only lamports before.
  cases instruction with
  | createPool accounts args =>
    obtain ⟨paid, graceEndsAt, signed, address, -, -, rent, -, -, -, -, -, -, rfl⟩ :=
      createPool_ok.mp taken
    have differ : accounts.creator ≠ accounts.pool :=
      Pubkey.ne_of_canSign signed (by rw [address]; rfl)
    have moved := World.moveLamports_moved differ rent
    refine ⟨.inr ⟨accounts.creator, args.seed, some (args.opened env accounts graceEndsAt), ?_⟩,
      .inl moved.contributions⟩
    rw [World.setPool_pools, moved.pools, ← address]
  | contribute accounts amount =>
    obtain ⟨account, opened, allocated, paid, newTotal, total, count, signed, loaded, address,
      ready, -, -, -, -, -, -, transferred, -, -, -, -, rfl⟩ := (contribute_ok home.stakes).mp taken
    obtain ⟨ofPool, ofContributor⟩ := World.stakeOrNew_names env accounts home.stakes
    obtain ⟨pools, contributions⟩ := initIfNeeded_footprint signed address ready
    have moved := World.moveLamports_moved (signer_ne_pool signed loaded) transferred
    exact .of_record loaded (moved.pools.trans pools) (moved.contributions.trans contributions)
      (by rw [address, ofPool, ofContributor])
  | beginLaunch accounts mint =>
    obtain ⟨account, -, loaded, -, -, -, -, -, -, rfl⟩ := beginLaunch_ok.mp taken
    exact .of_pool loaded rfl rfl
  | completeBuy accounts minTokensOut =>
    obtain ⟨account, credited, checked, done⟩ := completeBuy_ok.mp taken
    rcases done with ⟨-, rfl⟩ | ⟨edited, filled, reloaded, -, -, -, -, -, -, -, moved, called, -, -,
      rfl⟩
    · exact .of_eq rfl rfl
    · obtain ⟨_, fill, paid, _, -, -, -, -, -, -, foreign, payments, -, rfl⟩ :=
        cpiBuyExactSolIn_ok.mp called
      have moved := World.moveLamports_moved (pool_ne_buyer checked.loaded checked.buyer) moved
      -- Both the escrow and what pump is paid are lamports only.
      have out := Fill.paidOut (derived_of_buyerSeeds checked.buyer) foreign payments
      exact .of_pool checked.loaded (out.pools.trans moved.pools)
        (out.contributions.trans moved.contributions)
  | finalize accounts =>
    obtain ⟨account, _, _, _, _, _, _, -, loaded, -, -, -, -, -, -, -, -, -, -, -, rfl⟩ :=
      finalize_ok.mp taken
    exact .of_pool loaded rfl rfl
  | claim accounts =>
    obtain ⟨account, record, _, _, _, _, _, checked, -, owner, -, -, -, -, -, -, -, rfl⟩ :=
      claim_ok.mp taken
    obtain ⟨-, address, -, ofPool⟩ := loadContribution_ok.mp checked.record
    exact .of_record checked.loaded rfl rfl (by rw [address, ofPool, owner])
  | refund accounts =>
    obtain ⟨account, record, _, _, paid, signed, loaded, loadedRecord, -, owner, -, -, -, -, -,
      edited, rfl⟩ := refund_ok.mp taken
    obtain ⟨-, address, -, ofPool⟩ := loadContribution_ok.mp loadedRecord
    have moved := World.moveLamports_moved (signer_ne_pool signed loaded).symm edited
    exact .of_record loaded moved.pools moved.contributions (by rw [address, ofPool, owner])
  | markRefundable accounts =>
    obtain ⟨account, -, loaded, -, -, rfl⟩ := markRefundable_ok.mp taken
    exact .of_pool loaded rfl rfl
  | closePool accounts =>
    obtain ⟨account, paid, signed, loaded, -, -, -, transferred, rfl⟩ := closePool_ok.mp taken
    have moved := World.moveLamports_moved (signer_ne_pool signed loaded).symm transferred
    exact .of_pool loaded moved.pools moved.contributions
  | systemTransfer source target amount =>
    simp only [step, bind_eq_ok, constraint_eq_ok, exists_const] at taken
    obtain ⟨-, differ, transferred⟩ := taken
    have moved := World.moveLamports_moved differ transferred
    exact .of_eq moved.pools moved.contributions
  | token instruction =>
    simp only [step, bind_eq_ok, pure_eq_ok] at taken
    obtain ⟨tokens, -, rfl⟩ := taken
    exact .of_eq rfl rfl
  | writeAccount address info =>
    simp only [step, bind_eq_ok, constraint_eq_ok, exists_const, pure_eq_ok] at taken
    obtain ⟨-, -, rfl⟩ := taken
    exact .of_eq rfl rfl
  | pumpCreate mint data =>
    simp only [step, bind_eq_ok, constraint_eq_ok, exists_const, pure_eq_ok] at taken
    obtain ⟨-, rfl⟩ := taken
    exact .of_eq rfl rfl
  | pumpTrade side trader mint amount data =>
    obtain ⟨paid, -, -, -, differ, transferred, rfl⟩ := pumpTrade_ok taken
    have moved := World.moveLamports_moved differ transferred
    exact .of_eq moved.pools moved.contributions

/-- No step leaves a record away from its own address. -/
theorem step_recordsAtHome {env : Env} {world after : World} {action : Action}
    (home : world.RecordsAtHome) (taken : step env world action = .ok after) :
    after.RecordsAtHome := by
  intro address contribution stored
  rcases (step_footprint home taken).contributions with same | ⟨new, written⟩
  · rw [same] at stored
    exact home _ _ stored
  · rw [written] at stored
    -- The address read is either the one just written or an older one.
    by_cases same : address = .contribution new.pool new.contributor
    · subst same
      rw [AList.lookup_insert, Option.some.injEq] at stored
      rw [stored]
    · rw [AList.lookup_insert_ne same] at stored
      exact home _ _ stored

/-- Every record of a reachable state is at its own address. -/
theorem run_recordsAtHome {env : Env} {start world : World} {history : List Transition}
    (genesis : Genesis start) (run : Run env start history world) : world.RecordsAtHome := by
  refine run.invariant ?_ fun _ _ _ => step_recordsAtHome
  -- At the start there is no record at all.
  intro address contribution stored
  rw [genesis.noContributions, AList.lookup_empty] at stored
  cases stored

/-- Every step of a history had one of the effects it can have on a pool. -/
theorem run_effect {env : Env} {start world : World} {newer older : List Transition}
    {transition : Transition} (genesis : Genesis start)
    (run : Run env start (newer ++ transition :: older) world) (creator : Pubkey) (seed : UInt64) :
    Effect env (.pool creator seed) transition.pre transition.action transition.post := by
  -- The step was taken from a state the older part of the history reached.
  obtain ⟨before, taken, -⟩ := run.split
  exact step_effect (run_recordsAtHome genesis before) taken

/-- Every pool of a reachable state is at an address derived for a pool. -/
theorem run_poolsAtHome {env : Env} {start world : World} {history : List Transition}
    (genesis : Genesis start) (run : Run env start history world) {pool : Pubkey} {account : Pool}
    (stored : world.pools pool = some account) : ∃ creator seed, pool = .pool creator seed := by
  -- An account found after a step was either just written, at such an address, or there before.
  induction run generalizing account with
  | nil =>
    rw [genesis.noPools] at stored
    cases stored
  | cons before taken ih =>
    rcases (step_footprint (run_recordsAtHome genesis before) taken).pools with
      same | ⟨creator, seed, written, wrote⟩
    · rw [same] at stored
      exact ih stored
    · rw [wrote] at stored
      by_cases here : pool = .pool creator seed
      · exact ⟨creator, seed, here⟩
      · rw [Function.update_of_ne here] at stored
        exact ih stored

end Batchit
