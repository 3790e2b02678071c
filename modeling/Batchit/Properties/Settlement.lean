import Batchit.Properties.Custody

/-! Finalization: how far the split is fixed by what the buy recorded, and who can move it. -/

namespace Batchit

/-- The call by which anyone asks for a pool's split, over a vault and a curve of its choice. -/
def settleCall (caller pool mint vault bondingCurve : Pubkey) (now : Int64) : Action :=
  ⟨now, .finalize {
    caller
    pool
    buyer := .buyer pool
    mint
    associatedUser := vault
    bondingCurve }⟩

/-- The amounts a call leaves to distribute and burned, when it goes through. -/
def settledTo (env : Env) (world : World) (pool : Pubkey) (action : Action) :
    Option (UInt64 × UInt64) :=
  match step env world action with
  | .ok after => (after.pools pool).map fun account => (account.distributable, account.burned)
  | .error _ => none

/-- The split at the reserves the buy recorded. -/
def Pool.recordedSplit (account : Pool) : Option (UInt64 × UInt64) :=
  (computeDistributable account.totalContributed account.tokensBought
    account.postVirtualTokenReserves account.postVirtualQuoteReserves).toOption

/--
The bytes handed in as a curve price the split as the recorded reserves do.

Either there are too few of them to be read, or the reserves they spell are nonzero and their quotient is cut to the same amount.
-/
def Pool.PricedAlike (account : Pool) (data : List UInt8) : Prop :=
  data.length < 40 ∨
    0 < wordAt (data.drop 8) 0 ∧ 0 < wordAt (data.drop 8) 8 ∧
      min (castQuotient account.totalContributed (wordAt (data.drop 8) 0)
          (wordAt (data.drop 8) 8)) account.tokensBought.toNat
        = min (castQuotient account.totalContributed account.postVirtualTokenReserves
          account.postVirtualQuoteReserves) account.tokensBought.toNat

instance (account : Pool) (data : List UInt8) : Decidable (account.PricedAlike data) :=
  inferInstanceAs (Decidable (_ ∨ _))

/-! ### From the buy to the call -/

section Waiting

variable {env : Env} {start : World} {pool : Pubkey} {history later : List Transition}
variable {middle final : World} {account : Pool}

/-- While a pool waits to be finalized, no step writes its account. -/
theorem Effect.kept_of_bought {before after : World} {action : Action} {is : Pool}
    (effect : Effect env pool before action after) (stored : before.pools pool = some account)
    (bought : account.status = .Bought) (storedAfter : after.pools pool = some is)
    (still : is.status = .Bought) : is = account := by
  have same (kept : after.pools pool = before.pools pool) : is = account := by
    rw [kept, stored, Option.some.injEq] at storedAfter
    exact storedAfter.symm
  have found {other : Pool} (also : before.pools pool = some other) : other = account := by
    rw [stored, Option.some.injEq] at also
    exact also.symm
  -- Of the effects on a pool that has bought, only a finalization writes its account.
  cases effect with
  | untouched _ frame => exact same frame.account
  | repeated _ _ _ effect => exact same (by rw [effect.same])
  | endowed _ _ effect => exact same effect.account
  | settled _ _ _ _ _ _ _ effect =>
    -- A finalization leaves the status behind.
    rw [effect.accountAfter, Option.some.injEq] at storedAfter
    subst storedAfter
    cases still
  | created _ _ _ effect =>
    have unused := effect.unused
    rw [stored] at unused
    cases unused
  | contributed _ _ _ _ _ _ effect =>
    rw [← found effect.stored, effect.status] at bought
    cases bought
  | launched _ _ _ effect =>
    rw [← found effect.stored, effect.status] at bought
    cases bought
  | spent _ _ _ _ _ effect =>
    rw [← found effect.stored, effect.status] at bought
    cases bought
  | claimed _ _ _ _ _ _ _ effect =>
    rw [← found effect.stored, effect.status] at bought
    cases bought
  | refunded _ _ _ _ _ effect =>
    rw [← found effect.stored] at bought
    exact absurd bought (Pool.early_of_refundAllowed effect.allowed).1
  | marked _ _ effect =>
    have status := effect.status
    rw [found effect.stored, bought] at status
    simp at status
  | closed _ _ effect =>
    rw [effect.accountAfter] at storedAfter
    cases storedAfter

/-- A pool that still waits to be finalized is exactly as its buy left it. -/
theorem Life.kept_of_bought (life : Life env start pool history middle account later final)
    (bought : account.status = .Bought) {last : Pool} (stored : final.pools pool = some last)
    (still : last.status = .Bought) : last = account := by
  obtain ⟨genesis, run, storedMiddle, continued, kept⟩ := life
  -- Along the stretch: bought at its end, the pool was bought all along.
  induction continued generalizing last with
  | nil =>
    rw [storedMiddle, Option.some.injEq] at stored
    exact stored.symm
  | @cons older before after action earlier taken ih =>
    have keptBefore : ∀ transition ∈ older, closes pool transition = false := by
      intro transition member
      exact kept transition (List.mem_cons_of_mem _ member)
    have lifeBefore : Life env start pool history middle account older before :=
      ⟨genesis, run, storedMiddle, earlier, keptBefore⟩
    obtain ⟨was, storedWas, continues⟩ := lifeBefore.continues
    obtain ⟨effect, is, storedIs, advances⟩ := life_step genesis (run.append earlier) storedWas
      taken (kept _ List.mem_cons_self)
    rw [stored, Option.some.injEq] at storedIs
    subst storedIs
    -- It was bought before the step as well, for nothing leads back from finalized.
    have waiting : was.status = .Bought := by
      rcases continues.leads.spent (.inl bought) with status | status
      · exact status
      · have passed := advances.continues.leads.finalized status
        rw [still] at passed
        cases passed
    have sofar := ih storedWas waiting keptBefore
    rw [← sofar]
    exact effect.kept_of_bought storedWas waiting stored still

end Waiting

/-! ### The call -/

section Call

variable {env : Env} {creator : Pubkey} {seed : UInt64} {world : World} {account : Pool}

/-- The reserves a call prices the split at, when they are not refused. -/
theorem Pool.finalReserves_eq (account : Pool) (data : List UInt8) :
    account.finalReserves data = .ok (if data.length < 40
      then (account.postVirtualTokenReserves, account.postVirtualQuoteReserves)
      else (wordAt (data.drop 8) 0, wordAt (data.drop 8) 8)) := by
  -- The forty bytes are the discriminator and the four reserves.
  unfold Pool.finalReserves
  by_cases short : data.length < 40
  · rw [if_neg (by omega), if_pos short]
  · rw [if_pos (by omega), if_neg short]
    -- Bytes long enough to be preferred are long enough to be decoded.
    have long : data.length ≥ 8 + 32 := by omega
    simp only [decodeBondingCurveReserves, bind_eq_ok, require_eq_ok, pure_eq_ok, exists_const]
    exact ⟨_, ⟨long, rfl⟩, rfl⟩

/-- A split that computes is carried out, out of a vault that holds what was bought. -/
theorem settledTo_eq_some {caller vault bondingCurve : Pubkey} {now : Int64} {held : TokenAccount}
    {vtok vquote distributable burned : UInt64} (sound : account.Sound env (.pool creator seed))
    (signed : caller.canSign = true) (stored : world.pools (.pool creator seed) = some account)
    (bought : account.status = .Bought) (vaultAt : world.tokens.lookup vault = some held)
    (owner : held.owner = .buyer (.pool creator seed)) (mint : held.mint = account.mint)
    (enough : account.tokensBought ≤ held.amount)
    (priced : account.finalReserves (world.data env.encoding bondingCurve) = .ok (vtok, vquote))
    (tokPositive : 0 < vtok) (quotePositive : 0 < vquote)
    (split : computeDistributable account.totalContributed account.tokensBought vtok vquote
      = .ok (distributable, burned)) :
    settledTo env world (.pool creator seed)
        (settleCall caller (.pool creator seed) account.mint vault bondingCurve now)
      = some (distributable, burned) := by
  obtain ⟨received, -⟩ := sound.phase.unsplit bought
  obtain ⟨-, -, -, -, sums⟩ := computeDistributable_ok.mp split
  have enough := UInt64.le_iff_toNat_le.mp enough
  -- The surplus is part of what was bought, so the vault can burn it.
  have burnt : ∃ tokens, burnSurplus world.tokens vault account.mint
      (.buyer (.pool creator seed)) burned = .ok tokens := by
    unfold burnSurplus
    split
    · obtain ⟨rest, -, left⟩ :=
        UInt64.checkedSub_of_le (a := held.amount) (b := burned) (by omega)
      exact ⟨_, Tokens.burn_ok.mpr ⟨held, rest, vaultAt, mint, owner, left, rfl⟩⟩
    · exact ⟨_, rfl⟩
  obtain ⟨tokens, burnt⟩ := burnt
  -- Every other requirement of the handler is an assumption or an invariant.
  have taken : step env world
      (settleCall caller (.pool creator seed) account.mint vault bondingCurve now)
      = .ok ((world.setTokens tokens).setPool (.pool creator seed)
        (some (account.finalized distributable burned vtok vquote))) :=
    finalize_ok.mpr ⟨account, held, vtok, vquote, distributable, burned, tokens, signed,
      sound.loads stored, buyerSeeds_ok.mpr ⟨rfl, sound.buyerBump⟩, vaultAt, owner, mint, bought,
      received, priced, quotePositive, tokPositive, split, burnt, rfl⟩
  rw [settledTo, taken]
  simp [Pool.finalized]

/-- A call that settles a pool does so at the reserves it read, neither of them zero. -/
theorem of_settledTo_eq_some {caller vault bondingCurve : Pubkey} {now : Int64}
    {outcome : UInt64 × UInt64} (stored : world.pools (.pool creator seed) = some account)
    (settled : settledTo env world (.pool creator seed)
      (settleCall caller (.pool creator seed) account.mint vault bondingCurve now)
      = some outcome) :
    ∃ vtok vquote, account.finalReserves (world.data env.encoding bondingCurve) = .ok (vtok, vquote) ∧
      0 < vtok ∧ 0 < vquote ∧
      computeDistributable account.totalContributed account.tokensBought vtok vquote
        = .ok outcome := by
  -- Whatever the call settled passed the handler's guards.
  unfold settledTo at settled
  split at settled
  · rename_i after taken
    obtain ⟨live, _, vtok, vquote, distributable, burned, tokens, -, loaded, -, -, -, -, -, -,
      priced, quotePositive, tokPositive, split, -, rfl⟩ := finalize_ok.mp taken
    have same := (loadPool_ok.mp loaded).1
    rw [stored, Option.some.injEq] at same
    subst same
    simp only [World.setPool_pools, Function.update_self, Option.map_some,
      Pool.finalized, Option.some.injEq] at settled
    subst settled
    exact ⟨vtok, vquote, priced, tokPositive, quotePositive, split⟩
  · cases settled

/-- At nonzero recorded reserves a call leaves the recorded split exactly if it is priced alike. -/
theorem settledTo_eq_recorded_iff {caller vault bondingCurve : Pubkey} {now : Int64}
    {held : TokenAccount} (sound : account.Sound env (.pool creator seed))
    (signed : caller.canSign = true) (stored : world.pools (.pool creator seed) = some account)
    (bought : account.status = .Bought) (tokPositive : 0 < account.postVirtualTokenReserves)
    (quotePositive : 0 < account.postVirtualQuoteReserves)
    (vaultAt : world.tokens.lookup vault = some held)
    (owner : held.owner = .buyer (.pool creator seed)) (mint : held.mint = account.mint)
    (enough : account.tokensBought ≤ held.amount) :
    settledTo env world (.pool creator seed)
        (settleCall caller (.pool creator seed) account.mint vault bondingCurve now)
        = account.recordedSplit ↔
      account.PricedAlike (world.data env.encoding bondingCurve) := by
  -- The recorded split always computes, so the call has an amount to be compared with.
  have received := (sound.phase.unsplit bought).1
  have received := UInt64.lt_iff_toNat_lt.mp received
  have total := sound.spent_positive (.inl bought)
  have divides := UInt64.lt_iff_toNat_lt.mp quotePositive
  obtain ⟨⟨distributable, burned⟩, recorded⟩ := computeDistributable_total received divides total
    account.postVirtualTokenReserves
  have isRecorded : account.recordedSplit = some (distributable, burned) := by
    rw [Pool.recordedSplit, recorded]
    rfl
  have reserves := account.finalReserves_eq (world.data env.encoding bondingCurve)
  rw [isRecorded]
  obtain ⟨-, -, -, amount, sums⟩ := computeDistributable_ok.mp recorded
  by_cases short : (world.data env.encoding bondingCurve).length < 40
  · -- Too few bytes: the recorded reserves are used.
    rw [if_pos short] at reserves
    refine iff_of_true ?_ (.inl short)
    exact settledTo_eq_some sound signed stored bought vaultAt owner mint enough reserves
      tokPositive quotePositive recorded
  · -- Enough bytes: the call is priced at what they spell, whichever account they are in.
    rw [if_neg short] at reserves
    constructor
    · intro settled
      obtain ⟨vtok, vquote, priced, tok, quote, split⟩ := of_settledTo_eq_some stored settled
      rw [reserves, Except.ok.injEq, Prod.mk.injEq] at priced
      obtain ⟨rfl, rfl⟩ := priced
      obtain ⟨-, -, -, also, -⟩ := computeDistributable_ok.mp split
      exact .inr ⟨tok, quote, also.symm.trans amount⟩
    · intro alike
      rcases alike with fewer | ⟨tok, quote, same⟩
      · exact absurd fewer short
      · -- An equal amount, of the same number bought, leaves an equal surplus.
        have split : computeDistributable account.totalContributed account.tokensBought
            (wordAt ((world.data env.encoding bondingCurve).drop 8) 0)
            (wordAt ((world.data env.encoding bondingCurve).drop 8) 8) = .ok (distributable, burned) :=
          computeDistributable_ok.mpr ⟨received, UInt64.lt_iff_toNat_lt.mp quote, total,
            amount.trans same.symm, sums⟩
        exact settledTo_eq_some sound signed stored bought vaultAt owner mint enough reserves tok
          quote split

end Call

/--
Who can steer a finalization: exactly those who hand in bytes priced unlike the recorded reserves.

From any state in which a pool has bought into its vault, whatever happens until the call and whoever makes it.
-/
theorem finalization_steered_iff {env : Env} {start middle : World} {history : List Transition}
    (genesis : Genesis start) (run : Run env start history middle) {pool vault : Pubkey}
    {account : Pool} {held : TokenAccount} (stored : middle.pools pool = some account)
    (bought : account.status = .Bought) (tokPositive : 0 < account.postVirtualTokenReserves)
    (quotePositive : 0 < account.postVirtualQuoteReserves)
    (vaultAt : middle.tokens.lookup vault = some held) (owner : held.owner = .buyer pool)
    (mint : held.mint = account.mint) (enough : account.tokensBought ≤ held.amount) :
    ∀ later final, Run env middle later final →
    ∀ last, final.pools pool = some last → last.status = .Bought →
    ∀ caller bondingCurve now, caller.canSign = true →
      (settledTo env final pool (settleCall caller pool account.mint vault bondingCurve now)
        = account.recordedSplit ↔ account.PricedAlike (final.data env.encoding bondingCurve)) := by
  intro later final continued last storedLast still caller bondingCurve now signed
  -- The account and its vault are at the call what they were at the buy.
  have life := life_of_spent genesis run stored (.inl bought) continued
  have same := life.kept_of_bought bought storedLast still
  subst same
  have covers : last.VaultCovers pool vault middle := by
    refine .of_derived vaultAt rfl owner mint ?_
    simp only [Pool.vaulted, bought, reduceCtorEq, if_false]
    exact UInt64.le_iff_toNat_le.mp enough
  obtain ⟨atCall, storedAtCall, -, coversAtCall⟩ := life.vaultCovers (.inl bought) covers
  rw [storedLast, Option.some.injEq] at storedAtCall
  subst storedAtCall
  have reached := run.append continued
  obtain ⟨creator, seed, rfl⟩ := run_poolsAtHome genesis reached storedLast
  have sound := (run_poolInvariant genesis reached creator seed).account last storedLast
  have received := UInt64.lt_iff_toNat_lt.mp (sound.phase.unsplit bought).1
  unfold Pool.VaultCovers at coversAtCall
  simp only [Pool.vaulted, bought, reduceCtorEq, if_false] at coversAtCall
  -- A vault that covers a purchase of more than nothing is there to be named.
  rcases coversAtCall with nothing | ⟨kept, keptAt, keptOwner, keptMint, keptEnough⟩
  · rw [nothing] at received
    exact absurd received (Nat.lt_irrefl 0)
  · exact settledTo_eq_recorded_iff sound signed storedLast bought tokPositive quotePositive keptAt
      keptOwner keptMint
      (UInt64.le_iff_toNat_le.mpr ((Nat.le_add_right _ _).trans keptEnough))

namespace Sample

/-- The address of an account that someone else writes. -/
def forgery : Pubkey := .key 40

/-- An account of another program, written to spell reserves of next to nothing for a token. -/
def forged : List Action :=
  purchased ++ [⟨115, .writeAccount forgery {
    owner := .key 41
    data := List.replicate 8 0 ++ Borsh.u64 1 ++ Borsh.u64 18446744073709551615
      ++ List.replicate 16 0 }⟩]

end Sample

/-- In the sample launch the curve itself prices the split as the buy recorded it. -/
theorem finalization_steered_iff_sample : ∃ account,
    (Sample.reach Sample.purchased).pools Sample.pool = some account ∧
    settledTo Sample.env (Sample.reach Sample.purchased) Sample.pool
      (settleCall Sample.bob Sample.pool account.mint Sample.vault Sample.curve 120)
      = account.recordedSplit := by
  have live : ((Sample.reach Sample.purchased).pools Sample.pool).any (fun account =>
      account.status = .Bought ∧ 0 < account.postVirtualTokenReserves ∧
        0 < account.postVirtualQuoteReserves ∧ account.mint = Sample.mint ∧
        account.tokensBought = 111109467379353 ∧
        account.PricedAlike ((Sample.reach Sample.purchased).data Sample.env.encoding Sample.curve)) = true := by
    decide +kernel
  have held : (Sample.reach Sample.purchased).tokens.lookup Sample.vault
      = some {
      mint := Sample.mint, owner := .buyer Sample.pool, amount := 111109467379353 } := by decide +kernel
  obtain ⟨account, stored, facts⟩ := (Option.any_eq_true _ _).mp live
  simp only [decide_eq_true_eq] at facts
  obtain ⟨bought, tok, quote, mint, tokens, alike⟩ := facts
  have enough : account.tokensBought ≤ 111109467379353 := by rw [tokens]; decide
  -- No step is taken between the buy and the call.
  exact ⟨account, stored, (finalization_steered_iff Sample.genesis (Sample.run (by decide +kernel))
    stored bought tok quote held rfl mint.symm enough [] _ .nil account stored bought Sample.bob
    Sample.curve 120 rfl).mpr alike⟩

/-- With forged bytes anyone burns every token the pool bought; with the curve's own nobody does. -/
theorem finalization_forged :
    Run Sample.env Sample.start (Sample.past Sample.forged) (Sample.reach Sample.forged) ∧
      (Sample.reach Sample.forged).tokens.lookup Sample.vault
        = some {
      mint := Sample.mint, owner := .buyer Sample.pool, amount := 111109467379353 } ∧
      ∃ account, (Sample.reach Sample.forged).pools Sample.pool = some account ∧
        account.status = .Bought ∧ account.tokensBought = 111109467379353 ∧
        0 < account.postVirtualTokenReserves ∧ 0 < account.postVirtualQuoteReserves ∧
        account.recordedSplit = some (100600089733194, 10509377646159) ∧
        settledTo Sample.env (Sample.reach Sample.forged) Sample.pool
          (settleCall Sample.alice Sample.pool Sample.mint Sample.vault Sample.curve 120)
          = some (100600089733194, 10509377646159) ∧
        settledTo Sample.env (Sample.reach Sample.forged) Sample.pool
          (settleCall Sample.bob Sample.pool Sample.mint Sample.vault Sample.forgery 120)
          = some (0, 111109467379353) := by
  refine ⟨Sample.run (by decide +kernel), by decide +kernel, ?_⟩
  have live : ((Sample.reach Sample.forged).pools Sample.pool).any (fun account =>
      account.status = .Bought ∧ account.tokensBought = 111109467379353 ∧
        0 < account.postVirtualTokenReserves ∧ 0 < account.postVirtualQuoteReserves ∧
        account.recordedSplit = some (100600089733194, 10509377646159)) = true := by decide +kernel
  obtain ⟨account, stored, facts⟩ := (Option.any_eq_true _ _).mp live
  simp only [decide_eq_true_eq] at facts
  obtain ⟨bought, tokens, tok, quote, recorded⟩ := facts
  -- The two calls differ only in the account handed in as the curve.
  exact ⟨account, stored, bought, tokens, tok, quote, recorded, by decide +kernel, by decide +kernel⟩

end Batchit
