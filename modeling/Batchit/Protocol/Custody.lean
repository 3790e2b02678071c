import Batchit.Protocol.Lifecycle
import Batchit.TokenLaws

/-! Where the tokens go: what each step can do to token accounts, and what stays in a vault. -/

namespace Batchit

/-- Everything a step can do to the token accounts. -/
inductive TokenEffect (before : World) (action : Action) (after : World) : Prop where
  | unchanged (same : after.tokens = before.tokens)
  | outside (instruction : TokenInstruction) (sent : action.instruction = .token instruction)
      (processed : before.tokens.process instruction = .ok after.tokens)
  /-- Pump pays out of the curve's own account. -/
  | bought (source destination mint : Pubkey) (amount : UInt64)
      (moved : before.tokens.transfer source destination (bondingCurvePda mint) amount
        = .ok after.tokens)
  /-- A pool's buyer burns its surplus. -/
  | burned (accounts : FinalizeAccounts) (amount : UInt64)
      (instruction : action.instruction = .finalize accounts)
      (buyer : accounts.buyer = .buyer accounts.pool)
      (burnt : burnSurplus before.tokens accounts.associatedUser accounts.mint accounts.buyer amount
        = .ok after.tokens)
  /-- A pool's buyer pays a share. -/
  | paid (accounts : ClaimAccounts) (share : UInt64)
      (instruction : action.instruction = .claim accounts)
      (buyer : accounts.buyer = .buyer accounts.pool)
      (moved : payShare before.tokens accounts.vaultAta accounts.contributorAta accounts.buyer share
        = .ok after.tokens)

/-- Every step has one of the effects on the token accounts. -/
theorem step_tokenEffect {env : Env} {world after : World} {action : Action}
    (home : world.RecordsAtHome) (taken : step env world action = .ok after) :
    TokenEffect world action after := by
  obtain ⟨now, instruction⟩ := action
  -- Three of the program's instructions move tokens; everything else moves lamports or bytes.
  cases instruction with
  | createPool accounts args =>
    obtain ⟨paid, _, signed, address, -, -, rent, -, -, -, -, -, -, rfl⟩ := createPool_ok.mp taken
    have differ : accounts.creator ≠ accounts.pool :=
      Pubkey.ne_of_canSign signed (by rw [address]; rfl)
    exact .unchanged (World.moveLamports_moved differ rent).tokens
  | contribute accounts amount =>
    obtain ⟨account, opened, allocated, paid, _, _, _, signed, loaded, address, ready, -, -, -, -, -,
      -, transferred, -, -, -, -, rfl⟩ := (contribute_ok home.stakes).mp taken
    have moved := World.moveLamports_moved (signer_ne_pool signed loaded) transferred
    -- The rent of a new record moves lamports only.
    have same : opened.tokens = world.tokens := by
      rcases initIfNeeded_paid signed address ready with rfl | ⟨rent, rented⟩
      · rfl
      · exact rented.tokens
    exact .unchanged (moved.tokens.trans same)
  | beginLaunch accounts mint =>
    obtain ⟨_, -, -, -, -, -, -, -, -, rfl⟩ := beginLaunch_ok.mp taken
    exact .unchanged rfl
  | completeBuy accounts minTokensOut =>
    obtain ⟨account, credited, checked, done⟩ := completeBuy_ok.mp taken
    rcases done with ⟨-, rfl⟩ | ⟨edited, filled, reloaded, -, -, -, -, -, -, -, moved, called, -, -,
      rfl⟩
    · exact .unchanged rfl
    · obtain ⟨_, fill, paid, tokens, -, curve, -, -, -, -, foreign, payments, transferred, rfl⟩ :=
        cpiBuyExactSolIn_ok.mp called
      -- The escrow and what pump is paid are lamports, and move no tokens.
      have edit := World.moveLamports_moved (pool_ne_buyer checked.loaded checked.buyer) moved
      have out := Fill.paidOut (derived_of_buyerSeeds checked.buyer) foreign payments
      rw [out.tokens, edit.tokens, curve] at transferred
      exact .bought _ _ _ _ transferred
  | finalize accounts =>
    obtain ⟨_, _, _, _, _, burned, tokens, -, -, buyer, -, -, -, -, -, -, -, -, -, burnt, rfl⟩ :=
      finalize_ok.mp taken
    exact .burned accounts burned rfl (buyerSeeds_ok.mp buyer).1 burnt
  | claim accounts =>
    obtain ⟨_, _, _, _, share, _, tokens, checked, -, -, -, -, -, -, -, paid, -, rfl⟩ :=
      claim_ok.mp taken
    exact .paid accounts share rfl (buyerSeeds_ok.mp checked.buyer).1 paid
  | refund accounts =>
    obtain ⟨_, _, _, _, paid, signed, loaded, -, -, -, -, -, -, -, -, edited, rfl⟩ :=
      refund_ok.mp taken
    exact .unchanged (World.moveLamports_moved (signer_ne_pool signed loaded).symm edited).tokens
  | markRefundable accounts =>
    obtain ⟨_, -, -, -, -, rfl⟩ := markRefundable_ok.mp taken
    exact .unchanged rfl
  | closePool accounts =>
    obtain ⟨_, paid, signed, loaded, -, -, -, transferred, rfl⟩ := closePool_ok.mp taken
    have moved := World.moveLamports_moved (signer_ne_pool signed loaded).symm transferred
    exact .unchanged moved.tokens
  | systemTransfer source target amount =>
    simp only [step, bind_eq_ok, constraint_eq_ok, exists_const] at taken
    obtain ⟨-, differ, transferred⟩ := taken
    exact .unchanged (World.moveLamports_moved differ transferred).tokens
  | token instruction =>
    simp only [step, bind_eq_ok, pure_eq_ok] at taken
    obtain ⟨tokens, processed, rfl⟩ := taken
    exact .outside instruction rfl processed
  | writeAccount address info =>
    simp only [step, bind_eq_ok, constraint_eq_ok, exists_const, pure_eq_ok] at taken
    obtain ⟨-, -, rfl⟩ := taken
    exact .unchanged rfl
  | pumpCreate mint data =>
    simp only [step, bind_eq_ok, constraint_eq_ok, exists_const, pure_eq_ok] at taken
    obtain ⟨-, rfl⟩ := taken
    exact .unchanged rfl
  | pumpTrade side trader mint amount data =>
    obtain ⟨paid, -, -, -, differ, transferred, rfl⟩ := pumpTrade_ok taken
    exact .unchanged (World.moveLamports_moved differ transferred).tokens

/-! ### Supplies stay in 64 bits -/

/-- Every mint's supply fits in 64 bits. -/
def World.SuppliesFit (world : World) : Prop := ∀ mint, world.tokens.supply mint < 2 ^ 64

/-- No effect takes a supply past its 64 bits. -/
theorem TokenEffect.suppliesFit {before after : World} {action : Action}
    (effect : TokenEffect before action after) (fit : before.SuppliesFit) : after.SuppliesFit := by
  intro mint
  have bounded := fit mint
  -- Transfers keep a supply and burns lower it; only an outsider's minting raises one, and that
  -- is checked.
  cases effect with
  | unchanged same =>
    rw [same]
    exact bounded
  | outside instruction _ processed => exact Tokens.process_supply processed fit mint
  | bought source destination named amount moved =>
    rw [Tokens.transfer_supply moved]
    exact bounded
  | burned accounts amount instruction buyer burnt =>
    unfold burnSurplus at burnt
    split at burnt
    · have less := Tokens.burn_supply burnt mint
      omega
    · rw [← Except.ok.inj burnt]
      exact bounded
  | paid accounts share instruction buyer moved =>
    unfold payShare at moved
    split at moved
    · rw [Tokens.transfer_supply moved]
      exact bounded
    · rw [← Except.ok.inj moved]
      exact bounded

/-- Every supply of every reachable state fits in 64 bits. -/
theorem run_suppliesFit {env : Env} {start world : World} {history : List Transition}
    (genesis : Genesis start) (run : Run env start history world) : world.SuppliesFit := by
  -- Only minting adds to a supply, and it is checked.
  apply run.extends
  · exact genesis.supply
  · intro past pre action post before fit taken
    exact (step_tokenEffect (run_recordsAtHome genesis before) taken).suppliesFit fit

/-! ### A pool's vault -/

section Vault

variable {before after : World} {action : Action} {pool vault mint : Pubkey} {least : Nat}

/-- Whether an instruction moves tokens out of a pool's vaults. -/
def Instruction.draws (pool : Pubkey) : Instruction → Bool
  | .finalize accounts => accounts.pool = pool
  | .claim accounts => accounts.pool = pool
  | _ => false

/-- Only a pool's own finalization and claims take tokens its buyer holds. -/
theorem TokenEffect.holds (effect : TokenEffect before action after)
    (holds : before.tokens.Holds vault (.buyer pool) mint least)
    (other : action.instruction.draws pool = false) :
    after.tokens.Holds vault (.buyer pool) mint least := by
  -- Whatever moves tokens is signed by their owner, and a buyer signs only for its own pool.
  cases effect with
  | unchanged same =>
    rw [same]
    exact holds
  | outside instruction _ processed => exact holds.process rfl processed
  | bought source destination named amount moved =>
    -- A curve is a pump address, not a buyer.
    exact holds.transfer_other (by simp [bondingCurvePda]) moved
  | burned accounts amount instruction buyer burnt =>
    unfold burnSurplus at burnt
    split at burnt
    · refine holds.burn_other ?_ burnt
      rw [buyer]
      intro same
      rw [instruction] at other
      simp only [Pubkey.buyer.injEq] at same
      simp [Instruction.draws, same] at other
    · rw [← Except.ok.inj burnt]
      exact holds
  | paid accounts share instruction buyer moved =>
    unfold payShare at moved
    split at moved
    · refine holds.transfer_other ?_ moved
      rw [buyer]
      intro same
      rw [instruction] at other
      simp only [Pubkey.buyer.injEq] at same
      simp [Instruction.draws, same] at other
    · rw [← Except.ok.inj moved]
      exact holds

/-- Burning a surplus takes at most the surplus from any one vault. -/
theorem burnSurplus_holds {tokens left : Tokens} {named burning buyer : Pubkey} {burned : UInt64}
    (holds : tokens.Holds vault (.buyer pool) mint least)
    (burnt : burnSurplus tokens burning named buyer burned = .ok left) :
    left.Holds vault (.buyer pool) mint (least - burned.toNat) := by
  unfold burnSurplus at burnt
  split at burnt
  · exact holds.burn burnt
  · -- With nothing to burn no instruction is sent.
    rw [← Except.ok.inj burnt]
    exact holds.mono (Nat.sub_le _ _)

/-- Paying a share takes at most the share from any one vault. -/
theorem payShare_holds {tokens left : Tokens} {paying paid buyer : Pubkey} {share : UInt64}
    (holds : tokens.Holds vault (.buyer pool) mint least)
    (moved : payShare tokens paying paid buyer share = .ok left) :
    left.Holds vault (.buyer pool) mint (least - share.toNat) := by
  unfold payShare at moved
  split at moved
  · exact holds.transfer moved
  · -- With nothing to pay no instruction is sent.
    rw [← Except.ok.inj moved]
    exact holds.mono (Nat.sub_le _ _)

/-- What a pool's vault must still cover: what was bought, or what is left to claim. -/
def Pool.vaulted (account : Pool) : Nat :=
  if account.status = .Finalized then account.distributable.toNat - account.totalClaimed.toNat
  else account.tokensBought.toNat

/-- A vault of the pool's buyer that covers what it must. -/
def Pool.VaultCovers (account : Pool) (pool vault : Pubkey) (world : World) : Prop :=
  world.tokens.Holds vault (.buyer pool) account.mint account.vaulted

/-- A pool that has bought owes its contributors tokens, so it cannot be empty. -/
theorem Pool.Sound.spent_positive {env : Env} {account : Pool} (sound : account.Sound env pool)
    (spent : account.status = .Bought ∨ account.status = .Finalized) :
    0 < account.totalContributed.toNat := by
  -- It met its raise, which is at least one minimal contribution.
  obtain ⟨-, raised, -⟩ := sound.phase.raised (.inr spent)
  have raised := UInt64.le_iff_toNat_le.mp raised
  have raise := sound.raise
  have least := sound.least
  omega

/-- Closing needs an empty pool, so a pool that has bought is never closed. -/
theorem Effect.open_of_spent {env : Env} {account : Pool}
    (effect : Effect env pool before action after) (stored : before.pools pool = some account)
    (sound : account.Sound env pool)
    (spent : account.status = .Bought ∨ account.status = .Finalized) :
    closes pool ⟨before, action, after⟩ = false := by
  by_contra closing
  rw [Bool.not_eq_false] at closing
  obtain ⟨accounts, live, closed⟩ := effect.closed_of_closes closing
  have same := closed.stored
  rw [stored, Option.some.injEq] at same
  -- A closing is accepted only with nothing contributed left.
  have positive := sound.spent_positive spent
  rw [same, closed.empty, UInt64.toNat_zero] at positive
  omega

/-- A vault that covers what it must goes on doing so, whatever step is taken. -/
theorem Effect.vaultCovers {env : Env} {account later : Pool}
    (effect : Effect env pool before action after) (tokens : TokenEffect before action after)
    (stored : before.pools pool = some account) (sound : account.Sound env pool)
    (spent : account.status = .Bought ∨ account.status = .Finalized)
    (storedAfter : after.pools pool = some later)
    (covers : account.VaultCovers pool vault before) : later.VaultCovers pool vault after := by
  have found {other : Pool} (also : before.pools pool = some other) : other = account := by
    rw [stored, Option.some.injEq] at also
    exact also.symm
  -- A step that keeps the account and draws nothing keeps the cover.
  have kept (same : after.pools pool = before.pools pool)
      (quiet : action.instruction.draws pool = false) : later.VaultCovers pool vault after := by
    rw [same, stored, Option.some.injEq] at storedAfter
    subst storedAfter
    exact tokens.holds covers quiet
  cases effect with
  | untouched other frame =>
    refine kept frame.account ?_
    generalize action.instruction = instruction at other
    cases instruction <;> simp_all [Instruction.concerns, Instruction.draws]
  | created _ _ _ effect =>
    have unused := effect.unused
    rw [stored] at unused
    cases unused
  -- A pool that has bought accepts no contribution, launch or second buy.
  | contributed _ _ _ _ _ _ effect =>
    rw [← found effect.stored, effect.status] at spent
    simp at spent
  | launched _ _ _ effect =>
    rw [← found effect.stored, effect.status] at spent
    simp at spent
  | spent _ _ _ _ _ effect =>
    rw [← found effect.stored, effect.status] at spent
    simp at spent
  | repeated _ _ _ effect =>
    exact kept (by rw [effect.same]) (by rw [effect.instruction]; rfl)
  | settled _ _ _ _ _ distributable burned effect =>
    obtain rfl := found effect.stored
    rw [effect.accountAfter, Option.some.injEq] at storedAfter
    subst storedAfter
    obtain ⟨-, -, -, -, sums⟩ := computeDistributable_ok.mp effect.split
    have burnt := burnSurplus_holds covers effect.burnt
    -- Burning the surplus leaves the distributable amount, of which nothing more is needed.
    refine burnt.mono ?_
    have bought := effect.status
    simp only [Pool.vaulted, Pool.finalized, bought, if_true, reduceCtorEq, if_false]
    omega
  | claimed _ _ _ _ _ share _ effect =>
    obtain rfl := found effect.stored
    rw [effect.accountAfter, Option.some.injEq] at storedAfter
    subst storedAfter
    have paid := payShare_holds covers effect.paid
    -- What leaves the vault is what the pool records as claimed.
    refine paid.mono ?_
    have added := effect.added
    simp only [Pool.vaulted, effect.status, if_true]
    omega
  | refunded _ _ _ _ _ effect =>
    have early := Pool.early_of_refundAllowed effect.allowed
    rw [found effect.stored] at early
    rcases spent with status | status
    · exact absurd status early.1
    · exact absurd status early.2
  | marked _ _ effect =>
    have status := effect.status
    rw [found effect.stored] at status
    rcases spent with spent | spent <;> simp [spent] at status
  | closed _ _ effect =>
    rw [effect.accountAfter] at storedAfter
    cases storedAfter
  | endowed _ _ effect => exact kept effect.account (by rw [effect.instruction]; rfl)

/-- A buy into an account of the buyer puts everything bought into it. -/
theorem Spent.vaultCovers {env : Env} {accounts : CompleteBuyAccounts} {minTokensOut : UInt64}
    {account : Pool} {credited : TokenAccount} {fill : Fill}
    (effect : Spent env pool before action after accounts minTokensOut account credited fill)
    (owned : credited.owner = .buyer pool) :
    (account.bought fill.tokensOut (recordedReserves fill.curve)).VaultCovers pool
      accounts.associatedUser after := by
  -- The transfer added the tokens bought to whatever the account held.
  obtain ⟨paying, paid, rest, sum, -, paidAt, -, -, -, reached, moved⟩ :=
    (Tokens.transfer_ok effect.distinct).mp effect.tokens
  rw [effect.user, Option.some.injEq] at paidAt
  subst paidAt
  have stored : after.tokens.lookup accounts.associatedUser
      = some { credited with amount := sum } := by
    rw [moved, AList.lookup_insert]
  -- It is the buyer's, so nothing of it is approved.
  refine .of_derived stored rfl owned effect.userMint ?_
  simp only [Pool.vaulted, Pool.bought, reduceCtorEq, if_false]
  omega

end Vault

end Batchit
