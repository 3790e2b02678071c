import Batchit.Instructions.Accounts
import Batchit.Math

/-! Paying a contributor its share of the distributable tokens. -/

namespace Batchit

/-- The accounts of `claim`. -/
structure ClaimAccounts where
  contributor : Pubkey
  pool : Pubkey
  contribution : Pubkey
  buyer : Pubkey
  vaultAta : Pubkey
  contributorAta : Pubkey
  deriving DecidableEq, Repr

/-- Pay a share out of the vault, when it is not zero. -/
def payShare (tokens : Tokens) (vault contributorAta buyer : Pubkey) (share : UInt64) :
    Except Error Tokens :=
  if share > 0 then tokens.transfer vault contributorAta buyer share else .ok tokens

/-- A contributor of a finalized pool takes its share of the tokens, once. -/
def claim (env : Env) (world : World) (accounts : ClaimAccounts) : Except Error World := do
  signer accounts.contributor
  let pool ← loadPool env world accounts.pool
  let contrib ← loadContribution env world accounts.contribution accounts.pool accounts.contributor
  buyerSeeds env pool accounts.buyer accounts.pool
  let vaultAta ← found (world.tokens.lookup accounts.vaultAta) .AccountNotInitialized
  require (vaultAta.owner = accounts.buyer) .Unauthorized
  require (vaultAta.mint = pool.mint) .MintMismatch
  let contributorAta ←
    found (world.tokens.lookup accounts.contributorAta) .AccountNotInitialized
  require (contributorAta.owner = accounts.contributor) .Unauthorized
  require (contributorAta.mint = pool.mint) .MintMismatch
  require (pool.status = .Finalized) .ClaimNotAllowed
  require (contrib.contributor = accounts.contributor) .NotContributor
  require (contrib.claimed = false) .NothingToClaim
  require (contrib.refunded = false) .NothingToClaim
  require (contrib.amount > 0) .NothingToClaim
  let share ← allocation pool.distributable contrib.amount pool.totalContributed
  -- A share of nothing is claimed only when there is nothing to share.
  require (share > 0 ∨ pool.distributable = 0) .NothingToClaim
  let tokens ← payShare world.tokens accounts.vaultAta accounts.contributorAta accounts.buyer share
  let totalClaimed ← okOr (pool.totalClaimed.checkedAdd share) .MathOverflow
  return ((world.setTokens tokens).setContribution accounts.contribution
    { contrib with claimed := true }).setPool accounts.pool (some { pool with totalClaimed })

/-- The token accounts a claim may name: a vault of the buyer and an account of the claimant. -/
structure ClaimAccounts.Checked (env : Env) (world : World) (accounts : ClaimAccounts)
    (pool : Pool) (contrib : Contribution) (vaultAta contributorAta : TokenAccount) : Prop where
  signed : accounts.contributor.canSign = true
  loaded : loadPool env world accounts.pool = .ok pool
  record : loadContribution env world accounts.contribution accounts.pool accounts.contributor
    = .ok contrib
  buyer : buyerSeeds env pool accounts.buyer accounts.pool = .ok ()
  vault : world.tokens.lookup accounts.vaultAta = some vaultAta
  vaultOwner : vaultAta.owner = accounts.buyer
  vaultMint : vaultAta.mint = pool.mint
  ata : world.tokens.lookup accounts.contributorAta = some contributorAta
  ataOwner : contributorAta.owner = accounts.contributor
  ataMint : contributorAta.mint = pool.mint

/-- A claim pays one unclaimed stake its allocation, once. -/
theorem claim_ok {env : Env} {world after : World} {accounts : ClaimAccounts} :
    claim env world accounts = .ok after ↔
      ∃ (pool : Pool) (contrib : Contribution) (vaultAta contributorAta : TokenAccount)
        (share totalClaimed : UInt64) (tokens : Tokens),
        accounts.Checked env world pool contrib vaultAta contributorAta ∧
        pool.status = .Finalized ∧
        contrib.contributor = accounts.contributor ∧
        contrib.claimed = false ∧
        contrib.refunded = false ∧
        0 < contrib.amount ∧
        allocation pool.distributable contrib.amount pool.totalContributed = .ok share ∧
        (0 < share ∨ pool.distributable = 0) ∧
        payShare world.tokens accounts.vaultAta accounts.contributorAta accounts.buyer share
          = .ok tokens ∧
        totalClaimed.toNat = pool.totalClaimed.toNat + share.toNat ∧
        after = ((world.setTokens tokens).setContribution accounts.contribution
          { contrib with claimed := true }).setPool accounts.pool
          (some { pool with totalClaimed }) := by
  -- The guards are the conjuncts in the order they are tried.
  simp only [claim, bind_eq_ok, signer_ok, found_eq_ok, require_eq_ok, okOr_eq_ok, pure_eq_ok,
    exists_const, UInt64.checkedAdd_eq_some]
  constructor
  · intro taken
    obtain ⟨signed, pool, loaded, contrib, record, _, buyer, vaultAta, vault, vaultOwner, vaultMint,
      contributorAta, ata, ataOwner, ataMint, settled, owner, unclaimed, unrefunded, positive,
      share, allocated, owed, tokens, paid, totalClaimed, added, rfl⟩ := taken
    exact ⟨pool, contrib, vaultAta, contributorAta, share, totalClaimed, tokens,
      ⟨signed, loaded, record, buyer, vault, vaultOwner, vaultMint, ata, ataOwner, ataMint⟩,
      settled, owner, unclaimed, unrefunded, positive, allocated, owed, paid, added, rfl⟩
  · intro facts
    obtain ⟨pool, contrib, vaultAta, contributorAta, share, totalClaimed, tokens, ⟨signed, loaded,
      record, buyer, vault, vaultOwner, vaultMint, ata, ataOwner, ataMint⟩, settled, owner,
      unclaimed, unrefunded, positive, allocated, owed, paid, added, rfl⟩ := facts
    exact ⟨signed, pool, loaded, contrib, record, (), buyer, vaultAta, vault, vaultOwner, vaultMint,
      contributorAta, ata, ataOwner, ataMint, settled, owner, unclaimed, unrefunded, positive,
      share, allocated, owed, tokens, paid, totalClaimed, added, rfl⟩

end Batchit
