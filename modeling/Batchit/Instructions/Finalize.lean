import Batchit.Instructions.Accounts
import Batchit.Math

/-! Fixing what the contributors share, and burning the surplus. -/

namespace Batchit

/-- The accounts of `finalize`. -/
structure FinalizeAccounts where
  caller : Pubkey
  pool : Pubkey
  buyer : Pubkey
  mint : Pubkey
  associatedUser : Pubkey
  bondingCurve : Pubkey
  deriving DecidableEq, Repr

/-- The reserves the split is priced at: those in the account handed in, else those recorded. -/
def Pool.finalReserves (pool : Pool) (data : List UInt8) : Except Error (UInt64 × UInt64) :=
  if data.length ≥ 40 then do
    let r ← decodeBondingCurveReserves data
    return (r.virtualTokenReserves, r.virtualQuoteReserves)
  else
    .ok (pool.postVirtualTokenReserves, pool.postVirtualQuoteReserves)

/-- Burn the surplus out of the vault, when there is any. -/
def burnSurplus (tokens : Tokens) (vault mint buyer : Pubkey) (burned : UInt64) :
    Except Error Tokens :=
  if burned > 0 then tokens.burn vault mint buyer burned else .ok tokens

/-- The pool account a finalization leaves. -/
def Pool.finalized (pool : Pool) (distributable burned vtok vquote : UInt64) : Pool :=
  { pool with
    distributable
    burned
    postVirtualTokenReserves := vtok
    postVirtualQuoteReserves := vquote
    status := .Finalized }

/-- Anyone may settle a bought pool: what its contributors are not owed is burned. -/
def finalize (env : Env) (world : World) (accounts : FinalizeAccounts) : Except Error World := do
  signer accounts.caller
  let pool ← loadPool env world accounts.pool
  buyerSeeds env pool accounts.buyer accounts.pool
  let vault ← found (world.tokens.lookup accounts.associatedUser) .AccountNotInitialized
  require (vault.owner = accounts.buyer) .Unauthorized
  require (vault.mint = pool.mint) .MintMismatch
  require (pool.status = .Bought) .BadStatus
  require (pool.tokensBought > 0) .ZeroTokensBought
  -- Neither the owner nor the address of the account handed in as the curve is checked.
  let (vtok, vquote) ← pool.finalReserves (world.data env.encoding accounts.bondingCurve)
  require (vquote > 0 ∧ vtok > 0) .MathOverflow
  let (distributable, burned) ←
    computeDistributable pool.totalContributed pool.tokensBought vtok vquote
  let tokens ← burnSurplus world.tokens accounts.associatedUser accounts.mint accounts.buyer burned
  return (world.setTokens tokens).setPool accounts.pool
    (some (pool.finalized distributable burned vtok vquote))

/-- A bought pool is split at the reserves chosen, and only the surplus leaves the named vault. -/
theorem finalize_ok {env : Env} {world after : World} {accounts : FinalizeAccounts} :
    finalize env world accounts = .ok after ↔
      ∃ (pool : Pool) (vault : TokenAccount) (vtok vquote distributable burned : UInt64)
        (tokens : Tokens),
        accounts.caller.canSign = true ∧
        loadPool env world accounts.pool = .ok pool ∧
        buyerSeeds env pool accounts.buyer accounts.pool = .ok () ∧
        world.tokens.lookup accounts.associatedUser = some vault ∧
        vault.owner = accounts.buyer ∧
        vault.mint = pool.mint ∧
        pool.status = .Bought ∧
        0 < pool.tokensBought ∧
        pool.finalReserves (world.data env.encoding accounts.bondingCurve) = .ok (vtok, vquote) ∧
        0 < vquote ∧
        0 < vtok ∧
        computeDistributable pool.totalContributed pool.tokensBought vtok vquote
          = .ok (distributable, burned) ∧
        burnSurplus world.tokens accounts.associatedUser accounts.mint accounts.buyer burned
          = .ok tokens ∧
        after = (world.setTokens tokens).setPool accounts.pool
          (some (pool.finalized distributable burned vtok vquote)) := by
  -- The guards are the conjuncts in the order they are tried.
  simp only [finalize, bind_eq_ok, signer_ok, found_eq_ok, require_eq_ok, pure_eq_ok, exists_const]
  constructor
  · intro taken
    obtain ⟨signed, pool, loaded, _, buyer, vault, stored, owned, ofMint, bought, some', ⟨vtok,
      vquote⟩, priced, ⟨quotePositive, tokPositive⟩, ⟨distributable, burned⟩, split, tokens, burnt,
      rfl⟩ := taken
    exact ⟨pool, vault, vtok, vquote, distributable, burned, tokens, signed, loaded, buyer, stored,
      owned, ofMint, bought, some', priced, quotePositive, tokPositive, split, burnt, rfl⟩
  · intro facts
    obtain ⟨pool, vault, vtok, vquote, distributable, burned, tokens, signed, loaded, buyer, stored,
      owned, ofMint, bought, some', priced, quotePositive, tokPositive, split, burnt, rfl⟩ := facts
    exact ⟨signed, pool, loaded, (), buyer, vault, stored, owned, ofMint, bought, some',
      (vtok, vquote), priced, ⟨quotePositive, tokPositive⟩, (distributable, burned), split, tokens,
      burnt, rfl⟩

end Batchit
