import Batchit.Pump
import Mathlib.Algebra.BigOperators.Group.Finset.Basic
import Mathlib.Algebra.BigOperators.Group.Finset.Piecewise

/-! What the runtime and pump document of themselves, for the results that assume it. -/

namespace Batchit

/-! ### The runtime's rule for a call -/

/-- The lamports the runtime sees at a call: edits are written back for the accounts handed on. -/
def writtenBack (start edited : Pubkey → UInt64) (handed : List Pubkey) (address : Pubkey) :
    UInt64 :=
  if address ∈ handed then edited address else start address

/-- The lamports of a caller's accounts, each counted once. -/
def totalLamports (lamports : Pubkey → UInt64) (accounts : List Pubkey) : Nat :=
  ∑ address ∈ accounts.toFinset, (lamports address).toNat

/-- The rule for a call: what is written back must leave the caller's total unchanged. -/
def balancedCall (start edited : Pubkey → UInt64) (accounts handed : List Pubkey) : Bool :=
  totalLamports (writtenBack start edited handed) accounts = totalLamports start accounts

section Balance

variable {world edited : World} {source target : Pubkey} {amount : UInt64}
variable {accounts handed : List Pubkey}

/-- Overwriting one account's lamports trades the old amount for the new one in a total. -/
theorem totalLamports_update (lamports : Pubkey → UInt64) {address : Pubkey} (new : UInt64)
    (listed : address ∈ accounts) :
    totalLamports (Function.update lamports address new) accounts + (lamports address).toNat
      = totalLamports lamports accounts + new.toNat := by
  have member : address ∈ accounts.toFinset := List.mem_toFinset.mpr listed
  -- Set the account aside in both sums.
  unfold totalLamports
  rw [← Finset.add_sum_erase _ _ member, ← Finset.add_sum_erase _ _ member,
    Function.update_self]
  -- Away from the account the two balances agree.
  have rest : ∑ other ∈ accounts.toFinset.erase address,
        (Function.update lamports address new other).toNat
      = ∑ other ∈ accounts.toFinset.erase address, (lamports other).toNat := by
    apply Finset.sum_congr rfl
    intro other away
    rw [Function.update_of_ne (Finset.ne_of_mem_erase away)]
  omega

/-- A move is seen as unbalanced when its target is handed on and its source is not. -/
theorem balancedCall_false (moved : World.Moved source target amount world edited)
    (positive : 0 < amount) (listed : target ∈ accounts) (handedOn : target ∈ handed)
    (keptBack : source ∉ handed) :
    balancedCall world.lamports edited.lamports accounts handed = false := by
  -- Only the target's gain is written back, so the total grows by the amount.
  have seen : writtenBack world.lamports edited.lamports handed
      = Function.update world.lamports target (edited.lamports target) := by
    funext address
    unfold writtenBack
    by_cases same : address = target
    · subst same
      rw [if_pos handedOn, Function.update_self]
    · rw [Function.update_of_ne same]
      split
      · rename_i onHand
        exact moved.others address (fun isSource => keptBack (isSource ▸ onHand)) same
      · rfl
  -- The target is listed, so what it gained shows in the total.
  have traded := totalLamports_update world.lamports (edited.lamports target) listed
  have reached := moved.reached
  have positive := UInt64.lt_iff_toNat_lt.mp positive
  rw [UInt64.toNat_zero] at positive
  simp only [balancedCall, seen, decide_eq_false_iff_not]
  omega

end Balance

/-! ### Pump's quote -/

/-- One of the fees pump charges on a net amount, rounded up. -/
def quoteFee (feeBps net : Nat) : Nat := (net * feeBps + 9999) / 10000

/-- The net lamports pump buys with out of a budget, and the two fees it takes on top. -/
def quoteNet (protocolFeeBps creatorFeeBps spendable : Nat) : Nat × Nat × Nat :=
  let net := spendable * 10000 / (10000 + (protocolFeeBps + creatorFeeBps))
  let protocolFee := quoteFee protocolFeeBps net
  let creatorFee := quoteFee creatorFeeBps net
  let fees := protocolFee + creatorFee
  (if net + fees > spendable then net - (net + fees - spendable) else net, protocolFee, creatorFee)

/-- The tokens a net amount buys at the given virtual reserves. -/
def quoteTokens (virtualTokenReserves virtualSolReserves net : Nat) : Nat :=
  (net - 1) * virtualTokenReserves / (virtualSolReserves + net - 1)

/-- A curve account's bytes with its four reserves overwritten. -/
def writeReserves (data : List UInt8) (reserves : BondingCurveReserves) : List UInt8 :=
  data.take 8 ++ (Borsh.u64 reserves.virtualTokenReserves
    ++ Borsh.u64 reserves.virtualQuoteReserves ++ Borsh.u64 reserves.realTokenReserves
    ++ Borsh.u64 reserves.realQuoteReserves) ++ data.drop 40

/-- The lamports still missing on an account that a buy allocates with the given size. -/
def missingRent (minimumBalance : Nat → UInt64) (world : World) (address : Pubkey) (space : Nat) :
    Nat :=
  if world.lamports address = 0 then (minimumBalance space).toNat else 0

/--
A buy as pump documents it.

The net lamports and the fees come out of the budget, the rent of the accounts it allocates does not.
A minimum of nothing, a second curve account that is not the coin's, and more tokens than the curve holds are refused.
No part of the protocol's fee is set aside to buy back with.
-/
def documentedBuy (minimumBalance : Nat → UInt64)
    (protocolFeeBps creatorFeeBps accumulatorSpace : Nat) (world : World)
    (accounts : BuyExactSolIn) (spendableSolIn minTokensOut : UInt64) : Option Fill := do
  let reserves ← (decodeBondingCurveReserves (world.info accounts.bondingCurve).data).toOption
  let (net, protocolFee, creatorFee) :=
    quoteNet protocolFeeBps creatorFeeBps spendableSolIn.toNat
  let tokens := quoteTokens reserves.virtualTokenReserves.toNat
    reserves.virtualQuoteReserves.toNat net
  let vaultRent := missingRent minimumBalance world accounts.creatorVault 0
  let accumulatorRent :=
    missingRent minimumBalance world accounts.userVolumeAccumulator accumulatorSpace
  if 0 < minTokensOut ∧ accounts.bondingCurveV2 = bondingCurveV2Pda accounts.mint ∧
      minTokensOut.toNat ≤ tokens ∧ tokens ≤ reserves.realTokenReserves.toNat ∧
      net + protocolFee + creatorFee + vaultRent + accumulatorRent
        ≤ (world.lamports accounts.user).toNat then
    some {
      toCurve := .ofNat net
      toFeeRecipient := .ofNat protocolFee
      toCreatorVault := .ofNat (creatorFee + vaultRent)
      toVolumeAccumulator := .ofNat accumulatorRent
      toBuyback := 0
      tokensOut := .ofNat tokens
      curve := writeReserves (world.info accounts.bondingCurve).data {
        virtualTokenReserves := reserves.virtualTokenReserves - .ofNat tokens
        virtualQuoteReserves := reserves.virtualQuoteReserves + .ofNat net
        realTokenReserves := reserves.realTokenReserves - .ofNat tokens
        realQuoteReserves := reserves.realQuoteReserves + .ofNat net } }
  else none

/-- An environment that behaves as documented, at the given fees. -/
def documentedEnv (encoding : Encoding) (protocolFeeBps creatorFeeBps accumulatorSpace : Nat) :
    Env where
  encoding := encoding
  bump _ := 255
  minimumBalance space := .ofNat ((space + 128) * 6960)
  buyExactSolIn := documentedBuy (fun space => .ofNat ((space + 128) * 6960)) protocolFeeBps
    creatorFeeBps accumulatorSpace
  admitsCall := balancedCall

end Batchit
