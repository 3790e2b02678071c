import Batchit.Error
import Batchit.Lib.Checked

/-! The program's burn and split arithmetic: 64-bit inputs, 128-bit products, and a narrowing cast. -/

namespace Batchit

/-- The product of two 64-bit words in 128 bits, or nothing when it does not fit. -/
def checkedMul128 (a b : UInt64) : Option Nat :=
  if a.toNat * b.toNat < 2 ^ 128 then some (a.toNat * b.toNat) else none

/-- The quotient of a 128-bit number by a 64-bit word, or nothing when the divisor is zero. -/
def checkedDiv128 (a : Nat) (b : UInt64) : Option Nat :=
  if b.toNat = 0 then none else some (a / b.toNat)

/--
Distributable tokens and surplus to burn, from post-buy reserves and the pool's lamports.

The quotient is cast to 64 bits before it is capped, as `as u64` does.
-/
def computeDistributable (totalContributed tokensBought postVirtualTokenReserves
    postVirtualQuoteReserves : UInt64) : Except Error (UInt64 × UInt64) := do
  require (tokensBought > 0) .ZeroTokensBought
  require (postVirtualQuoteReserves > 0) .MathOverflow
  require (totalContributed > 0) .ZeroAmount
  let num ← okOr (checkedMul128 totalContributed postVirtualTokenReserves) .MathOverflow
  let quotient ← okOr (checkedDiv128 num postVirtualQuoteReserves) .MathOverflow
  let distributable := UInt64.ofNat quotient
  let distributable := if distributable > tokensBought then tokensBought else distributable
  let burned ← okOr (tokensBought.checkedSub distributable) .MathOverflow
  return (distributable, burned)

/-- A contributor's share of the distributable tokens, rounded down. -/
def allocation (distributable contribution totalContributed : UInt64) : Except Error UInt64 := do
  require (totalContributed > 0) .ZeroAmount
  if contribution = 0 ∨ distributable = 0 then
    return 0
  let n ← okOr (checkedMul128 distributable contribution) .MathOverflow
  return UInt64.ofNat (n / totalContributed.toNat)

/-- A product of two 64-bit words always fits in 128 bits. -/
theorem checkedMul128_eq (a b : UInt64) : checkedMul128 a b = some (a.toNat * b.toNat) := by
  -- Each factor is below 2^64, so the product is below 2^128.
  have left := a.toNat_lt
  have right := b.toNat_lt
  have fits : a.toNat * b.toNat < 2 ^ 64 * 2 ^ 64 := Nat.mul_lt_mul'' left right
  exact if_pos (by simpa using fits)

/-- The distributable amount before the cap, as the cast leaves it. -/
def castQuotient (totalContributed postVirtualTokenReserves postVirtualQuoteReserves : UInt64) :
    Nat :=
  totalContributed.toNat * postVirtualTokenReserves.toNat / postVirtualQuoteReserves.toNat % 2 ^ 64

/-- Casting a quotient and capping it leaves the smaller of its low 64 bits and the cap. -/
theorem toNat_capped (quotient : Nat) (cap : UInt64) :
    (if UInt64.ofNat quotient > cap then cap else UInt64.ofNat quotient).toNat =
      min (quotient % 2 ^ 64) cap.toNat := by
  -- The comparison of words is the comparison of the numbers they stand for.
  split
  · rename_i above
    have above := UInt64.lt_iff_toNat_lt.mp above
    rw [UInt64.toNat_ofNat'] at above
    omega
  · rename_i below
    have below := UInt64.le_iff_toNat_le.mp (UInt64.not_lt.mp below)
    rw [UInt64.toNat_ofNat'] at below ⊢
    omega

/-- The program splits exactly the nonzero inputs, at the cast quotient capped by what was bought. -/
theorem computeDistributable_ok {total bought vtok vquote distributable burned : UInt64} :
    computeDistributable total bought vtok vquote = .ok (distributable, burned) ↔
      0 < bought.toNat ∧ 0 < vquote.toNat ∧ 0 < total.toNat ∧
      distributable.toNat = min (castQuotient total vtok vquote) bought.toNat ∧
      distributable.toNat + burned.toNat = bought.toNat := by
  -- The guards leave a nonzero divisor, so only the cast and the cap shape the result.
  have boughtPositive : bought > 0 ↔ 0 < bought.toNat := UInt64.lt_iff_toNat_lt
  have quotePositive : vquote > 0 ↔ 0 < vquote.toNat := UInt64.lt_iff_toNat_lt
  have totalPositive : total > 0 ↔ 0 < total.toNat := UInt64.lt_iff_toNat_lt
  have capped := toNat_capped (total.toNat * vtok.toNat / vquote.toNat) bought
  simp only [computeDistributable, bind_eq_ok, require_eq_ok, okOr_eq_ok, checkedMul128_eq,
    pure_eq_ok, exists_const, Option.some.injEq, exists_eq_left', checkedDiv128, boughtPositive,
    quotePositive, totalPositive]
  constructor
  · intro taken
    obtain ⟨someBought, someQuote, someTotal, quotient, divided, rest, subtracted, same⟩ := taken
    simp only [Prod.mk.injEq] at same
    obtain ⟨rfl, rfl⟩ := same
    rw [if_neg (by omega), Option.some.injEq] at divided
    subst divided
    rw [UInt64.checkedSub_eq_some] at subtracted
    exact ⟨someBought, someQuote, someTotal, capped, by omega⟩
  · intro facts
    obtain ⟨someBought, someQuote, someTotal, isCapped, sums⟩ := facts
    -- The word the cap leaves is the claimed one, since both stand for the same number.
    have word := UInt64.toNat_inj.mp (capped.trans isCapped.symm)
    refine ⟨someBought, someQuote, someTotal, _, if_neg (by omega), burned, ?_, by rw [word]⟩
    rw [word, UInt64.checkedSub_eq_some]
    omega

/-- Nonzero inputs are always split. -/
theorem computeDistributable_total {total bought vquote : UInt64} (someBought : 0 < bought.toNat)
    (someQuote : 0 < vquote.toNat) (someTotal : 0 < total.toNat) (vtok : UInt64) :
    ∃ result, computeDistributable total bought vtok vquote = .ok result := by
  -- The capped quotient fits in a word, and so does what it leaves of the cap.
  let capped := min (castQuotient total vtok vquote) bought.toNat
  have width := bought.toNat_lt
  have fits : capped ≤ bought.toNat := Nat.min_le_right _ _
  have word : (UInt64.ofNat capped).toNat = capped := by
    rw [UInt64.toNat_ofNat', Nat.mod_eq_of_lt (by omega)]
  obtain ⟨burned, -, sums⟩ :=
    UInt64.checkedSub_of_le (a := bought) (b := .ofNat capped) (by omega)
  exact ⟨(.ofNat capped, burned),
    computeDistributable_ok.mpr ⟨someBought, someQuote, someTotal, word, by omega⟩⟩

/-- An allocation succeeds exactly against a nonzero total, at the cast pro-rata quotient. -/
theorem allocation_ok {distributable contribution total share : UInt64} :
    allocation distributable contribution total = .ok share ↔
      0 < total.toNat ∧
      share.toNat = distributable.toNat * contribution.toNat / total.toNat % 2 ^ 64 := by
  -- A zero factor takes the early return, which is the quotient anyway.
  have totalPositive : total > 0 ↔ 0 < total.toNat := UInt64.lt_iff_toNat_lt
  simp only [allocation, bind_eq_ok, require_eq_ok, exists_const, totalPositive]
  apply and_congr_right
  intro someTotal
  split
  · rename_i zero
    have nothing : distributable.toNat * contribution.toNat = 0 := by
      rcases zero with rfl | rfl <;> simp
    rw [pure_eq_ok, nothing, Nat.zero_div, Nat.zero_mod, ← UInt64.toNat_inj, eq_comm]
    rfl
  · simp only [bind_eq_ok, okOr_eq_ok, checkedMul128_eq, Option.some.injEq, exists_eq_left',
      pure_eq_ok]
    rw [← UInt64.toNat_inj, UInt64.toNat_ofNat', eq_comm]

/-- An allocation against a nonzero total always succeeds. -/
theorem allocation_total {total : UInt64} (someTotal : 0 < total.toNat)
    (distributable contribution : UInt64) :
    ∃ share, allocation distributable contribution total = .ok share := by
  -- The word the cast leaves is the share.
  exact ⟨.ofNat (distributable.toNat * contribution.toNat / total.toNat),
    allocation_ok.mpr ⟨someTotal, by rw [UInt64.toNat_ofNat']⟩⟩

/-- A share of a stake no larger than the total never exceeds the distributable amount. -/
theorem proRata_le {distributable contribution total : Nat} (part : contribution ≤ total) :
    distributable * contribution / total ≤ distributable := by
  -- The stake is at most the divisor, so dividing gives back at most the other factor.
  apply Nat.div_le_of_le_mul
  rw [Nat.mul_comm total]
  exact Nat.mul_le_mul_left distributable part

/-- For a stake no larger than the total, the cast in an allocation loses nothing. -/
theorem allocation_exact {distributable contribution total share : UInt64}
    (part : contribution.toNat ≤ total.toNat) :
    allocation distributable contribution total = .ok share ↔
      0 < total.toNat ∧
      share.toNat = distributable.toNat * contribution.toNat / total.toNat := by
  -- The quotient is at most the distributable amount, which is a word.
  have width := distributable.toNat_lt
  have bound : distributable.toNat * contribution.toNat / total.toNat ≤ distributable.toNat :=
    proRata_le part
  rw [allocation_ok, Nat.mod_eq_of_lt (by omega)]

end Batchit
