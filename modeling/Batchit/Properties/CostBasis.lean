import Batchit.Core.Burn
import Batchit.Lib.ProRata

/-! What a share is worth at the final price, and what a stake loses by being split. -/

namespace Batchit

/-- One contributor's share of one split, priced at the reserves the split was made at. -/
structure CostBasis (total bought vtok vquote contribution distributable burned share : UInt64) :
    Prop where
  split : computeDistributable total bought vtok vquote = .ok (distributable, burned)
  allocated : allocation distributable contribution total = .ok share
  /-- The share is worth no more than was paid in for it. -/
  worth : share.toNat * vquote.toNat ≤ contribution.toNat * vtok.toNat
  /-- Both roundings together cost the contributor at most one raw token. -/
  near : total.toNat * vtok.toNat / vquote.toNat ≤ bought.toNat →
    contribution.toNat * vtok.toNat / vquote.toNat - 1 ≤ share.toNat
  /-- The cast of the split loses nothing while the cap does not bind. -/
  exactSplit : total.toNat * vtok.toNat / vquote.toNat ≤ bought.toNat →
    distributable.toNat = total.toNat * vtok.toNat / vquote.toNat
  /-- The cast of the share loses nothing. -/
  exactShare : share.toNat = distributable.toNat * contribution.toNat / total.toNat

/-- No split distributes more than the exact quotient, whatever the cast and the cap cut off. -/
theorem distributable_le {total bought vtok vquote distributable burned : UInt64}
    (split : computeDistributable total bought vtok vquote = .ok (distributable, burned)) :
    distributable.toNat ≤ total.toNat * vtok.toNat / vquote.toNat := by
  -- The cast keeps the low bits of the quotient, and the cap only lowers them.
  obtain ⟨-, -, -, capped, -⟩ := computeDistributable_ok.mp split
  have low := Nat.mod_le (total.toNat * vtok.toNat / vquote.toNat) (2 ^ 64)
  unfold castQuotient at capped
  omega

/-- A quotient the cap leaves alone is distributed exactly. -/
theorem distributable_exact {total bought vtok vquote distributable burned : UInt64}
    (split : computeDistributable total bought vtok vquote = .ok (distributable, burned))
    (uncapped : total.toNat * vtok.toNat / vquote.toNat ≤ bought.toNat) :
    distributable.toNat = total.toNat * vtok.toNat / vquote.toNat := by
  -- At most what was bought, the quotient is a word already.
  obtain ⟨-, -, -, capped, -⟩ := computeDistributable_ok.mp split
  have width := bought.toNat_lt
  unfold castQuotient at capped
  rw [Nat.mod_eq_of_lt (by omega)] at capped
  omega

/--
Nobody receives tokens worth more at the final price than it paid in.

While the cap does not bind, nobody receives less than its ideal share by more than one raw token.
-/
theorem cost_basis_law {total bought vtok vquote contribution : UInt64} (someTotal : 0 < total)
    (someBought : 0 < bought) (someQuote : 0 < vquote) (part : contribution ≤ total) :
    ∃ distributable burned share,
      CostBasis total bought vtok vquote contribution distributable burned share := by
  have someTotal : 0 < total.toNat := UInt64.lt_iff_toNat_lt.mp someTotal
  have someBought : 0 < bought.toNat := UInt64.lt_iff_toNat_lt.mp someBought
  have someQuote : 0 < vquote.toNat := UInt64.lt_iff_toNat_lt.mp someQuote
  have part : contribution.toNat ≤ total.toNat := UInt64.le_iff_toNat_le.mp part
  obtain ⟨⟨distributable, burned⟩, split⟩ :=
    computeDistributable_total someBought someQuote someTotal vtok
  obtain ⟨share, allocated⟩ := allocation_total someTotal distributable contribution
  have exactShare := ((allocation_exact part).mp allocated).2
  refine ⟨distributable, burned, share, split, allocated, ?_, ?_, distributable_exact split,
    exactShare⟩
  · -- The whole split is worth at most the total, so each share is worth at most its part.
    have whole : distributable.toNat * vquote.toNat ≤ vtok.toNat * total.toNat := by
      have priced := Nat.mul_le_mul_right vquote.toNat (distributable_le split)
      have floor := Nat.div_mul_le_self (total.toNat * vtok.toNat) vquote.toNat
      rw [Nat.mul_comm vtok.toNat]
      exact priced.trans floor
    rw [exactShare, Nat.mul_comm contribution.toNat]
    exact ProRata.share_mul_le someTotal whole
  · intro uncapped
    -- The split is the ideal share of the total, and the share is taken out of that.
    have staged : ProRata.share vtok.toNat vquote.toNat contribution.toNat
        ≤ ProRata.share (ProRata.share vtok.toNat vquote.toNat total.toNat) total.toNat
          contribution.toNat + 1 :=
      ProRata.share_le_share_share someTotal someQuote part
    have ideal : ProRata.share vtok.toNat vquote.toNat total.toNat = distributable.toNat := by
      rw [distributable_exact split uncapped, ProRata.share, Nat.mul_comm]
    rw [ideal, ProRata.share, ProRata.share, ← exactShare, Nat.mul_comm] at staged
    omega

/-- Ten sol into a curve that prices the whole raise below what was bought. -/
theorem cost_basis_law_sample : ∃ distributable burned share,
    CostBasis 10000000000 350000000000000 700000000000000 40000000000 3333333333 distributable
      burned share :=
  cost_basis_law (by decide) (by decide) (by decide) (by decide)

/-! ### Splitting a stake over several wallets -/

/-- The sum of a list of words, as a number. -/
def sumOf (words : List UInt64) : Nat := (words.map UInt64.toNat).sum

/-- The allocations of a list of contributions, refused as soon as one of them is. -/
def allocations (distributable total : UInt64) (contributions : List UInt64) :
    Except Error (List UInt64) :=
  contributions.mapM fun contribution => allocation distributable contribution total

/-- The client's allocations of a list of contributions. -/
def Core.allocations (distributable total : Int) (contributions : List Int) :
    Except String (List Int) :=
  contributions.mapM fun contribution => Core.allocation distributable contribution total

/-- One stake shared as a whole, against the same stake shared in parts. -/
structure SplitLoses (distributable total whole : UInt64) (contributions : List UInt64)
    (share : UInt64) (shares : List UInt64) : Prop where
  undivided : allocation distributable whole total = .ok share
  parts : allocations distributable total contributions = .ok shares
  clientUndivided : Core.allocation distributable.toNat whole.toNat total.toNat = .ok share.toNat
  clientParts : Core.allocations distributable.toNat total.toNat
      (contributions.map fun contribution => (contribution.toNat : Int))
    = .ok (shares.map fun share => (share.toNat : Int))
  /-- The parts are never paid more than the whole. -/
  never : sumOf shares ≤ share.toNat
  /-- The parts fall short of the whole by less than one token each. -/
  short : share.toNat ≤ sumOf shares + (contributions.length - 1)
  /-- The whole total is paid everything there is to distribute. -/
  everything : whole = total → share = distributable
  /-- What the shares of all contributors leave over is less than one token each. -/
  dust : whole = total → sumOf shares ≤ distributable.toNat ∧
    distributable.toNat - sumOf shares ≤ contributions.length - 1

/-- Contributions within the total are each allocated their floor, by the program and the client. -/
theorem allocations_exact (distributable : UInt64) {total : UInt64} (someTotal : 0 < total.toNat)
    {contributions : List UInt64} (within : sumOf contributions ≤ total.toNat) :
    ∃ shares : List UInt64,
      allocations distributable total contributions = .ok shares ∧
      Core.allocations distributable.toNat total.toNat
          (contributions.map fun contribution => (contribution.toNat : Int))
        = .ok (shares.map fun share => (share.toNat : Int)) ∧
      sumOf shares
        = ProRata.shares distributable.toNat total.toNat UInt64.toNat contributions := by
  induction contributions with
  | nil => exact ⟨[], rfl, rfl, rfl⟩
  | cons contribution rest ih =>
    -- Each entry is within the total, as the list's sum is.
    simp only [sumOf, List.map_cons, List.sum_cons] at within
    obtain ⟨shares, program, client, sums⟩ := ih (by unfold sumOf; omega)
    obtain ⟨share, allocated⟩ := allocation_total someTotal distributable contribution
    have exact := ((allocation_exact (by omega)).mp allocated).2
    have same : Core.allocation distributable.toNat contribution.toNat total.toNat
        = .ok share.toNat := by
      rw [Core.allocation_ok someTotal, exact]
    unfold allocations at program
    unfold Core.allocations at client
    refine ⟨share :: shares, ?_, ?_, ?_⟩
    · simp only [allocations, List.mapM_cons, allocated, program]
      rfl
    · simp only [Core.allocations, List.map_cons, List.mapM_cons, same, client]
      rfl
    · simp only [sumOf, ProRata.shares, List.map_cons, List.sum_cons] at sums ⊢
      rw [sums, exact, ProRata.share]

/--
Splitting one stake over several wallets only ever loses tokens.

It loses less than one raw token for each wallet, and so does the distribution as a whole.
-/
theorem splitting_only_loses {distributable total whole : UInt64} {contributions : List UInt64}
    (someTotal : 0 < total) (some : contributions ≠ [])
    (sums : sumOf contributions = whole.toNat) (part : whole ≤ total) :
    ∃ share shares, SplitLoses distributable total whole contributions share shares := by
  have someTotal : 0 < total.toNat := UInt64.lt_iff_toNat_lt.mp someTotal
  have part : whole.toNat ≤ total.toNat := UInt64.le_iff_toNat_le.mp part
  obtain ⟨share, undivided⟩ := allocation_total someTotal distributable whole
  have exact := ((allocation_exact part).mp undivided).2
  obtain ⟨shares, parts, clientParts, added⟩ :=
    allocations_exact distributable someTotal (sums.trans_le part)
  -- The stake as a whole is the weight the parts add up to.
  have undividedShare : share.toNat
      = ProRata.share distributable.toNat total.toNat (contributions.map UInt64.toNat).sum := by
    rw [exact, ProRata.share, show (contributions.map UInt64.toNat).sum = whole.toNat from sums]
  have never : sumOf shares ≤ share.toNat := by
    rw [added, undividedShare]
    exact ProRata.shares_le_share someTotal UInt64.toNat contributions
  have short : share.toNat ≤ sumOf shares + (contributions.length - 1) := by
    rw [added, undividedShare]
    exact ProRata.share_le_shares_add someTotal UInt64.toNat some
  -- Against itself the total is paid everything.
  have everything : whole = total → share = distributable := by
    intro all
    subst all
    apply UInt64.toNat_inj.mp
    rw [exact, Nat.mul_div_cancel _ someTotal]
  refine ⟨share, shares, undivided, parts, ?_, clientParts, never, short, everything, ?_⟩
  · rw [Core.allocation_ok someTotal, exact]
  · intro all
    rw [everything all] at never short
    omega

/-- Three wallets sharing one stake are paid two raw tokens less than the stake would be. -/
theorem splitting_only_loses_sample :
    (∃ share shares, SplitLoses 1000 7 7 [3, 3, 1] share shares) ∧
      allocations 1000 7 [3, 3, 1] = .ok [428, 428, 142] :=
  ⟨splitting_only_loses (by decide) (by decide) (by decide) (by decide), by decide⟩

end Batchit
