import Batchit.Math

/-! The client's burn and split arithmetic over unbounded integers, against the program's. -/

namespace Batchit.Core

/-- The split a client shows, with the inputs it was computed from. -/
structure BurnBreakdown where
  distributable : Int
  burned : Int
  totalContributed : Int
  tokensBought : Int
  postVirtualTokenReserves : Int
  postVirtualQuoteReserves : Int
  deriving DecidableEq, Repr

/-- floor(total * virtual_token / virtual_quote), capped at the tokens bought. -/
def computeDistributable (totalContributed tokensBought postVirtualTokenReserves
    postVirtualQuoteReserves : Int) : Except String BurnBreakdown :=
  if tokensBought ≤ 0 then .error "zero tokens bought"
  else if postVirtualQuoteReserves ≤ 0 then .error "zero quote reserves"
  else if totalContributed ≤ 0 then .error "zero contribution"
  else
    -- Division of a bigint truncates toward zero.
    let quotient := (totalContributed * postVirtualTokenReserves).tdiv postVirtualQuoteReserves
    let distributable := if quotient > tokensBought then tokensBought else quotient
    .ok {
      distributable
      burned := tokensBought - distributable
      totalContributed
      tokensBought
      postVirtualTokenReserves
      postVirtualQuoteReserves }

/-- floor(distributable * contribution / total). -/
def allocation (distributable contribution totalContributed : Int) : Except String Int :=
  if totalContributed ≤ 0 then .error "zero total"
  else if contribution ≤ 0 ∨ distributable ≤ 0 then .ok 0
  else .ok ((distributable * contribution).tdiv totalContributed)

/-- On nonzero 64-bit inputs the client caps the exact quotient by what was bought. -/
theorem computeDistributable_ok {total bought vtok vquote : UInt64} (someBought : 0 < bought.toNat)
    (someQuote : 0 < vquote.toNat) (someTotal : 0 < total.toNat) :
    computeDistributable total.toNat bought.toNat vtok.toNat vquote.toNat = .ok {
      distributable := (min (total.toNat * vtok.toNat / vquote.toNat) bought.toNat : Nat)
      burned := (bought.toNat - min (total.toNat * vtok.toNat / vquote.toNat) bought.toNat : Nat)
      totalContributed := total.toNat
      tokensBought := bought.toNat
      postVirtualTokenReserves := vtok.toNat
      postVirtualQuoteReserves := vquote.toNat } := by
  -- Truncating division of naturals is their floor division, so only the cap is left to compare.
  have floor : ((total.toNat : Int) * vtok.toNat).tdiv vquote.toNat
      = (total.toNat * vtok.toNat / vquote.toNat : Nat) := by
    rw [← Int.natCast_mul, ← Int.ofNat_tdiv]
  unfold computeDistributable
  rw [if_neg (by omega), if_neg (by omega), if_neg (by omega)]
  simp only [floor, Except.ok.injEq, BurnBreakdown.mk.injEq, and_true]
  generalize total.toNat * vtok.toNat / vquote.toNat = quotient
  split
  · rename_i above
    omega
  · rename_i below
    omega

/-- The client refuses every input the program's guards refuse. -/
theorem computeDistributable_error {total bought vtok vquote : UInt64}
    (zero : bought.toNat = 0 ∨ vquote.toNat = 0 ∨ total.toNat = 0) :
    ∃ refusal, computeDistributable total.toNat bought.toNat vtok.toNat vquote.toNat
      = .error refusal := by
  -- The guards are tried in order, and the zero input stops one of them.
  unfold computeDistributable
  split
  · exact ⟨_, rfl⟩
  · split
    · exact ⟨_, rfl⟩
    · rw [if_pos (by omega)]
      exact ⟨_, rfl⟩

/-- Against a nonzero total the client's allocation is the exact pro-rata quotient. -/
theorem allocation_ok {distributable contribution total : UInt64} (someTotal : 0 < total.toNat) :
    allocation distributable.toNat contribution.toNat total.toNat =
      .ok (distributable.toNat * contribution.toNat / total.toNat : Nat) := by
  unfold allocation
  rw [if_neg (by omega)]
  split
  · rename_i zero
    -- A zero factor returns early, and its quotient is zero as well.
    have nothing : distributable.toNat * contribution.toNat = 0 := by
      rcases zero with zero | zero
      · rw [show contribution.toNat = 0 by omega, Nat.mul_zero]
      · rw [show distributable.toNat = 0 by omega, Nat.zero_mul]
    simp [nothing]
  · rw [← Int.natCast_mul, ← Int.ofNat_tdiv]

/-- Both sides split alike: they refuse the zero inputs, and otherwise cap the exact quotient. -/
def SplitAgrees (total bought vtok vquote : UInt64) : Prop :=
  if bought = 0 ∨ vquote = 0 ∨ total = 0 then
    (∃ refusal, Batchit.computeDistributable total bought vtok vquote = .error refusal) ∧
      ∃ refusal, computeDistributable total.toNat bought.toNat vtok.toNat vquote.toNat
        = .error refusal
  else
    ∃ distributable burned : UInt64,
      Batchit.computeDistributable total bought vtok vquote = .ok (distributable, burned) ∧
      distributable.toNat = min (total.toNat * vtok.toNat / vquote.toNat) bought.toNat ∧
      burned.toNat = bought.toNat - distributable.toNat ∧
      computeDistributable total.toNat bought.toNat vtok.toNat vquote.toNat = .ok {
        distributable := distributable.toNat
        burned := burned.toNat
        totalContributed := total.toNat
        tokensBought := bought.toNat
        postVirtualTokenReserves := vtok.toNat
        postVirtualQuoteReserves := vquote.toNat }

/-- Both sides allocate alike: they refuse a zero total, and otherwise round the share down. -/
def AllocationAgrees (distributable contribution total : UInt64) : Prop :=
  if total = 0 then
    (∃ refusal, Batchit.allocation distributable contribution total = .error refusal) ∧
      ∃ refusal, allocation distributable.toNat contribution.toNat total.toNat = .error refusal
  else
    ∃ share : UInt64,
      Batchit.allocation distributable contribution total = .ok share ∧
      share.toNat = distributable.toNat * contribution.toNat / total.toNat ∧
      allocation distributable.toNat contribution.toNat total.toNat = .ok share.toNat

/-- The inputs whose quotient the program's cast leaves alone, or cuts no lower than the cap. -/
def CastHarmless (total bought vtok vquote : UInt64) : Prop :=
  let quotient := total.toNat * vtok.toNat / vquote.toNat
  bought = 0 ∨ vquote = 0 ∨ total = 0 ∨ quotient < 2 ^ 64 ∨ bought.toNat ≤ quotient % 2 ^ 64

/-- A word is zero exactly when the number it stands for is. -/
private theorem word_eq_zero {word : UInt64} : word = 0 ↔ word.toNat = 0 :=
  UInt64.toNat_inj.symm

/-- A program error is the absence of a result. -/
private theorem error_of_not_ok {ε α : Type} {outcome : Except ε α}
    (refused : ∀ result, outcome ≠ .ok result) : ∃ refusal, outcome = .error refusal := by
  cases outcome with
  | error refusal => exact ⟨refusal, rfl⟩
  | ok result => exact absurd rfl (refused result)

/-- The two splits agree on exactly the inputs whose quotient survives the cast and the cap. -/
theorem splitAgrees_iff (total bought vtok vquote : UInt64) :
    SplitAgrees total bought vtok vquote ↔ CastHarmless total bought vtok vquote := by
  by_cases zero : bought = 0 ∨ vquote = 0 ∨ total = 0
  · -- A zero input is refused on both sides, whatever the cast would do.
    have zeros : bought.toNat = 0 ∨ vquote.toNat = 0 ∨ total.toNat = 0 := by
      simpa only [word_eq_zero] using zero
    have harmless : CastHarmless total bought vtok vquote := by
      unfold CastHarmless
      tauto
    refine iff_of_true ?_ harmless
    rw [SplitAgrees, if_pos zero]
    refine ⟨error_of_not_ok fun result ok => ?_, computeDistributable_error zeros⟩
    have positive := Batchit.computeDistributable_ok.mp ok
    omega
  · have positive : 0 < bought.toNat ∧ 0 < vquote.toNat ∧ 0 < total.toNat := by
      simp only [word_eq_zero, not_or] at zero
      omega
    obtain ⟨someBought, someQuote, someTotal⟩ := positive
    rw [SplitAgrees, if_neg zero]
    -- With no zero input the program answers with the cast quotient, capped.
    constructor
    · intro agree
      obtain ⟨distributable, burned, program, exact, -, -⟩ := agree
      obtain ⟨-, -, -, cast, -⟩ := Batchit.computeDistributable_ok.mp program
      unfold castQuotient at cast
      unfold CastHarmless
      simp only [word_eq_zero]
      omega
    · intro harmless
      unfold CastHarmless at harmless
      simp only [word_eq_zero] at harmless
      -- The two capped quotients are one number, and the words standing for it are the result.
      have same : min (castQuotient total vtok vquote) bought.toNat
          = min (total.toNat * vtok.toNat / vquote.toNat) bought.toNat := by
        unfold castQuotient
        generalize total.toNat * vtok.toNat / vquote.toNat = quotient at harmless ⊢
        omega
      obtain ⟨⟨distributable, burned⟩, program⟩ := computeDistributable_total someBought someQuote
        someTotal vtok
      obtain ⟨-, -, -, cast, sums⟩ := Batchit.computeDistributable_ok.mp program
      rw [same] at cast
      refine ⟨distributable, burned, program, cast, by omega, ?_⟩
      rw [computeDistributable_ok someBought someQuote someTotal, ← cast,
        show bought.toNat - distributable.toNat = burned.toNat by omega]

/-- The two allocations agree on every stake no larger than the total. -/
theorem allocationAgrees {distributable contribution total : UInt64}
    (part : contribution.toNat ≤ total.toNat) :
    AllocationAgrees distributable contribution total := by
  unfold AllocationAgrees
  split
  · -- Against nothing contributed both sides refuse.
    rename_i zero
    subst zero
    refine ⟨error_of_not_ok fun result ok => ?_, "zero total", rfl⟩
    have positive := (Batchit.allocation_ok.mp ok).1
    exact absurd positive (by decide)
  · rename_i nonzero
    have someTotal : 0 < total.toNat := by
      rw [word_eq_zero] at nonzero
      omega
    -- A stake within the total keeps the quotient in a word, so the cast does nothing.
    obtain ⟨share, program⟩ := allocation_total someTotal distributable contribution
    have floor := ((allocation_exact part).mp program).2
    exact ⟨share, program, floor, by rw [allocation_ok someTotal, floor]⟩

/--
The on-chain and the client arithmetic are one function, up to the program's early cast.

Allocations agree on every stake no larger than the total.
Splits agree exactly where the quotient fits in 64 bits or is cut no lower than the cap.
-/
theorem onChain_client_agree_iff (total bought vtok vquote : UInt64) :
    (SplitAgrees total bought vtok vquote ∧
      ∀ distributable contribution whole : UInt64, contribution.toNat ≤ whole.toNat →
        AllocationAgrees distributable contribution whole) ↔
      CastHarmless total bought vtok vquote := by
  -- The allocation half holds without condition, so only the splits decide.
  constructor
  · intro agree
    obtain ⟨split, -⟩ := agree
    exact (splitAgrees_iff total bought vtok vquote).mp split
  · intro harmless
    exact ⟨(splitAgrees_iff total bought vtok vquote).mpr harmless,
      fun _ _ _ part => allocationAgrees part⟩

/-- At a quotient of 2^64 the program burns everything, and the client burns nothing. -/
theorem onChain_client_differ :
    ¬ SplitAgrees 4294967296 1000000 4294967296 1 ∧
      Batchit.computeDistributable 4294967296 1000000 4294967296 1 = .ok (0, 1000000) ∧
      (computeDistributable 4294967296 1000000 4294967296 1).map BurnBreakdown.burned = .ok 0 := by
  refine ⟨?_, by decide, by decide⟩
  intro agree
  -- The quotient's low 64 bits are zero, below the million tokens bought.
  have harmless := (splitAgrees_iff _ _ _ _).mp agree
  unfold CastHarmless at harmless
  exact absurd harmless (by decide)

end Batchit.Core
