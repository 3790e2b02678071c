import Batchit.Instructions.Gates
import Batchit.Properties.Claims
import Batchit.Properties.Refunds
import Batchit.Protocol.Supply

/-! What calls are refused with: a few errors each, and checked arithmetic almost never fails. -/

namespace Batchit

/-! ### The errors of each call -/

/-- The errors that `create_pool` can end in. -/
def CreatePoolAccounts.errors : List BatchitError := [.InvalidParams]

/-- The errors that `contribute` can end in. -/
def ContributeAccounts.errors : List BatchitError :=
  [.ZeroAmount, .BadStatus, .ContributionClosed, .ContributionTooSmall, .MaxPoolExceeded,
    .NothingToRefund]

/-- The errors that `begin_launch` can end in. -/
def BeginLaunchAccounts.errors : List BatchitError :=
  [.BadStatus, .InvalidParams, .LaunchTooEarly, .LaunchGraceExpired, .MinRaiseNotMet]

/-- The errors that `complete_buy` can end in. -/
def CompleteBuyAccounts.errors : List BatchitError :=
  [.BadStatus, .LaunchGraceExpired, .MintMismatch, .CreateNotLanded, .BuyFailed, .ZeroTokensBought]

/-- The errors that `finalize` can end in. -/
def FinalizeAccounts.errors : List BatchitError := [.Unauthorized, .MintMismatch, .BadStatus]

/-- The errors that `claim` can end in. -/
def ClaimAccounts.errors : List BatchitError :=
  [.Unauthorized, .MintMismatch, .ClaimNotAllowed, .NothingToClaim]

/-- The errors that `refund` can end in. -/
def RefundAccounts.errors : List BatchitError := [.RefundNotAllowed, .NothingToRefund]

/-- The errors that `mark_refundable` can end in. -/
def MarkRefundableAccounts.errors : List BatchitError := [.LaunchTooEarly, .BadStatus]

/-- The errors that `close_pool` can end in. -/
def ClosePoolAccounts.errors : List BatchitError := [.PoolNotEmpty, .BadStatus]

namespace Instruction

/-- The program's own errors a call can end in, those of its checked arithmetic aside. -/
def errors : Instruction → List BatchitError
  | .createPool _ _ => CreatePoolAccounts.errors
  | .contribute _ _ => ContributeAccounts.errors
  | .beginLaunch _ _ => BeginLaunchAccounts.errors
  | .completeBuy _ _ => CompleteBuyAccounts.errors
  | .finalize _ => FinalizeAccounts.errors
  | .claim _ => ClaimAccounts.errors
  | .refund _ => RefundAccounts.errors
  | .markRefundable _ => MarkRefundableAccounts.errors
  | .closePool _ => ClosePoolAccounts.errors
  | .systemTransfer .. | .token .. | .writeAccount .. | .pumpCreate .. | .pumpTrade .. => []

/--
When a call can fail in its checked arithmetic.

A grace period can end after all time, a contribution or a contributor be one too many to count, and the reserves of a split be zero.
-/
def overflows (encoding : Encoding) (world : World) : Instruction → Prop
  | .createPool _ args => 2 ^ 63 ≤ args.launchAt.toInt + args.graceSecs.toInt
  | .contribute accounts amount => ∃ account, world.pools accounts.pool = some account ∧
    (2 ^ 64 ≤ account.totalContributed.toNat + amount.toNat ∨
      account.contributorCount.toNat + 1 = 2 ^ 32)
  | .finalize accounts => ∃ account vtok vquote, world.pools accounts.pool = some account ∧
    account.finalReserves (world.data encoding accounts.bondingCurve) = .ok (vtok, vquote) ∧
    (vtok = 0 ∨ vquote = 0)
  | _ => False

end Instruction

/-- One of the listed errors, an overflow where there can be one, or an error of another program. -/
def Error.Within (errors : List BatchitError) (overflow : Prop) : Error → Prop
  | .runtime _ => True
  | .batchit error => error ∈ errors ∨ error = .MathOverflow ∧ overflow

/-! ### The account constraints -/

section Constraints

variable {env : Env} {world : World} {errors : List BatchitError} {overflow : Prop}

/-- A missing signature is none of the program's own errors. -/
theorem signer_within (address : Pubkey) :
    RefusesOnly (Error.Within errors overflow) (signer address) := .constraint trivial

/-- A pool that is not there is none of the program's own errors. -/
theorem loadPool_within (address : Pubkey) :
    RefusesOnly (Error.Within errors overflow) (loadPool env world address) := by
  unfold loadPool seeds
  exact .bind (.found trivial) fun _ => .bind (.constraint trivial) fun _ => .pure _

/-- A record that is not there is none of the program's own errors. -/
theorem loadContribution_within (address pool contributor : Pubkey) :
    RefusesOnly (Error.Within errors overflow)
      (loadContribution env world address pool contributor) := by
  unfold loadContribution seeds
  exact .bind (.found trivial) fun _ => .bind (.constraint trivial) fun _ =>
    .bind (.constraint trivial) fun _ => .pure _

/-- A wrong buyer is none of the program's own errors. -/
theorem buyerSeeds_within (account : Pool) (address pool : Pubkey) :
    RefusesOnly (Error.Within errors overflow) (buyerSeeds env account address pool) :=
  .constraint trivial

/-- A transfer that fails ends in none of the program's own errors. -/
theorem systemTransfer_within (source target : Pubkey) (amount : UInt64) :
    RefusesOnly (Error.Within errors overflow) (world.systemTransfer source target amount) :=
  World.moveLamports_refusesOnly trivial trivial

/-- A check that an error is listed for refuses within the list. -/
theorem require_within {condition : Prop} [Decidable condition] {error : BatchitError}
    (listed : error ∈ errors) :
    RefusesOnly (Error.Within errors overflow) (require condition error) := .require (.inl listed)

end Constraints

/-! ### Each call -/

section Calls

variable {env : Env} {start world : World} {history : List Transition}

/-- `create_pool` ends in no error but those listed for it. -/
theorem createPool_within (now : Int64) (accounts : CreatePoolAccounts) (args : CreatePoolArgs) :
    RefusesOnly (Error.Within CreatePoolAccounts.errors
        ((Instruction.createPool accounts args).overflows env.encoding world))
      (createPool env world now accounts args) := by
  unfold createPool
  refine .bind (signer_within _) fun _ => ?_
  refine .bind (.constraint trivial) fun _ => ?_
  refine .bind (.constraint trivial) fun _ => ?_
  refine .bind (systemTransfer_within _ _ _) fun _ => ?_
  refine .bind (.constraint trivial) fun _ => ?_
  refine .bindOk (require_within (by decide)) fun _ grace => ?_
  refine .bind (require_within (by decide)) fun _ => ?_
  refine .bind (require_within (by decide)) fun _ => ?_
  refine .bind (require_within (by decide)) fun _ => ?_
  refine .bind (require_within (by decide)) fun _ => ?_
  refine .bind ?_ fun _ => .pure _
  -- The grace is positive, so a sum out of range is one past the end of time.
  have positive := Int64.lt_iff_toInt_lt.mp (require_eq_ok.mp grace)
  have lower := args.launchAt.le_toInt
  rw [Int64.toInt_zero] at positive
  unfold Int64.checkedAdd
  split
  · exact .of_ok rfl
  · exact .okOr (.inr ⟨rfl, by unfold Instruction.overflows; omega⟩)

/-- `mark_refundable` ends in no error but those listed for it. -/
theorem markRefundable_within (now : Int64) (accounts : MarkRefundableAccounts) :
    RefusesOnly (Error.Within MarkRefundableAccounts.errors False)
      (markRefundable env world now accounts) := by
  unfold markRefundable
  -- Each check in turn refuses with an error that is listed.
  refine .bind (signer_within _) fun _ => ?_
  refine .bind (loadPool_within _) fun account => ?_
  refine .bind (require_within (by decide)) fun _ => ?_
  exact .bind (require_within (by decide)) fun _ => .pure _

/-- `close_pool` ends in no error but those listed for it. -/
theorem closePool_within (accounts : ClosePoolAccounts) :
    RefusesOnly (Error.Within ClosePoolAccounts.errors False) (closePool env world accounts) := by
  unfold closePool seeds
  -- Each check in turn refuses with an error that is listed.
  refine .bind (signer_within _) fun _ => ?_
  refine .bind (.found trivial) fun account => ?_
  refine .bind (.constraint trivial) fun _ => ?_
  refine .bind (.constraint trivial) fun _ => ?_
  refine .bind (require_within (by decide)) fun _ => ?_
  refine .bind (require_within (by decide)) fun _ => ?_
  refine .bind (require_within (by decide)) fun _ => ?_
  exact .bind (systemTransfer_within _ _ _) fun _ => .pure _

/-! Each of the rest rests on what holds of every reachable pool. -/

/-- A pool that loads in a reachable state is at an address of its own, with its invariant. -/
theorem loaded_invariant (genesis : Genesis start) (run : Run env start history world)
    {address : Pubkey} {account : Pool} (loaded : loadPool env world address = .ok account) :
    world.pools address = some account ∧ PoolInvariant env address world := by
  obtain ⟨stored, -⟩ := loadPool_ok.mp loaded
  obtain ⟨creator, seed, rfl⟩ := run_poolsAtHome genesis run stored
  exact ⟨stored, run_poolInvariant genesis run creator seed⟩

/-- A reachable pool's account holds all of its escrow. -/
theorem escrow_covered (genesis : Genesis start) (run : Run env start history world)
    {address : Pubkey} {account : Pool} (stored : world.pools address = some account) :
    account.escrow ≤ (world.lamports address).toNat := by
  obtain ⟨creator, seed, rfl⟩ := run_poolsAtHome genesis run stored
  -- What the pool holds is its rent, its escrow, and what it was given.
  have funded := (run_funded genesis run creator seed).lamports
  rw [World.escrow_of_stored stored] at funded
  omega

/-- `begin_launch` ends in no error but those listed for it. -/
theorem beginLaunch_within (genesis : Genesis start) (run : Run env start history world)
    (now : Int64) (accounts : BeginLaunchAccounts) (mint : Pubkey) :
    RefusesOnly (Error.Within BeginLaunchAccounts.errors False)
      (beginLaunch env world now accounts mint) := by
  unfold beginLaunch
  refine .bind (signer_within _) fun _ => ?_
  refine .bindOk (loadPool_within _) fun account loaded => ?_
  refine .bindOk (require_within (by decide)) fun _ opened => ?_
  refine .bind (require_within (by decide)) fun _ => ?_
  refine .bind (require_within (by decide)) fun _ => ?_
  refine .bind (require_within (by decide)) fun _ => ?_
  refine .bind (require_within (by decide)) fun _ => ?_
  refine .bind (.of_ok (require_of ?_)) fun _ => .pure _
  -- An open pool has no mint yet.
  obtain ⟨stored, invariant⟩ := loaded_invariant genesis run loaded
  exact ((invariant.account account stored).phase.opened (require_eq_ok.mp opened)).1

/-- `refund` ends in no error but those listed for it. -/
theorem refund_within (genesis : Genesis start) (fit : start.LamportsFit)
    (run : Run env start history world) (now : Int64) (accounts : RefundAccounts) :
    RefusesOnly (Error.Within RefundAccounts.errors False) (refund env world now accounts) := by
  have home := run_recordsAtHome genesis run
  unfold refund
  refine .bindOk (signer_within _) fun _ signed => ?_
  refine .bindOk (loadPool_within _) fun account loaded => ?_
  refine .bindOk (loadContribution_within _ _ _) fun record recorded => ?_
  refine .bindOk (require_within (by decide)) fun _ allowed => ?_
  obtain ⟨stored, invariant⟩ := loaded_invariant genesis run loaded
  obtain ⟨stake, -⟩ := loadContribution_ok.mp recorded
  -- The record is the contributor's own, part of the total, and part of the escrow.
  have own := (home.stakes _ _ _ stake).2
  have part := (invariant.backed account stored).stake_le home stake
  have bounded := (invariant.account account stored).bounded
  have width := account.maxPoolLamports.toNat_lt
  have escrow := escrow_covered genesis run stored
  rw [Pool.escrow_of_refundAllowed (require_eq_ok.mp allowed)] at escrow
  obtain ⟨rest, subtracted, -⟩ :=
    UInt64.checkedSub_of_le (a := account.totalContributed) (b := record.amount) part
  obtain ⟨sum, added, -⟩ :=
    UInt64.checkedAdd_of_lt (a := account.totalRefunded) (b := record.amount) (by omega)
  have differ := (signer_ne_pool (signer_ok.mp signed) loaded).symm
  obtain ⟨paid, moved⟩ := (run_lamportsFit fit run).moves differ
    (.batchit .MathOverflow) (.batchit .MathOverflow) record.amount (by omega)
  refine .bind (.of_ok (require_of own)) fun _ => ?_
  refine .bind (require_within (by decide)) fun _ => ?_
  refine .bind (require_within (by decide)) fun _ => ?_
  refine .bind (require_within (by decide)) fun _ => ?_
  refine .bind (.of_ok (okOr_eq_ok.mpr subtracted)) fun _ => ?_
  refine .bind (.of_ok (okOr_eq_ok.mpr added)) fun _ => ?_
  exact .bind (.of_ok moved) fun _ => .pure _

/-- Allocating a contribution account refuses with an error of the system program only. -/
theorem initIfNeeded_within {errors : List BatchitError} {overflow : Prop}
    (accounts : ContributeAccounts) :
    RefusesOnly (Error.Within errors overflow) (initIfNeeded env world accounts) := by
  unfold initIfNeeded
  -- Only the rent of a new record can be refused.
  split
  · exact .of_ok rfl
  · exact .bind (systemTransfer_within _ _ _) fun _ => .pure _

/-- The record an open pool adds a contribution to is unclaimed, and part of the total. -/
theorem stakeOrNew_part (home : world.RecordsAtHome) {accounts : ContributeAccounts}
    {account : Pool} (invariant : PoolInvariant env accounts.pool world)
    (stored : world.pools accounts.pool = some account) (opened : account.status = .Open) :
    (world.stakeOrNew env accounts).claimed = false ∧
      (world.stakeOrNew env accounts).amount.toNat ≤ account.totalContributed.toNat := by
  unfold World.stakeOrNew
  -- A new record holds nothing, and one in an open pool is part of its total.
  cases found : world.stake accounts.pool accounts.contributor with
  | none => exact ⟨rfl, Nat.zero_le _⟩
  | some record =>
    have unclaimed := unclaimed_of_unsettled (invariant.soundRecords stored)
      (by simp [opened]) _ record found
    exact ⟨unclaimed, (invariant.backed account stored).stake_le home found⟩

/-- `contribute` ends in no error but those listed for it. -/
theorem contribute_within (genesis : Genesis start) (run : Run env start history world)
    (now : Int64) (accounts : ContributeAccounts) (amount : UInt64) :
    RefusesOnly (Error.Within ContributeAccounts.errors
        ((Instruction.contribute accounts amount).overflows env.encoding world))
      (contribute env world now accounts amount) := by
  have home := run_recordsAtHome genesis run
  unfold contribute
  refine .bindOk (signer_within _) fun _ signed => ?_
  refine .bindOk (loadPool_within _) fun account loaded => ?_
  refine .bindOk (.constraint trivial) fun _ address => ?_
  refine .bindOk (initIfNeeded_within _) fun ready allocated => ?_
  obtain ⟨opened, record⟩ := ready
  obtain ⟨stored, invariant⟩ := loaded_invariant genesis run loaded
  have elsewhere : accounts.pool ≠ .default := by
    rw [(loadPool_ok.mp loaded).2.1]
    exact Pubkey.noConfusion
  obtain ⟨named, fresh⟩ := initialized_allocated home.stakes (signer_ok.mp signed)
    (constraint_eq_ok.mp address) elsewhere allocated
  obtain ⟨ofPool, ofContributor⟩ := World.stakeOrNew_names env accounts home.stakes
  simp only [named]
  refine .bind (require_within (by decide)) fun _ => ?_
  refine .bindOk (require_within (by decide)) fun _ isOpen => ?_
  obtain ⟨unclaimed, part⟩ := stakeOrNew_part home invariant stored (require_eq_ok.mp isOpen)
  refine .bind (require_within (by decide)) fun _ => ?_
  refine .bind (require_within (by decide)) fun _ => ?_
  -- The total or the number of contributors may be one too many.
  refine .bindOk ?_ fun newTotal added => ?_
  · unfold UInt64.checkedAdd
    split
    · exact .of_ok rfl
    · exact .okOr (.inr ⟨rfl, account, stored, .inl (by omega)⟩)
  refine .bind (require_within (by decide)) fun _ => ?_
  refine .bind (systemTransfer_within _ _ _) fun _ => ?_
  refine .bind ?_ fun count => ?_
  · have counted := account.contributorCount.toNat_lt
    have one : (1 : UInt32).toNat = 1 := rfl
    unfold Pool.countContributor UInt32.checkedAdd
    split
    · split
      · exact .of_ok rfl
      · exact .okOr (.inr ⟨rfl, account, stored, .inr (by omega)⟩)
    · exact .of_ok rfl
  -- The record's own total is within the pool's, which was just found to fit.
  have fits := UInt64.checkedAdd_eq_some.mp (okOr_eq_ok.mp added)
  have width := newTotal.toNat_lt
  obtain ⟨sum, reached, -⟩ := UInt64.checkedAdd_of_lt
    (a := (world.stakeOrNew env accounts).amount) (b := amount) (by omega)
  refine .bind (.of_ok (require_of ofContributor)) fun _ => ?_
  refine .bind (.of_ok (require_of ofPool)) fun _ => ?_
  refine .bind (require_within (by decide)) fun _ => ?_
  refine .bind (.of_ok (require_of unclaimed)) fun _ => ?_
  exact .bind (.of_ok (okOr_eq_ok.mpr reached)) fun _ => .pure _

/-- `complete_buy` ends in no error but those listed for it. -/
theorem completeBuy_within (genesis : Genesis start) (fit : start.LamportsFit)
    (run : Run env start history world) (now : Int64) (accounts : CompleteBuyAccounts)
    (minTokensOut : UInt64) :
    RefusesOnly (Error.Within CompleteBuyAccounts.errors False)
      (completeBuy env world now accounts minTokensOut) := by
  unfold completeBuy
  refine .bind (signer_within _) fun _ => ?_
  refine .bindOk (loadPool_within _) fun account loaded => ?_
  refine .bindOk (buyerSeeds_within _ _ _) fun _ buyer => ?_
  refine .bind (.found trivial) fun user => ?_
  refine .bind (.constraint trivial) fun _ => ?_
  split
  · exact .pure _
  refine .bindOk (require_within (by decide)) fun _ launching => ?_
  obtain ⟨stored, invariant⟩ := loaded_invariant genesis run loaded
  have sound := invariant.account account stored
  have launching := require_eq_ok.mp launching
  -- A launching pool has a mint, and has raised at least one contribution, which it still holds.
  obtain ⟨named, raised, -⟩ := sound.phase.raised (.inl launching)
  have raised := UInt64.le_iff_toNat_le.mp raised
  have raise := sound.raise
  have least := sound.least
  have positive : account.totalContributed > 0 :=
    UInt64.lt_iff_toNat_lt.mpr (by rw [UInt64.toNat_zero]; omega)
  have escrow := escrow_covered genesis run stored
  simp only [Pool.escrow, launching] at escrow
  have differ : accounts.pool ≠ accounts.buyer := by
    rw [(buyerSeeds_ok.mp buyer).1, sound.address]
    exact Pubkey.noConfusion
  obtain ⟨edited, moved⟩ := (run_lamportsFit fit run).moves differ
    (.batchit .MathOverflow) (.batchit .MathOverflow) account.totalContributed (by omega)
  refine .bind (require_within (by decide)) fun _ => ?_
  refine .bind (.of_ok (require_of named)) fun _ => ?_
  refine .bind (require_within (by decide)) fun _ => ?_
  refine .bind (require_within (by decide)) fun _ => ?_
  refine .bind (.of_ok (require_of positive)) fun _ => ?_
  refine .bind (.of_ok moved) fun _ => ?_
  refine .bind (cpiBuyExactSolIn_refusesOnly (.inl (by decide)) fun _ => trivial) fun filled => ?_
  refine .bind (.found trivial) fun reloaded => ?_
  exact .bind (require_within (by decide)) fun _ => .pure _

/-- A burn is refused by the token program only. -/
theorem burnSurplus_within {errors : List BatchitError} {overflow : Prop} (tokens : Tokens)
    (vault mint buyer : Pubkey) (burned : UInt64) :
    RefusesOnly (Error.Within errors overflow) (burnSurplus tokens vault mint buyer burned) := by
  unfold burnSurplus Tokens.burn
  -- With nothing to burn, nothing is asked of the token program.
  split
  · exact .bind (.found trivial) fun _ => .bind (.constraint trivial) fun _ =>
      .bind (.constraint trivial) fun _ => .bind (.found trivial) fun _ => .pure _
  · exact .of_ok rfl

/-- The reserves of a split can always be read. -/
theorem finalReserves_total (account : Pool) (data : List UInt8) :
    ∃ vtok vquote, account.finalReserves data = .ok (vtok, vquote) := by
  unfold Pool.finalReserves
  split
  · rename_i long
    -- Bytes long enough to be tried are long enough to be decoded.
    have decoded : decodeBondingCurveReserves data = .ok _ := bind_of_ok (require_of long)
    rw [bind_of_ok decoded]
    exact ⟨_, _, rfl⟩
  · exact ⟨_, _, rfl⟩

/-- `finalize` ends in no error but those listed for it. -/
theorem finalize_within (genesis : Genesis start) (run : Run env start history world)
    (accounts : FinalizeAccounts) :
    RefusesOnly (Error.Within FinalizeAccounts.errors
        ((Instruction.finalize accounts).overflows env.encoding world))
      (finalize env world accounts) := by
  unfold finalize
  refine .bind (signer_within _) fun _ => ?_
  refine .bindOk (loadPool_within _) fun account loaded => ?_
  refine .bind (buyerSeeds_within _ _ _) fun _ => ?_
  refine .bind (.found trivial) fun vault => ?_
  refine .bind (require_within (by decide)) fun _ => ?_
  refine .bind (require_within (by decide)) fun _ => ?_
  refine .bindOk (require_within (by decide)) fun _ bought => ?_
  obtain ⟨stored, invariant⟩ := loaded_invariant genesis run loaded
  have sound := invariant.account account stored
  have bought := require_eq_ok.mp bought
  have received := (sound.phase.unsplit bought).1
  have total := sound.spent_positive (.inl bought)
  obtain ⟨vtok, vquote, read⟩ :=
    finalReserves_total account (world.data env.encoding accounts.bondingCurve)
  refine .bind (.of_ok (require_of received)) fun _ => ?_
  rw [bind_of_ok read]
  -- Only reserves of zero are refused, as an overflow.
  by_cases priced : vquote > 0 ∧ vtok > 0
  · refine .bind (.of_ok (require_of priced)) fun _ => ?_
    have someQuote := priced.1
    obtain ⟨split, divided⟩ := computeDistributable_total
      (UInt64.lt_iff_toNat_lt.mp received) (UInt64.lt_iff_toNat_lt.mp someQuote) total vtok
    rw [bind_of_ok divided]
    exact .bind (burnSurplus_within _ _ _ _ _) fun _ => .pure _
  · dsimp only
    rw [bind_of_error (require_of_not priced)]
    have zero : vtok = 0 ∨ vquote = 0 := by
      rcases not_and_or.mp priced with noQuote | noToken
      · exact .inr (UInt64.le_zero_iff.mp (UInt64.not_lt.mp noQuote))
      · exact .inl (UInt64.le_zero_iff.mp (UInt64.not_lt.mp noToken))
    intro error refused
    cases refused
    exact .inr ⟨rfl, account, vtok, vquote, stored, read, zero⟩

/-- A share is paid or refused by the token program only. -/
theorem payShare_within {errors : List BatchitError} {overflow : Prop} (tokens : Tokens)
    (vault contributorAta buyer : Pubkey) (share : UInt64) :
    RefusesOnly (Error.Within errors overflow)
      (payShare tokens vault contributorAta buyer share) := by
  unfold payShare
  -- With nothing to pay, nothing is asked of the token program.
  split
  · exact Tokens.transfer_refusesOnly _ fun _ => trivial
  · exact .of_ok rfl

/-- `claim` ends in no error but those listed for it. -/
theorem claim_within (genesis : Genesis start) (run : Run env start history world)
    (accounts : ClaimAccounts) :
    RefusesOnly (Error.Within ClaimAccounts.errors False) (claim env world accounts) := by
  have home := run_recordsAtHome genesis run
  unfold claim
  refine .bind (signer_within _) fun _ => ?_
  refine .bindOk (loadPool_within _) fun account loaded => ?_
  refine .bindOk (loadContribution_within _ _ _) fun record recorded => ?_
  refine .bind (buyerSeeds_within _ _ _) fun _ => ?_
  refine .bind (.found trivial) fun vaultAta => ?_
  refine .bind (require_within (by decide)) fun _ => ?_
  refine .bind (require_within (by decide)) fun _ => ?_
  refine .bind (.found trivial) fun contributorAta => ?_
  refine .bind (require_within (by decide)) fun _ => ?_
  refine .bind (require_within (by decide)) fun _ => ?_
  refine .bindOk (require_within (by decide)) fun _ finalized => ?_
  obtain ⟨stored, invariant⟩ := loaded_invariant genesis run loaded
  obtain ⟨stake, -⟩ := loadContribution_ok.mp recorded
  have backed := invariant.backed account stored
  have positive := (invariant.account account stored).spent_positive
    (.inr (require_eq_ok.mp finalized))
  have part := backed.stake_le home stake
  obtain ⟨share, allocated⟩ :=
    allocation_total positive account.distributable record.amount
  refine .bind (.of_ok (require_of (home.stakes _ _ _ stake).2)) fun _ => ?_
  refine .bindOk (require_within (by decide)) fun _ unclaimed => ?_
  -- The shares paid so far and this one are within what is distributed, which is a word.
  have within : account.totalClaimed.toNat + share.toNat ≤ account.distributable.toNat := by
    rw [backed.claimed, ((allocation_exact part).mp allocated).2]
    exact Nat.le_trans (sharePaid_add_le home stake (require_eq_ok.mp unclaimed))
      (shareOwed_le positive backed.total.symm)
  have width := account.distributable.toNat_lt
  obtain ⟨sum, added, -⟩ :=
    UInt64.checkedAdd_of_lt (a := account.totalClaimed) (b := share) (by omega)
  refine .bind (require_within (by decide)) fun _ => ?_
  refine .bind (require_within (by decide)) fun _ => ?_
  rw [bind_of_ok allocated]
  refine .bind (require_within (by decide)) fun _ => ?_
  refine .bind (payShare_within _ _ _ _ _) fun _ => ?_
  exact .bind (.of_ok (okOr_eq_ok.mpr added)) fun _ => .pure _

/--
Which of its own errors the program can end in, call by call, from every reachable state.

Checked arithmetic fails in three places only, given a supply of lamports that fits in 64 bits.
-/
theorem refusals_listed (genesis : Genesis start) (fit : start.LamportsFit)
    (run : Run env start history world) {action : Action} {error : BatchitError}
    (call : action.instruction.isCall = true)
    (refused : step env world action = .error (.batchit error)) :
    error ∈ action.instruction.errors ∨
      error = .MathOverflow ∧ action.instruction.overflows env.encoding world := by
  obtain ⟨now, instruction⟩ := action
  -- Each call has a list of its own.
  cases instruction with
  | createPool accounts args => exact createPool_within now accounts args _ refused
  | contribute accounts amount => exact contribute_within genesis run now accounts amount _ refused
  | beginLaunch accounts mint => exact beginLaunch_within genesis run now accounts mint _ refused
  | completeBuy accounts minTokensOut =>
    exact completeBuy_within genesis fit run now accounts minTokensOut _ refused
  | finalize accounts => exact finalize_within genesis run accounts _ refused
  | claim accounts => exact claim_within genesis run accounts _ refused
  | refund accounts => exact refund_within genesis fit run now accounts _ refused
  | markRefundable accounts => exact markRefundable_within now accounts _ refused
  | closePool accounts => exact closePool_within accounts _ refused
  | systemTransfer | token | writeAccount | pumpCreate | pumpTrade => cases call

end Calls

namespace Sample

/-- The sample chain, with lamports in a handful of accounts only. -/
def cappedStart : World where
  lamports address :=
    if address ∈ [creator, alice, bob] then 100000000000 else 0
  pools _ := none
  contributions := ∅
  tokens := ∅
  info _ := { owner := SYSTEM_PROGRAM_ID, data := [] }

/-- The chain with three funded accounts has not seen the program. -/
theorem cappedGenesis : Genesis cappedStart :=
  ⟨fun _ => rfl, rfl, fun _ => Nat.two_pow_pos 64⟩

/-- Three accounts hold all there is. -/
theorem cappedStart_fit : cappedStart.LamportsFit := by
  intro accounts
  have held : totalLamports cappedStart.lamports accounts
      ≤ totalLamports cappedStart.lamports [creator, alice, bob] := by
    unfold totalLamports
    apply Finset.sum_le_sum_of_ne_zero
    -- An account that holds anything is one of the three.
    intro address _ some
    by_contra absent
    rw [List.mem_toFinset] at absent
    exact some (by simp only [cappedStart, if_neg absent]; rfl)
  exact Nat.lt_of_le_of_lt held (by decide +kernel)

end Sample

/-- A refund asked for too early is refused with an error that is listed. -/
theorem refusals_listed_sample : ∃ error,
    step Sample.env (Machine.reached (step Sample.env) Sample.cappedStart Sample.raise)
      (refundCall Sample.pool Sample.alice 60) = .error (.batchit error) ∧
    error ∈ (refundCall Sample.pool Sample.alice 60).instruction.errors := by
  have refused : refusal (step Sample.env
      (Machine.reached (step Sample.env) Sample.cappedStart Sample.raise)
      (refundCall Sample.pool Sample.alice 60)) = some (.batchit .RefundNotAllowed) := by
    decide +kernel
  have refused := refusal_eq_some.mp refused
  refine ⟨_, refused, ?_⟩
  -- A refund has no arithmetic that can fail.
  rcases refusals_listed Sample.cappedGenesis Sample.cappedStart_fit
    (Machine.run_reached (by decide +kernel)) rfl refused with listed | ⟨-, overflow⟩
  · exact listed
  · exact overflow.elim

end Batchit
