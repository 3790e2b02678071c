import Batchit.Instructions.CompleteBuy
import Batchit.Instructions.Refund

/-! The two gates of a launching pool: what decides whether it buys, and whether it pays back. -/

namespace Batchit

/-- Whether a pool's buy is still open at a time. -/
def Pool.buyOpen (pool : Pool) (now : Int64) : Bool :=
  pool.status = .Launching && now < pool.graceEndsAt

/-- A buy is open while the pool is launching and its grace has not ended. -/
theorem Pool.buyOpen_iff {pool : Pool} {now : Int64} :
    pool.buyOpen now = true ↔ pool.status = .Launching ∧ now < pool.graceEndsAt := by
  simp [buyOpen]

/-- A buy is closed when the pool is not launching, or its grace has ended. -/
theorem Pool.buyOpen_eq_false {pool : Pool} {now : Int64} :
    pool.buyOpen now = false ↔ ¬ (pool.status = .Launching ∧ now < pool.graceEndsAt) := by
  rw [← buyOpen_iff, Bool.not_eq_true]

/-! ### What the calls behind a gate can be refused with -/

section Behind

variable {kind : Error → Prop}

/-- A move of lamports refuses with one of the two errors it names. -/
theorem World.moveLamports_refusesOnly {world : World} {short full : Error}
    {source target : Pubkey} {amount : UInt64} (isShort : kind short) (isFull : kind full) :
    RefusesOnly kind (world.moveLamports short full source target amount) := by
  intro error refused
  unfold moveLamports at refused
  -- The source may hold too little, and the target too much.
  split at refused
  · cases refused
    exact isShort
  · dsimp only at refused
    split at refused
    · cases refused
      exact isFull
    · cases refused

/-- Payments out of one account are refused with the one error they name. -/
theorem World.payOut_refusesOnly {refused : Error} {payer : Pubkey} (named : kind refused)
    (payments : List (Pubkey × UInt64)) (world : World) :
    RefusesOnly kind (world.payOut refused payer payments) := by
  -- Each payment is one move, which refuses with that error and no other.
  induction payments generalizing world with
  | nil => exact .pure world
  | cons payment rest ih =>
    obtain ⟨target, amount⟩ := payment
    exact .bind (moveLamports_refusesOnly named named) ih

/-- A token transfer is refused by the token program only. -/
theorem Tokens.transfer_refusesOnly (tokens : Tokens)
    {source destination authority : Pubkey} {amount : UInt64}
    (runtime : ∀ error, kind (.runtime error)) :
    RefusesOnly kind (tokens.transfer source destination authority amount) := by
  unfold transfer
  refine .bind (.found (runtime _)) fun paying => ?_
  refine .bind (.found (runtime _)) fun paid => ?_
  refine .bind (.constraint (runtime _)) fun _ => ?_
  refine .bind (.constraint (runtime _)) fun _ => ?_
  refine .bind (.found (runtime _)) fun rest => ?_
  -- A transfer to itself ends here, and any other one still credits its target.
  split
  · exact .pure _
  · exact .bind (.found (runtime _)) fun sum => .pure _

/-- The call into pump is refused as a failed buy, or by the token program. -/
theorem cpiBuyExactSolIn_refusesOnly {env : Env} {start world : World}
    {callerAccounts : List Pubkey} {accounts : BuyExactSolIn}
    {spendableSolIn minTokensOut : UInt64} (failed : kind (.batchit .BuyFailed))
    (runtime : ∀ error, kind (.runtime error)) :
    RefusesOnly kind (cpiBuyExactSolIn env start world callerAccounts accounts spendableSolIn
      minTokensOut) := by
  unfold cpiBuyExactSolIn
  refine .bind (.require failed) fun _ => ?_
  refine .bind (.require failed) fun _ => ?_
  refine .bind (.okOr failed) fun credited => ?_
  refine .bind (.require failed) fun _ => ?_
  refine .bind (.okOr failed) fun fill => ?_
  refine .bind (.require failed) fun _ => ?_
  refine .bind (.require failed) fun _ => ?_
  -- Pump is paid before it hands out the tokens.
  refine .bind (World.payOut_refusesOnly failed _ _) fun paid => ?_
  exact .bind (Tokens.transfer_refusesOnly _ runtime) fun tokens => .pure _

end Behind

/-! ### The gates in the handlers -/

/-- Refused at the buy gate, for the status or for the time. -/
def atBuyGate (error : Error) : Prop :=
  error = .batchit .BadStatus ∨ error = .batchit .LaunchGraceExpired

/-- With the right accounts, a pool that has not bought is refused at the gate iff it is closed. -/
theorem completeBuy_gated {env : Env} {world : World} {accounts : CompleteBuyAccounts}
    {pool : Pool} {associatedUser : TokenAccount}
    (checked : accounts.Checked env world pool associatedUser) (unbought : pool.status ≠ .Bought)
    (now : Int64) (minTokensOut : UInt64) :
    (∃ error, completeBuy env world now accounts minTokensOut = .error error ∧ atBuyGate error) ↔
      pool.buyOpen now = false := by
  -- The accounts pass, so the call begins at the status.
  rw [completeBuy, bind_of_ok (signer_of checked.signed), bind_of_ok checked.loaded,
    bind_of_ok checked.buyer, bind_of_ok (found_eq_ok.mpr checked.user),
    bind_of_ok (constraint_of checked.program), if_neg unbought, Pool.buyOpen_eq_false]
  by_cases launching : pool.status = .Launching
  · by_cases early : now < pool.graceEndsAt
    · refine iff_of_false ?_ (not_not_intro ⟨launching, early⟩)
      rw [bind_of_ok (require_of launching), bind_of_ok (require_of early)]
      intro stopped
      obtain ⟨error, refused, gate⟩ := stopped
      -- Past the gate no later check refuses with either of its errors.
      revert gate
      revert error
      change RefusesOnly (fun error => ¬ atBuyGate error) _
      refine .bind (.require (by simp [atBuyGate])) fun _ => ?_
      refine .bind (.require (by simp [atBuyGate])) fun _ => ?_
      refine .bind (.require (by simp [atBuyGate])) fun _ => ?_
      refine .bind (.require (by simp [atBuyGate])) fun _ => ?_
      refine .bind (World.moveLamports_refusesOnly (by simp [atBuyGate]) (by simp [atBuyGate]))
        fun edited => ?_
      refine .bind (cpiBuyExactSolIn_refusesOnly (by simp [atBuyGate]) (by simp [atBuyGate]))
        fun filled => ?_
      refine .bind (.found (by simp [atBuyGate])) fun reloaded => ?_
      refine .bind (.require (by simp [atBuyGate])) fun _ => ?_
      exact .pure _
    · refine iff_of_true ⟨_, ?_, .inr rfl⟩ fun open' => early open'.2
      rw [bind_of_ok (require_of launching)]
      exact bind_of_error (require_of_not early)
  · exact iff_of_true ⟨_, bind_of_error (require_of_not launching), .inl rfl⟩
      fun open' => launching open'.1

/-- With the right accounts, a refund is refused at the gate iff the pool pays none at the time. -/
theorem refund_gated {env : Env} {world : World} {accounts : RefundAccounts} {pool : Pool}
    {contrib : Contribution} (signed : accounts.contributor.canSign = true)
    (loaded : loadPool env world accounts.pool = .ok pool)
    (record : loadContribution env world accounts.contribution accounts.pool accounts.contributor
      = .ok contrib) (now : Int64) :
    refund env world now accounts = .error (.batchit .RefundNotAllowed) ↔
      pool.refundAllowed now = false := by
  -- The accounts pass, so the call begins at the test.
  rw [refund, bind_of_ok (signer_of signed), bind_of_ok loaded, bind_of_ok record]
  by_cases allowed : pool.refundAllowed now = true
  · refine iff_of_false ?_ (by simp [allowed])
    rw [bind_of_ok (require_of allowed)]
    -- Past the gate no later check refuses with its error.
    apply RefusesOnly.ne
    refine .bind (.require (by simp)) fun _ => ?_
    refine .bind (.require (by simp)) fun _ => ?_
    refine .bind (.require (by simp)) fun _ => ?_
    refine .bind (.require (by simp)) fun _ => ?_
    refine .bind (.okOr (by simp)) fun totalContributed => ?_
    refine .bind (.okOr (by simp)) fun totalRefunded => ?_
    refine .bind (World.moveLamports_refusesOnly (by simp) (by simp)) fun paid => ?_
    exact .pure _
  · exact iff_of_true (bind_of_error (require_of_not allowed)) (by simpa using allowed)

end Batchit
