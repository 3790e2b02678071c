import Batchit.Orchestrator.StateMachine
import Batchit.Properties.Lifecycle

/-! Where the decisions of the orchestrator agree with the gates of the program. -/

namespace Batchit

open Orchestrator

/-- The decisions for a pool at a time are the ones its gates admit, and they fit each other. -/
structure Pool.WellGuided (account : Pool) (curveExists : Bool) (now : Int64) : Prop where
  buyOnly : account.bundle curveExists = .buyOnly ↔
    curveExists = true ∧ account.buyOpen now = true
  createAndBuy : account.bundle curveExists = .createAndBuy ↔
    curveExists = false ∧ account.buyOpen now = true
  none : account.bundle curveExists = .none ↔ account.buyOpen now = false
  building : account.nextStage curveExists now = .buildingBundle ↔ account.buyOpen now = true
  refundWindow : account.nextStage curveExists now = .refundWindow ↔
    account.refundAllowed now = true
  /-- No bundle is chosen unless one is being built. -/
  united : account.nextStage curveExists now ≠ .buildingBundle → account.bundle curveExists = .none

/-- The stage decided for a pool, as the handlers see it from the accounts they are called with. -/
structure Pool.StagedByGates (env : Env) (world : World) (account : Pool) (curveExists : Bool)
    (now : Int64) : Prop where
  buy : ∀ accounts user minTokensOut, account.status ≠ .Bought →
    CompleteBuyAccounts.Checked env world accounts account user →
    ((∃ error, completeBuy env world now accounts minTokensOut = .error error ∧ atBuyGate error) ↔
      account.nextStage curveExists now ≠ .buildingBundle)
  refund : ∀ accounts : RefundAccounts, ∀ contrib, accounts.contributor.canSign = true →
    loadPool env world accounts.pool = .ok account →
    loadContribution env world accounts.contribution accounts.pool accounts.contributor
      = .ok contrib →
    (refund env world now accounts = .error (.batchit .RefundNotAllowed) ↔
      account.nextStage curveExists now ≠ .refundWindow)

section Decisions

variable (account : Pool) (curveExists : Bool) (now : Int64)

/-- The handlers stop at their gates exactly outside the stages that lead to them. -/
theorem Pool.stagedByGates (env : Env) (world : World) :
    account.StagedByGates env world curveExists now where
  -- Each gate refuses exactly where the stage says not to go.
  buy := by
    intro accounts user minTokensOut unbought checked
    rw [completeBuy_gated checked unbought, Ne, nextStage_eq_buildingBundle, Bool.not_eq_true]
  refund := by
    intro accounts contrib signed loaded record
    rw [refund_gated signed loaded record, Ne, nextStage_eq_refundWindow, Bool.not_eq_true]

variable {account now}

/-- While its grace lasts, a pool's buy is open exactly when it is launching. -/
theorem Pool.buyOpen_iff_launching
    (fresh : ¬ (account.status = .Launching ∧ account.graceEndsAt ≤ now)) :
    account.buyOpen now = true ↔ account.status = .Launching := by
  rw [buyOpen_iff, ← Int64.not_le]
  exact ⟨fun opened => opened.1, fun launching => ⟨launching, fun late => fresh ⟨launching, late⟩⟩⟩

/-- A launching pool past its grace is still given a bundle, though none is being built. -/
theorem Pool.not_wellGuided_of_late (launching : account.status = .Launching)
    (late : account.graceEndsAt ≤ now) : ¬ account.WellGuided curveExists now := by
  intro guided
  have shut : account.buyOpen now = false :=
    buyOpen_eq_false.mpr fun opened => Int64.not_lt.mpr late opened.2
  -- The kind of bundle reads the status only.
  exact bundle_eq_none.mp (guided.none.mpr shut) launching

variable (account now)

/--
The decisions agree with the gates except for a launching pool whose grace is over.

This is true of every pool account, so of every reachable one.
-/
theorem decisions_agree_iff : account.WellGuided curveExists now ↔
    ¬ (account.status = .Launching ∧ account.graceEndsAt ≤ now) := by
  constructor
  · intro guided stale
    exact Pool.not_wellGuided_of_late curveExists stale.1 stale.2 guided
  · intro fresh
    have opened := Pool.buyOpen_iff_launching fresh
    have shut : account.buyOpen now = false ↔ account.status ≠ .Launching := by
      rw [← Bool.not_eq_true, opened]
    -- The stage follows the gates at any time, and the kind follows the same status.
    exact {
      buyOnly := by rw [Pool.bundle_eq_buyOnly, opened]
      createAndBuy := by rw [Pool.bundle_eq_createAndBuy, opened]
      none := by rw [Pool.bundle_eq_none, shut]
      building := Pool.nextStage_eq_buildingBundle
      refundWindow := Pool.nextStage_eq_refundWindow
      united := by
        intro idle
        rw [Ne, Pool.nextStage_eq_buildingBundle, opened] at idle
        exact Pool.bundle_eq_none.mpr idle }

end Decisions

/-- When the grace of the sample launch ends, refunds are due and a buy is still decided. -/
theorem late_buy_decided :
    Genesis Sample.start ∧
      Run Sample.env Sample.start (Sample.past (Sample.raise ++ Sample.market))
        (Sample.reach (Sample.raise ++ Sample.market)) ∧
      ∃ account, (Sample.reach (Sample.raise ++ Sample.market)).pools Sample.pool = some account ∧
        account.graceEndsAt = 150 ∧ account.nextStage true 150 = .refundWindow ∧
        account.bundle true = .buyOnly ∧ ¬ account.WellGuided true 150 := by
  have live : ((Sample.reach (Sample.raise ++ Sample.market)).pools Sample.pool).any
      (fun account => account.graceEndsAt = 150 ∧ account.nextStage true 150 = .refundWindow ∧
        account.bundle true = .buyOnly) = true := by decide +kernel
  obtain ⟨account, stored, facts⟩ := (Option.any_eq_true _ _).mp live
  simp only [decide_eq_true_eq] at facts
  obtain ⟨ends, window, buys⟩ := facts
  refine ⟨Sample.genesis, Sample.run (by decide +kernel), account, stored, ends, window, buys, ?_⟩
  -- Outside the building stage no bundle should have been chosen.
  intro guided
  have none := guided.united (by rw [window]; decide)
  rw [buys] at none
  cases none

end Batchit
