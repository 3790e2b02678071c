import Batchit.Layout
import Batchit.Instructions.Gates

/-! What the orchestrator decides on resume, from the state of the chain alone. -/

namespace Batchit

namespace Orchestrator

/-- Where a launch stands. -/
inductive Stage where
  | idle
  | waitingLaunchAt
  | beginLaunchSent
  | buildingBundle
  | bundleSubmitted
  | confirming
  | bought
  | finalized
  | failed
  | refundWindow
  deriving DecidableEq, Repr

/-- The bundle to submit, if any. -/
inductive BundleKind where
  | createAndBuy
  | buyOnly
  | none
  deriving DecidableEq, Repr

/-- The stage to resume at. A time is an exact whole number of seconds. -/
def nextStageFromChain (poolStatus : String) (curveExists : Bool) (now graceEndsAt : Int) : Stage :=
  if poolStatus = "Finalized" then .finalized
  else if poolStatus = "Bought" then .bought
  else if poolStatus = "Refundable" then .refundWindow
  else if poolStatus = "Launching" then
    if now ≥ graceEndsAt then .refundWindow
    -- A bundle is built either way, and its kind is decided apart.
    else if curveExists then .buildingBundle else .buildingBundle
  else if poolStatus = "Open" then
    if now ≥ graceEndsAt then .refundWindow else .waitingLaunchAt
  else .idle

/-- The kind of bundle to build. Unlike the stage, it is decided without looking at the time. -/
def bundleKind (poolStatus : String) (curveExists : Bool) : BundleKind :=
  if poolStatus ≠ "Launching" then .none
  else if curveExists then .buyOnly else .createAndBuy

end Orchestrator

open Orchestrator

namespace Pool

/-- The stage decided for a pool, given the chain's own values. -/
def nextStage (account : Pool) (curveExists : Bool) (now : Int64) : Stage :=
  nextStageFromChain account.status.name curveExists now.toInt account.graceEndsAt.toInt

/-- The kind of bundle decided for a pool, given the chain's own values. -/
def bundle (account : Pool) (curveExists : Bool) : BundleKind :=
  bundleKind account.status.name curveExists

variable {account : Pool} {curveExists : Bool} {now : Int64}

/-! ### The stage follows the gates -/

/-- A bundle is being built exactly while the pool's buy is open. -/
theorem nextStage_eq_buildingBundle :
    account.nextStage curveExists now = .buildingBundle ↔ account.buyOpen now = true := by
  rw [buyOpen_iff, Int64.lt_iff_toInt_lt, ← Int.not_le]
  -- Only a launching pool gets there, and then the time decides.
  by_cases late : account.graceEndsAt.toInt ≤ now.toInt
  all_goals
    cases status : account.status <;>
      simp [nextStage, nextStageFromChain, PoolStatus.name, status, late]

/-- The refund window is exactly the time at which the pool pays refunds. -/
theorem nextStage_eq_refundWindow :
    account.nextStage curveExists now = .refundWindow ↔ account.refundAllowed now = true := by
  -- A refundable pool is in it at once, an open or launching one from the end of its grace.
  cases status : account.status <;>
    simp [nextStage, nextStageFromChain, PoolStatus.name, refundAllowed, status,
      Int64.le_iff_toInt_le]

/-! ### The kind of bundle follows the status -/

/-- A launching pool whose curve exists gets a buy alone. -/
theorem bundle_eq_buyOnly :
    account.bundle curveExists = .buyOnly ↔ curveExists = true ∧ account.status = .Launching := by
  cases status : account.status <;> simp [bundle, bundleKind, PoolStatus.name, status]

/-- A launching pool without a curve gets its creation and a buy. -/
theorem bundle_eq_createAndBuy :
    account.bundle curveExists = .createAndBuy ↔
      curveExists = false ∧ account.status = .Launching := by
  cases status : account.status <;> simp [bundle, bundleKind, PoolStatus.name, status]

/-- A bundle is built for a launching pool and for no other. -/
theorem bundle_eq_none :
    account.bundle curveExists = .none ↔ account.status ≠ .Launching := by
  -- Whether or not the curve exists, a launching pool gets one of the two kinds.
  cases curveExists
  all_goals cases status : account.status <;> simp [bundle, bundleKind, PoolStatus.name, status]

end Pool

end Batchit
