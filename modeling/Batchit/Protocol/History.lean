import Batchit.Protocol.Step
import Mathlib.Data.Finset.Dedup

/-! What a history says about one pool, read off the calls made and the balances they moved. -/

namespace Batchit

open Machine

section Reading

variable (pool : Pubkey) (contributor : Pubkey) (transition : Transition)

/-- Whether a step created the pool account, which begins a life of its address. -/
def opens : Bool :=
  match transition.action.instruction with
  | .createPool accounts _ => accounts.pool = pool
  | _ => false

/-- Whether a step closed the pool account. -/
def closes : Bool :=
  match transition.action.instruction with
  | .closePool accounts => accounts.pool = pool
  | _ => false

/-- The amount a step accepted into the pool. -/
def deposit : Nat :=
  match transition.action.instruction with
  | .contribute accounts amount => if accounts.pool = pool then amount.toNat else 0
  | _ => 0

/-- The amount a step accepted into the pool from one contributor. -/
def depositBy : Nat :=
  match transition.action.instruction with
  | .contribute accounts amount =>
    if accounts.pool = pool ∧ accounts.contributor = contributor then amount.toNat else 0
  | _ => 0

/-- The wallet whose contribution to the pool a step accepted. -/
def depositor : List Pubkey :=
  match transition.action.instruction with
  | .contribute accounts _ => if accounts.pool = pool then [accounts.contributor] else []
  | _ => []

/-- The lamports a refund of the pool put into one contributor's wallet. -/
def repaid : Nat :=
  match transition.action.instruction with
  | .refund accounts =>
    if accounts.pool = pool ∧ accounts.contributor = contributor then
      (transition.post.lamports contributor).toNat - (transition.pre.lamports contributor).toNat
    else 0
  | _ => 0

/-- The lamports that reached the pool account from outside the program. -/
def endowment : Nat :=
  match transition.action.instruction with
  | .systemTransfer _ target amount => if target = pool then amount.toNat else 0
  | _ => 0

/-- The lamports its creator put into the pool account for its rent. -/
def rentPaid : Nat :=
  match transition.action.instruction with
  | .createPool accounts _ =>
    if accounts.pool = pool then
      (transition.post.lamports pool).toNat - (transition.pre.lamports pool).toNat
    else 0
  | _ => 0

/-- Whether a step performed the pool's buy on pump. -/
def buys : Bool :=
  match transition.action.instruction with
  | .completeBuy accounts _ =>
    accounts.pool = pool && (transition.pre.pools pool).any (·.status = .Launching)
  | _ => false

/-- The lamports a buy took out of the program, from the pool and its buyer together. -/
def outlay : Nat :=
  if buys pool transition then
    (transition.pre.lamports pool).toNat + (transition.pre.lamports (.buyer pool)).toNat
      - ((transition.post.lamports pool).toNat + (transition.post.lamports (.buyer pool)).toNat)
  else 0

/-- The lamports a buy left on the pool's buyer, beyond what the buyer held before. -/
def residue : Nat :=
  if buys pool transition then
    (transition.post.lamports (.buyer pool)).toNat - (transition.pre.lamports (.buyer pool)).toNat
  else 0

/-- The tokens a claim on the pool put into the account the claimant named. -/
def sharePaid : Nat :=
  match transition.action.instruction with
  | .claim accounts =>
    if accounts.pool = pool then
      transition.post.tokens.balance accounts.contributorAta
        - transition.pre.tokens.balance accounts.contributorAta
    else 0
  | _ => 0

/-- One for a claim of the given contributor on the pool, and zero for any other step. -/
def claimBy : Nat :=
  match transition.action.instruction with
  | .claim accounts => if accounts.pool = pool ∧ accounts.contributor = contributor then 1 else 0
  | _ => 0

/-- The tokens a claim of the given contributor put into the account it named. -/
def sharePaidTo : Nat :=
  match transition.action.instruction with
  | .claim accounts =>
    if accounts.pool = pool ∧ accounts.contributor = contributor then
      transition.post.tokens.balance accounts.contributorAta
        - transition.pre.tokens.balance accounts.contributorAta
    else 0
  | _ => 0

end Reading

section Life

variable (pool : Pubkey) (contributor : Pubkey) (history : List Transition)

/-- The sum of all amounts accepted by `contribute` in this life of the pool. -/
def accepted : Nat := tally (opens pool) (deposit pool) history

/-- The sum of all amounts one contributor paid in through `contribute` in this life. -/
def paidIn : Nat := tally (opens pool) (depositBy pool contributor) history

/-- The wallets whose `contribute` succeeded in this life, each once. -/
def depositors : Finset Pubkey := (gather (opens pool) (depositor pool) history).toFinset

/-- The lamports refunds have paid one contributor in this life. -/
def paidBack : Nat := tally (opens pool) (repaid pool contributor) history

/-- The tokens claims have paid out in this life. -/
def sharesPaid : Nat := tally (opens pool) (sharePaid pool) history

/-- The lamports buys have taken out of the program in this life. -/
def takenByBuys : Nat := tally (opens pool) (outlay pool) history

/-- The lamports buys have left on the pool's buyer in this life. -/
def leftByBuys : Nat := tally (opens pool) (residue pool) history

/-- How often one contributor has claimed in this life. -/
def claimCount : Nat := tally (opens pool) (claimBy pool contributor) history

/-- The tokens one contributor's claims have been paid in this life. -/
def received : Nat := tally (opens pool) (sharePaidTo pool contributor) history

/-- The rent put into the pool account since it was last closed. -/
def rent : Nat := tally (closes pool) (rentPaid pool) history

/--
The lamports that reached the pool's address from outside since it was last closed.

An address never closed counts what it held at the start.
-/
def donated (start : World) (pool : Pubkey) : List Transition → Nat
  | [] => (start.lamports pool).toNat
  | transition :: earlier =>
    if closes pool transition then 0 else endowment pool transition + donated start pool earlier

end Life

end Batchit
