import Batchit.Protocol.Ledger

/-! The lamports of a pool account: its rent, what outsiders sent, and the escrow it still holds. -/

namespace Batchit

open Machine

/-- The contributed lamports a pool still holds, all of them until its buy. -/
def Pool.escrow (account : Pool) : Nat :=
  match account.status with
  | .Bought | .Finalized => 0
  | .Open | .Launching | .Refundable | .Closed => account.totalContributed.toNat

/-- The contributed lamports held at a pool's address. -/
def World.escrow (world : World) (pool : Pubkey) : Nat := (world.pools pool).elim 0 Pool.escrow

/-- A pool account's lamports, explained, with its rent always covered. -/
structure Funded (env : Env) (start : World) (pool : Pubkey) (history : List Transition)
    (world : World) : Prop where
  lamports : (world.lamports pool).toNat
    = rent pool history + donated start pool history + world.escrow pool
  exempt : (world.pools pool).isSome = true →
    (env.minimumBalance Pool.LEN).toNat ≤ rent pool history + donated start pool history

section Reading

variable {start : World} {pool : Pubkey} {transition : Transition} {history : List Transition}

/-- Unless a step closes the pool, it adds the rent it paid. -/
theorem rent_cons (open' : closes pool transition = false) :
    rent pool (transition :: history) = rentPaid pool transition + rent pool history :=
  tally_within _ _ open'

/-- Unless a step closes the pool, it adds what it sent from outside. -/
theorem donated_cons (open' : closes pool transition = false) :
    donated start pool (transition :: history)
      = endowment pool transition + donated start pool history := by
  rw [donated, if_neg (by simp [open'])]

/-- Whether an instruction leaves a pool's rent and donations alone. -/
def Instruction.keepsFunds (pool : Pubkey) : Instruction → Bool
  | .createPool accounts _ => accounts.pool ≠ pool
  | .closePool accounts => accounts.pool ≠ pool
  | .systemTransfer _ target _ => target ≠ pool
  | _ => true

/-- An instruction that keeps the funds adds neither rent nor donations. -/
theorem funds_of_keeps (keeps : transition.action.instruction.keepsFunds pool = true) :
    rent pool (transition :: history) = rent pool history ∧
      donated start pool (transition :: history) = donated start pool history := by
  -- Only a creation, a closing or a transfer to this very pool would move any of the three.
  unfold Instruction.keepsFunds at keeps
  have open' : closes pool transition = false := by
    unfold closes
    split <;> simp_all
  have noRent : rentPaid pool transition = 0 := by
    unfold rentPaid
    split <;> simp_all
  have noEndowment : endowment pool transition = 0 := by
    unfold endowment
    split <;> simp_all
  rw [rent_cons open', donated_cons open', noRent, noEndowment, Nat.zero_add, Nat.zero_add]
  exact ⟨rfl, rfl⟩

/-- An instruction that does not concern a pool keeps its funds. -/
theorem Instruction.keepsFunds_of_other {instruction : Instruction}
    (other : instruction.concerns pool = false) : instruction.keepsFunds pool = true := by
  cases instruction <;> simp_all [Instruction.concerns, Instruction.keepsFunds]

end Reading

section Funds

variable {env : Env} {start : World} {pool : Pubkey} {before after : World} {action : Action}
variable {history : List Transition}

/-- A step inside a life funds the pool by exactly what it changes of the escrow. -/
theorem Funded.kept (funded : Funded env start pool history before)
    (keeps : action.instruction.keepsFunds pool = true)
    (live : (before.pools pool).isSome = (after.pools pool).isSome)
    (moved : (after.lamports pool).toNat + before.escrow pool
      = (before.lamports pool).toNat + after.escrow pool) :
    Funded env start pool (⟨before, action, after⟩ :: history) after := by
  have funds : rent pool (⟨before, action, after⟩ :: history) = rent pool history ∧
      donated start pool (⟨before, action, after⟩ :: history) = donated start pool history :=
    funds_of_keeps keeps
  obtain ⟨rents, donations⟩ := funds
  have lamports := funded.lamports
  -- The rent and the donations stand as they were, so the balance follows the escrow.
  constructor
  · rw [rents, donations]
    omega
  · rw [rents, donations, ← live]
    exact funded.exempt

/-- The escrow of a stored pool. -/
theorem World.escrow_of_stored {world : World} {account : Pool}
    (stored : world.pools pool = some account) : world.escrow pool = account.escrow := by
  rw [World.escrow, stored, Option.elim_some]

/-- A pool opens on its rent and on whatever its address had been sent. -/
theorem Funded.created {accounts : CreatePoolAccounts} {args : CreatePoolArgs}
    {graceEndsAt : Int64} (funded : Funded env start pool history before)
    (effect : Created env pool before action after accounts args graceEndsAt) :
    Funded env start pool (⟨before, action, after⟩ :: history) after := by
  have open' : closes pool ⟨before, action, after⟩ = false := by
    simp [closes, effect.instruction]
  have paid : rentPaid pool ⟨before, action, after⟩
      = (after.lamports pool).toNat - (before.lamports pool).toNat := by
    simp [rentPaid, effect.instruction, effect.target]
  have outside : endowment pool ⟨before, action, after⟩ = 0 := by
    simp [endowment, effect.instruction]
  have vacant : before.escrow pool = 0 := by
    rw [World.escrow, effect.unused]
    rfl
  have empty : after.escrow pool = 0 := by
    rw [World.escrow_of_stored effect.account]
    rfl
  have lamports := funded.lamports
  have topped := effect.lamports
  -- The rent paid tops the address up to the minimum, whatever it had been sent before.
  constructor
  · rw [rent_cons open', donated_cons open', paid, outside]
    omega
  · intro _
    rw [rent_cons open', donated_cons open', paid, outside]
    omega

/-- Closing a pool empties its address, so rent and donations start over. -/
theorem Funded.closed {accounts : ClosePoolAccounts} {account : Pool}
    (effect : Closed pool before action after accounts account) :
    Funded env start pool (⟨before, action, after⟩ :: history) after := by
  have last : closes pool ⟨before, action, after⟩ = true := by
    simp [closes, effect.instruction, effect.target]
  -- Nothing is left at the address, and nothing is counted from before the closing.
  constructor
  · rw [World.escrow, effect.accountAfter, effect.lamports, rent, tally_begin _ _ last, donated,
      if_pos last]
    rfl
  · intro live
    rw [effect.accountAfter] at live
    cases live

/-- Lamports sent to a pool from outside are donations to it. -/
theorem Funded.endowed {source : Pubkey} {amount : UInt64}
    (funded : Funded env start pool history before)
    (effect : Endowed pool before action after source amount) :
    Funded env start pool (⟨before, action, after⟩ :: history) after := by
  have open' : closes pool ⟨before, action, after⟩ = false := by
    simp [closes, effect.instruction]
  have noRent : rentPaid pool ⟨before, action, after⟩ = 0 := by
    simp [rentPaid, effect.instruction]
  have outside : endowment pool ⟨before, action, after⟩ = amount.toNat := by
    simp [endowment, effect.instruction]
  have same : after.escrow pool = before.escrow pool := by
    rw [World.escrow, World.escrow, effect.account]
  have lamports := funded.lamports
  have exempt := funded.exempt
  have reached := effect.lamports
  -- What reaches the account is what is donated, so the escrow is left out of it.
  constructor
  · rw [rent_cons open', donated_cons open', noRent, outside]
    omega
  · rw [rent_cons open', donated_cons open', noRent, outside, effect.account]
    intro live
    have := exempt live
    omega

/-- A pool that pays refunds still holds its escrow. -/
theorem Pool.escrow_of_refundAllowed {account : Pool} {now : Int64}
    (allowed : account.refundAllowed now = true) :
    account.escrow = account.totalContributed.toNat := by
  -- The statuses refunds are paid in are those before a buy.
  unfold Pool.refundAllowed at allowed
  unfold Pool.escrow
  cases status : account.status <;> simp_all

/-- Whatever a step does to a pool, its lamports stay explained. -/
theorem Funded.effect (funded : Funded env start pool history before)
    (effect : Effect env pool before action after) :
    Funded env start pool (⟨before, action, after⟩ :: history) after := by
  cases effect with
  | untouched other frame =>
    refine funded.kept (Instruction.keepsFunds_of_other other) (by rw [frame.account]) ?_
    rw [World.escrow, World.escrow, frame.account, frame.lamports]
  | created _ _ _ effect => exact funded.created effect
  | contributed _ _ _ _ _ _ effect =>
    -- The amount accepted is what the account receives.
    refine funded.kept (by rw [effect.instruction]; rfl)
      (by rw [effect.stored, effect.accountAfter]; rfl) ?_
    have added := effect.added
    rw [World.escrow_of_stored effect.stored, World.escrow_of_stored effect.accountAfter,
      effect.lamports]
    simp only [Pool.escrow, effect.status]
    omega
  | launched _ _ _ effect =>
    refine funded.kept (by rw [effect.instruction]; rfl)
      (by rw [effect.stored, effect.accountAfter]; rfl) ?_
    rw [World.escrow_of_stored effect.stored, World.escrow_of_stored effect.accountAfter]
    simp only [Pool.escrow, effect.status, effect.frame, World.setPool_lamports]
  | spent _ _ _ _ _ effect =>
    -- The buy sends off the whole contributed total.
    refine funded.kept (by rw [effect.instruction]; rfl)
      (by rw [effect.stored, effect.accountAfter]; rfl) ?_
    have spent := effect.lamports
    rw [World.escrow_of_stored effect.stored, World.escrow_of_stored effect.accountAfter]
    simp only [Pool.escrow, Pool.bought, effect.status]
    omega
  | repeated _ _ _ effect =>
    refine funded.kept (by rw [effect.instruction]; rfl) (by rw [effect.same]) ?_
    rw [effect.same]
  | settled _ _ _ _ _ _ _ effect =>
    refine funded.kept (by rw [effect.instruction]; rfl)
      (by rw [effect.stored, effect.accountAfter]; rfl) ?_
    rw [World.escrow_of_stored effect.stored, World.escrow_of_stored effect.accountAfter]
    simp only [Pool.escrow, Pool.finalized, effect.status]
    rw [effect.frame]
    rfl
  | claimed _ _ _ _ _ _ _ effect =>
    refine funded.kept (by rw [effect.instruction]; rfl)
      (by rw [effect.stored, effect.accountAfter]; rfl) ?_
    rw [World.escrow_of_stored effect.stored, World.escrow_of_stored effect.accountAfter,
      effect.lamports]
    simp only [Pool.escrow, effect.status]
  | refunded _ _ _ _ _ effect =>
    -- The amount paid back leaves the total and the account alike.
    refine funded.kept (by rw [effect.instruction]; rfl)
      (by rw [effect.stored, effect.accountAfter]; rfl) ?_
    have subtracted := effect.subtracted
    have left := effect.lamports
    rw [World.escrow_of_stored effect.stored, World.escrow_of_stored effect.accountAfter,
      Pool.escrow_of_refundAllowed effect.allowed]
    simp only [Pool.escrow]
    omega
  | marked _ _ effect =>
    refine funded.kept (by rw [effect.instruction]; rfl)
      (by rw [effect.stored, effect.accountAfter]; rfl) ?_
    rw [World.escrow_of_stored effect.stored, World.escrow_of_stored effect.accountAfter,
      effect.frame]
    rcases effect.status with status | status <;> simp only [Pool.escrow, status] <;> rfl
  | closed _ _ effect => exact .closed effect
  | endowed _ _ effect => exact funded.endowed effect

end Funds

/-- The lamports of every pool of every reachable state are explained. -/
theorem run_funded {env : Env} {start world : World} {history : List Transition}
    (genesis : Genesis start) (run : Run env start history world) (creator : Pubkey)
    (seed : UInt64) : Funded env start (.pool creator seed) history world := by
  apply run.extends
  · -- Whatever the address holds at the start counts as sent from outside.
    constructor
    · rw [World.escrow, genesis.noPools]
      simp [rent, donated, tally]
    · intro live
      rw [genesis.noPools] at live
      cases live
  · intro past pre action post before funded taken
    exact funded.effect (step_effect (run_recordsAtHome genesis before) taken)

end Batchit
