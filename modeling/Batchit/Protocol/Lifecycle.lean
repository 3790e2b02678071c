import Batchit.Protocol.Escrow
import Mathlib.Logic.Relation

/-! The life of a pool: the statuses it moves through, and what it writes only once. -/

namespace Batchit

/-! ### Statuses -/

/-- The moves of a pool's status. -/
inductive PoolStatus.Edge : PoolStatus → PoolStatus → Prop where
  | launch : Edge .Open .Launching
  | buy : Edge .Launching .Bought
  | settle : Edge .Bought .Finalized
  | expire : Edge .Open .Refundable
  | abandon : Edge .Launching .Refundable

/-- One status leads to another by zero or more moves. -/
def PoolStatus.Leads : PoolStatus → PoolStatus → Prop := Relation.ReflTransGen Edge

namespace PoolStatus

/-- A set of statuses no move leaves holds whatever a member of it leads to. -/
theorem Leads.stays {first last : PoolStatus} (leads : Leads first last) (set : PoolStatus → Prop)
    (closed : ∀ {status next}, Edge status next → set status → set next) (member : set first) :
    set last := by
  -- Along the moves: each one keeps the set.
  induction leads with
  | refl => exact member
  | tail _ edge ih => exact closed edge ih

/-- A pool that has bought stays bought or is finalized. -/
theorem Leads.spent {first last : PoolStatus} (leads : Leads first last)
    (spent : first = .Bought ∨ first = .Finalized) : last = .Bought ∨ last = .Finalized := by
  apply leads.stays (fun status => status = .Bought ∨ status = .Finalized) _ spent
  -- The one move out of bought ends in finalized, which no move leaves.
  intro status next edge member
  cases edge <;> simp_all

/-- A finalized pool stays finalized. -/
theorem Leads.finalized {first last : PoolStatus} (leads : Leads first last)
    (settled : first = .Finalized) : last = .Finalized := by
  apply leads.stays (· = .Finalized) _ settled
  -- No move starts there.
  intro status next edge member
  cases edge <;> cases member

/-- A refundable pool stays refundable. -/
theorem Leads.refundable {first last : PoolStatus} (leads : Leads first last)
    (returned : first = .Refundable) : last = .Refundable := by
  apply leads.stays (· = .Refundable) _ returned
  -- No move starts there.
  intro status next edge member
  cases edge <;> cases member

end PoolStatus

/-! ### What a pool keeps -/

/-- What is set when a pool opens, and never again. -/
structure Pool.SameTerms (account later : Pool) : Prop where
  creator : later.creator = account.creator
  seed : later.seed = account.seed
  launchAt : later.launchAt = account.launchAt
  graceEndsAt : later.graceEndsAt = account.graceEndsAt
  minRaiseLamports : later.minRaiseLamports = account.minRaiseLamports
  maxPoolLamports : later.maxPoolLamports = account.maxPoolLamports
  minContributionLamports : later.minContributionLamports = account.minContributionLamports
  bump : later.bump = account.bump
  buyerBump : later.buyerBump = account.buyerBump

/-- One account can be a later account of the same life of a pool. -/
structure Pool.Continues (account later : Pool) : Prop where
  terms : account.SameTerms later
  leads : account.status.Leads later.status
  mint : account.mint ≠ .default → later.mint = account.mint
  tokensBought : account.tokensBought ≠ 0 → later.tokensBought = account.tokensBought
  total : account.status = .Bought ∨ account.status = .Finalized →
    later.totalContributed = account.totalContributed
  split : account.status = .Finalized →
    later.distributable = account.distributable ∧ later.burned = account.burned
  returned : account.status = .Refundable →
    later.totalContributed.toNat ≤ account.totalContributed.toNat

/-- An account is a later account of itself. -/
theorem Pool.Continues.refl (account : Pool) : account.Continues account :=
  ⟨⟨rfl, rfl, rfl, rfl, rfl, rfl, rfl, rfl, rfl⟩, .refl, fun _ => rfl, fun _ => rfl, fun _ => rfl,
    fun _ => ⟨rfl, rfl⟩, fun _ => Nat.le_refl _⟩

/-- A later account of a later account is a later account. -/
theorem Pool.Continues.trans {first middle last : Pool} (one : first.Continues middle)
    (two : middle.Continues last) : first.Continues last where
  terms := {
    creator := two.terms.creator.trans one.terms.creator
    seed := two.terms.seed.trans one.terms.seed
    launchAt := two.terms.launchAt.trans one.terms.launchAt
    graceEndsAt := two.terms.graceEndsAt.trans one.terms.graceEndsAt
    minRaiseLamports := two.terms.minRaiseLamports.trans one.terms.minRaiseLamports
    maxPoolLamports := two.terms.maxPoolLamports.trans one.terms.maxPoolLamports
    minContributionLamports :=
      two.terms.minContributionLamports.trans one.terms.minContributionLamports
    bump := two.terms.bump.trans one.terms.bump
    buyerBump := two.terms.buyerBump.trans one.terms.buyerBump }
  leads := Relation.ReflTransGen.trans one.leads two.leads
  -- What the first stretch left set is still set when the second begins.
  mint := by
    intro named
    have same := one.mint named
    rw [two.mint (by rw [same]; exact named), same]
  tokensBought := by
    intro received
    have same := one.tokensBought received
    rw [two.tokensBought (by rw [same]; exact received), same]
  -- The moves do not leave the statuses these three hold from.
  total := by
    intro spent
    rw [two.total (one.leads.spent spent), one.total spent]
  split := by
    intro settled
    obtain ⟨distributable, burned⟩ := two.split (one.leads.finalized settled)
    obtain ⟨first, second⟩ := one.split settled
    exact ⟨distributable.trans first, burned.trans second⟩
  returned := by
    intro returned
    exact (two.returned (one.leads.refundable returned)).trans (one.returned returned)

/-- One step of a pool's life: its account continues, by at most one move. -/
structure Pool.Advances (account later : Pool) : Prop where
  continues : account.Continues later
  move : later.status = account.status ∨ account.status.Edge later.status

/-! ### What each instruction requires -/

/-- Whether an instruction, if it is one of the pool's own, can succeed in a status. -/
def Instruction.allowedIn (pool : Pubkey) (status : PoolStatus) : Instruction → Bool
  | .createPool accounts _ => accounts.pool ≠ pool
  | .contribute accounts _ => accounts.pool = pool → status = .Open
  | .beginLaunch accounts _ => accounts.pool = pool → status = .Open
  | .completeBuy accounts _ => accounts.pool = pool → status = .Launching ∨ status = .Bought
  | .finalize accounts => accounts.pool = pool → status = .Bought
  | .claim accounts => accounts.pool = pool → status = .Finalized
  | .refund accounts =>
    accounts.pool = pool → status = .Open ∨ status = .Launching ∨ status = .Refundable
  | .markRefundable accounts => accounts.pool = pool → status = .Open ∨ status = .Launching
  | .closePool accounts =>
    accounts.pool = pool → status = .Refundable ∨ status = .Finalized ∨ status = .Closed
  | _ => true

/-- Whether an instruction takes in or gives back a pool's contributions, or starts its launch. -/
def Instruction.undoesBuy (pool : Pubkey) : Instruction → Bool
  | .contribute accounts _ => accounts.pool = pool
  | .beginLaunch accounts _ => accounts.pool = pool
  | .refund accounts => accounts.pool = pool
  | .markRefundable accounts => accounts.pool = pool
  | _ => false

/-- Whether an instruction gives a pool's contributions back, or opens the way to it. -/
def Instruction.returns (pool : Pubkey) : Instruction → Bool
  | .refund accounts => accounts.pool = pool
  | .markRefundable accounts => accounts.pool = pool
  | _ => false

/-- Whether an instruction takes in, spends or pays out on what a pool raised. -/
def Instruction.proceeds (pool : Pubkey) : Instruction → Bool
  | .contribute accounts _ => accounts.pool = pool
  | .beginLaunch accounts _ => accounts.pool = pool
  | .completeBuy accounts _ => accounts.pool = pool
  | .finalize accounts => accounts.pool = pool
  | .claim accounts => accounts.pool = pool
  | _ => false

/-- Giving contributions back would undo a buy. -/
theorem Instruction.undoesBuy_of_returns {pool : Pubkey} {instruction : Instruction}
    (gives : instruction.returns pool = true) : instruction.undoesBuy pool = true := by
  -- Refunds and the marking are two of the four.
  cases instruction <;> simp_all [Instruction.returns, Instruction.undoesBuy]

/-- Once bought, a pool allows nothing that would undo the buy. -/
theorem Instruction.keepsBuy {pool : Pubkey} {status : PoolStatus} {instruction : Instruction}
    (allowed : instruction.allowedIn pool status = true)
    (spent : status = .Bought ∨ status = .Finalized) : instruction.undoesBuy pool = false := by
  -- Each of the four instructions asks for a status from before the buy.
  cases instruction <;> rcases spent with rfl | rfl <;>
    simp_all [Instruction.allowedIn, Instruction.undoesBuy]

/-- Once refundable, a pool allows nothing that would proceed with the launch. -/
theorem Instruction.keepsReturn {pool : Pubkey} {status : PoolStatus} {instruction : Instruction}
    (allowed : instruction.allowedIn pool status = true) (returned : status = .Refundable) :
    instruction.proceeds pool = false := by
  -- Each of the five instructions asks for a status other than refundable.
  subst returned
  cases instruction <;> simp_all [Instruction.allowedIn, Instruction.proceeds]

section Steps

variable {env : Env} {pool : Pubkey} {before after : World} {action : Action} {account : Pool}

/-- An instruction that does not concern a pool is allowed in any status. -/
theorem Instruction.allowedIn_of_other {instruction : Instruction} {status : PoolStatus}
    (other : instruction.concerns pool = false) :
    instruction.allowedIn pool status = true := by
  cases instruction <;> simp_all [Instruction.concerns, Instruction.allowedIn]

/-- Every step on a live pool is one its status allows. -/
theorem Effect.allowed (effect : Effect env pool before action after)
    (stored : before.pools pool = some account) :
    action.instruction.allowedIn pool account.status = true := by
  -- The account an effect found is the stored one.
  have found {other : Pool} (also : before.pools pool = some other) : other = account := by
    rw [stored, Option.some.injEq] at also
    exact also.symm
  cases effect with
  | untouched other _ => exact Instruction.allowedIn_of_other other
  | created _ _ _ effect =>
    have unused := effect.unused
    rw [stored] at unused
    cases unused
  | contributed _ _ _ _ _ _ effect =>
    rw [effect.instruction, ← found effect.stored]
    simp [Instruction.allowedIn, effect.status]
  | launched _ _ _ effect =>
    rw [effect.instruction, ← found effect.stored]
    simp [Instruction.allowedIn, effect.status]
  | spent _ _ _ _ _ effect =>
    rw [effect.instruction, ← found effect.stored]
    simp [Instruction.allowedIn, effect.status]
  | repeated _ _ _ effect =>
    rw [effect.instruction, ← found effect.stored]
    simp [Instruction.allowedIn, effect.status]
  | settled _ _ _ _ _ _ _ effect =>
    rw [effect.instruction, ← found effect.stored]
    simp [Instruction.allowedIn, effect.status]
  | claimed _ _ _ _ _ _ _ effect =>
    rw [effect.instruction, ← found effect.stored]
    simp [Instruction.allowedIn, effect.status]
  | refunded _ _ _ _ _ effect =>
    -- The statuses a refund is checked for are the same three.
    have allowed := effect.allowed
    rw [effect.instruction, ← found effect.stored]
    unfold Pool.refundAllowed at allowed
    simp only [Instruction.allowedIn, decide_eq_true_eq]
    intro _
    split at allowed <;> simp_all
  | marked _ _ effect =>
    have status := effect.status
    rw [effect.instruction, ← found effect.stored]
    simp only [Instruction.allowedIn, decide_eq_true_eq]
    tauto
  | closed _ _ effect =>
    rw [effect.instruction, ← found effect.stored]
    simp [Instruction.allowedIn, effect.status]
  | endowed _ _ effect =>
    rw [effect.instruction]
    rfl

/-- A pool that pays refunds is refundable, or can move to it. -/
theorem Pool.refundable_of_allowed {now : Int64} (allowed : account.refundAllowed now = true) :
    PoolStatus.Refundable = account.status ∨ account.status.Edge .Refundable := by
  -- The check accepts three statuses: two that can move, and the one moved to.
  unfold Pool.refundAllowed at allowed
  cases status : account.status with
  | Open => exact .inr .expire
  | Launching => exact .inr .abandon
  | Refundable => exact .inl rfl
  | Bought => simp [status] at allowed
  | Finalized => simp [status] at allowed
  | Closed => simp [status] at allowed

/-- At most one move leads from a status to the next. -/
theorem PoolStatus.leads_of_move {status next : PoolStatus}
    (move : next = status ∨ status.Edge next) : status.Leads next := by
  rcases move with rfl | edge
  · exact .refl
  · exact .single edge

/-- Unless it is closed, a live pool advances by at most one move. -/
theorem Effect.advances (effect : Effect env pool before action after)
    (stored : before.pools pool = some account) (sound : account.Sound env pool)
    (kept : closes pool ⟨before, action, after⟩ = false) :
    ∃ later, after.pools pool = some later ∧ account.Advances later := by
  have found {other : Pool} (also : before.pools pool = some other) : other = account := by
    rw [stored, Option.some.injEq] at also
    exact also.symm
  -- A step that writes neither terms nor results leaves the account as its own continuation.
  have still : account.Advances account := ⟨.refl account, .inl rfl⟩
  cases effect with
  | untouched _ frame => exact ⟨account, frame.account.trans stored, still⟩
  | created _ _ _ effect =>
    have unused := effect.unused
    rw [stored] at unused
    cases unused
  | contributed _ _ _ _ _ _ effect =>
    -- Only the totals grow, and the pool is still open.
    obtain rfl := found effect.stored
    have status := effect.status
    exact ⟨_, effect.accountAfter, {
      continues := { still.continues with
        terms := ⟨rfl, rfl, rfl, rfl, rfl, rfl, rfl, rfl, rfl⟩
        total := fun spent => by rw [status] at spent; simp at spent
        returned := fun returned => by rw [status] at returned; cases returned }
      move := .inl rfl }⟩
  | launched _ _ _ effect =>
    -- The mint was unset, so naming it contradicts nothing.
    obtain rfl := found effect.stored
    have status := effect.status
    exact ⟨_, effect.accountAfter, {
      continues := { still.continues with
        terms := ⟨rfl, rfl, rfl, rfl, rfl, rfl, rfl, rfl, rfl⟩
        leads := .single (by rw [status]; exact .launch)
        mint := fun named => absurd effect.unset named }
      move := .inr (by rw [status]; exact .launch) }⟩
  | spent _ _ _ _ _ effect =>
    -- Nothing had been bought, so recording the tokens contradicts nothing.
    obtain rfl := found effect.stored
    have status := effect.status
    have unspent := sound.phase.unspent (by simp [status])
    exact ⟨_, effect.accountAfter, {
      continues := { still.continues with
        terms := ⟨rfl, rfl, rfl, rfl, rfl, rfl, rfl, rfl, rfl⟩
        leads := .single (by rw [status]; exact .buy)
        tokensBought := fun received => absurd unspent.tokensBought received }
      move := .inr (by rw [status]; exact .buy) }⟩
  | repeated _ _ _ effect => exact ⟨account, by rw [effect.same]; exact stored, still⟩
  | settled _ _ _ _ _ _ _ effect =>
    -- The split is fixed in the move that makes it final.
    obtain rfl := found effect.stored
    have status := effect.status
    exact ⟨_, effect.accountAfter, {
      continues := { still.continues with
        terms := ⟨rfl, rfl, rfl, rfl, rfl, rfl, rfl, rfl, rfl⟩
        leads := .single (by rw [status]; exact .settle)
        split := fun settled => by rw [status] at settled; cases settled }
      move := .inr (by rw [status]; exact .settle) }⟩
  | claimed _ _ _ _ _ _ _ effect =>
    obtain rfl := found effect.stored
    exact ⟨_, effect.accountAfter, {
      continues := { still.continues with
        terms := ⟨rfl, rfl, rfl, rfl, rfl, rfl, rfl, rfl, rfl⟩ }
      move := .inl rfl }⟩
  | refunded _ _ _ _ _ effect =>
    -- A refund only ever lowers the total, in a pool that has not bought.
    obtain rfl := found effect.stored
    have early := Pool.early_of_refundAllowed effect.allowed
    have move := Pool.refundable_of_allowed effect.allowed
    exact ⟨_, effect.accountAfter, {
      continues := { still.continues with
        terms := ⟨rfl, rfl, rfl, rfl, rfl, rfl, rfl, rfl, rfl⟩
        leads := PoolStatus.leads_of_move move
        total := fun spent => absurd spent (by simp [early])
        returned := by
          intro _
          have subtracted := effect.subtracted
          simp only
          omega }
      move }⟩
  | marked _ live effect =>
    obtain rfl := found effect.stored
    have move : PoolStatus.Refundable = live.status ∨ live.status.Edge .Refundable := by
      rcases effect.status with status | status <;> rw [status]
      · exact .inr .abandon
      · exact .inr .expire
    exact ⟨_, effect.accountAfter, {
      continues := { still.continues with
        terms := ⟨rfl, rfl, rfl, rfl, rfl, rfl, rfl, rfl, rfl⟩
        leads := PoolStatus.leads_of_move move }
      move }⟩
  | closed _ _ effect =>
    simp [closes, effect.instruction, effect.target] at kept
  | endowed _ _ effect => exact ⟨account, effect.account.trans stored, still⟩

/-- A step that performs the pool's buy spends its escrow. -/
theorem Effect.spent_of_buys (effect : Effect env pool before action after)
    (buying : buys pool ⟨before, action, after⟩ = true) :
    ∃ accounts minTokensOut account credited fill,
      Spent env pool before action after accounts minTokensOut account credited fill := by
  -- The instruction is a buy on this pool, and the pool was launching.
  unfold buys at buying
  split at buying
  · rename_i accounts minTokensOut instruction
    simp only [Bool.and_eq_true, decide_eq_true_eq, Option.any_eq_true] at buying
    obtain ⟨target, live, stored, launching⟩ := buying
    rcases effect.bought_of_call instruction target with ⟨_, _, _, spent⟩ | ⟨was, repeated⟩
    · exact ⟨_, _, _, _, _, spent⟩
    · -- A repetition would have found it bought.
      have same := repeated.stored
      rw [stored, Option.some.injEq] at same
      have status := repeated.status
      rw [← same, launching] at status
      cases status
  · cases buying

/-- A step that returns a pool's money refunds from it, or marks it refundable. -/
theorem Effect.refunded_or_marked (effect : Effect env pool before action after)
    (returns : action.instruction.returns pool = true) :
    (∃ accounts account record totalContributed totalRefunded,
      Refunded pool before action after accounts account record totalContributed
        totalRefunded) ∨
    ∃ accounts account, Marked pool before action after accounts account := by
  cases effect
  case untouched other _ =>
    -- Both instructions name the pool they return from.
    generalize action.instruction = instruction at other returns
    cases instruction <;> simp_all [Instruction.concerns, Instruction.returns]
  case refunded effect => exact .inl ⟨_, _, _, _, _, effect⟩
  case marked effect => exact .inr ⟨_, _, effect⟩
  -- Every other effect is that of an instruction that returns nothing.
  all_goals
    rename_i effect
    rw [effect.instruction] at returns
    cases returns

/-- A repeated buy on a pool that has bought leaves the state as it is. -/
theorem Effect.same_of_bought (effect : Effect env pool before action after)
    (stored : before.pools pool = some account) (bought : account.status = .Bought)
    (accounts : CompleteBuyAccounts) (minTokensOut : UInt64)
    (again : action.instruction = .completeBuy accounts minTokensOut)
    (target : accounts.pool = pool) : after = before := by
  -- A call on the pool is a buy or its repetition, and a pool that has bought buys no more.
  rcases effect.bought_of_call again target with ⟨was, _, _, spent⟩ | ⟨was, repeated⟩
  · have same := spent.stored
    rw [stored, Option.some.injEq] at same
    have status := spent.status
    rw [← same, bought] at status
    cases status
  · exact repeated.same

/-- A pool found bought or finalized was so before the step, or bought in it. -/
theorem Effect.bought_before (effect : Effect env pool before action after)
    (stored : after.pools pool = some account)
    (spent : account.status = .Bought ∨ account.status = .Finalized) :
    (∃ was, before.pools pool = some was ∧ (was.status = .Bought ∨ was.status = .Finalized)) ∨
      buys pool ⟨before, action, after⟩ = true := by
  -- Besides the buy, only finalizations and claims leave a pool in one of the two statuses.
  cases effect with
  | untouched _ frame => exact .inl ⟨account, frame.account ▸ stored, spent⟩
  | created _ _ _ effect =>
    rw [effect.account, Option.some.injEq] at stored
    subst stored
    simp [CreatePoolArgs.opened] at spent
  | contributed _ _ _ _ _ _ effect =>
    rw [effect.accountAfter, Option.some.injEq] at stored
    subst stored
    simp [effect.status] at spent
  | launched _ _ _ effect =>
    rw [effect.accountAfter, Option.some.injEq] at stored
    subst stored
    simp at spent
  | spent _ _ _ _ _ effect =>
    right
    simp [buys, effect.instruction, effect.target, effect.stored, effect.status]
  | repeated _ _ _ effect => exact .inl ⟨account, effect.same ▸ stored, spent⟩
  | settled _ was _ _ _ _ _ effect => exact .inl ⟨was, effect.stored, .inl effect.status⟩
  | claimed _ was _ _ _ _ _ effect => exact .inl ⟨was, effect.stored, .inr effect.status⟩
  | refunded _ _ _ _ _ effect =>
    rw [effect.accountAfter, Option.some.injEq] at stored
    subst stored
    simp at spent
  | marked _ _ effect =>
    rw [effect.accountAfter, Option.some.injEq] at stored
    subst stored
    simp at spent
  | closed _ _ effect =>
    rw [effect.accountAfter] at stored
    cases stored
  | endowed _ _ effect => exact .inl ⟨account, effect.account ▸ stored, spent⟩

/-- A live pool is not opened again. -/
theorem Effect.opens_false (effect : Effect env pool before action after)
    (stored : before.pools pool = some account) : opens pool ⟨before, action, after⟩ = false := by
  by_contra opening
  rw [Bool.not_eq_false] at opening
  -- No status of the pool allows its creation.
  have allowed := effect.allowed stored
  unfold opens at opening
  split at opening
  · rename_i accounts args instruction
    have instruction : action.instruction = .createPool accounts args := instruction
    simp only [decide_eq_true_eq] at opening
    simp [instruction, Instruction.allowedIn, opening] at allowed
  · cases opening

end Steps

end Batchit
