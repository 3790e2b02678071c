import Batchit.Protocol.Lifecycle
import Batchit.Properties.Solvency

/-! One exit, one buy, and results written once: what holds along one life of a pool. -/

namespace Batchit

/-- A stretch of one life of a pool: reached, live, and continued without being closed. -/
structure Life (env : Env) (start : World) (pool : Pubkey) (history : List Transition)
    (middle : World) (account : Pool) (later : List Transition) (final : World) : Prop where
  genesis : Genesis start
  run : Run env start history middle
  stored : middle.pools pool = some account
  continued : Run env middle later final
  kept : ∀ transition ∈ later, closes pool transition = false

/-- One transition of a life, between two accounts of it. -/
structure Entry (env : Env) (start : World) (pool : Pubkey) (history : List Transition)
    (account : Pool) (older : List Transition) (transition : Transition) (was is : Pool) :
    Prop where
  reached : Run env start (older ++ history) transition.pre
  stored : transition.pre.pools pool = some was
  storedAfter : transition.post.pools pool = some is
  continues : account.Continues was
  advances : was.Advances is
  effect : Effect env pool transition.pre transition.action transition.post

section Life

variable {env : Env} {start : World} {pool : Pubkey} {history later : List Transition}
variable {middle final : World} {account : Pool}

/-- A step inside a life advances the pool. -/
theorem life_step {world after : World} {action : Action} {was : Pool} (genesis : Genesis start)
    (reached : Run env start history world) (stored : world.pools pool = some was)
    (taken : step env world action = .ok after)
    (kept : closes pool ⟨world, action, after⟩ = false) :
    Effect env pool world action after ∧
      ∃ is, after.pools pool = some is ∧ was.Advances is := by
  -- The step is one of the effects, and its pool satisfies the invariant.
  obtain ⟨creator, seed, rfl⟩ := run_poolsAtHome genesis reached stored
  have effect : Effect env (.pool creator seed) world action after :=
    step_effect (run_recordsAtHome genesis reached) taken
  have sound := (run_poolInvariant genesis reached creator seed).account was stored
  exact ⟨effect, effect.advances stored sound kept⟩

/-- At the end of a stretch of life the pool is still there, as a later account of its own. -/
theorem Life.continues (life : Life env start pool history middle account later final) :
    ∃ last, final.pools pool = some last ∧ account.Continues last := by
  obtain ⟨genesis, run, stored, continued, kept⟩ := life
  -- Along the stretch, newest step last: each one continues what the earlier ones left.
  induction continued with
  | nil => exact ⟨account, stored, .refl account⟩
  | cons before taken ih =>
    obtain ⟨was, storedWas, sofar⟩ := ih fun transition member =>
      kept transition (List.mem_cons_of_mem _ member)
    obtain ⟨-, is, storedIs, advances⟩ := life_step genesis (run.append before) storedWas taken
      (kept _ List.mem_cons_self)
    exact ⟨is, storedIs, sofar.trans advances.continues⟩

/-- The earlier part of a life up to one of its transitions. -/
theorem Life.upTo {newer older : List Transition} {transition : Transition}
    (life : Life env start pool history middle account (newer ++ transition :: older) final) :
    Life env start pool history middle account older transition.pre where
  -- The life is cut off before the step.
  genesis := life.genesis
  run := life.run
  stored := life.stored
  continued := life.continued.split.1
  kept := fun earlier member => life.kept earlier
    (List.mem_append_right _ (List.mem_cons_of_mem _ member))

/-- Every transition of a life is one of its entries. -/
theorem Life.entry {newer older : List Transition} {transition : Transition}
    (life : Life env start pool history middle account (newer ++ transition :: older) final) :
    ∃ was is, Entry env start pool history account older transition was is := by
  -- The part before the transition ends in the account it starts from.
  obtain ⟨was, stored, continues⟩ := life.upTo.continues
  obtain ⟨before, taken, -⟩ := life.continued.split
  have reached := life.run.append before
  obtain ⟨effect, is, storedAfter, advances⟩ := life_step life.genesis reached stored taken
    (life.kept transition (List.mem_append_right _ List.mem_cons_self))
  exact ⟨was, is, reached, stored, storedAfter, continues, advances, effect⟩

/-- The rest of a life after one of its transitions. -/
theorem Life.after {newer older : List Transition} {transition : Transition} {was is : Pool}
    (life : Life env start pool history middle account (newer ++ transition :: older) final)
    (entry : Entry env start pool history account older transition was is) :
    Life env start pool (transition :: older ++ history) transition.post is newer final where
  -- The life goes on from where the step left the pool.
  genesis := life.genesis
  run := .cons entry.reached life.continued.split.2.1
  stored := entry.storedAfter
  continued := life.continued.split.2.2
  kept := fun next member => life.kept next (List.mem_append_left _ member)

/-- After a buy, or after finalization, nothing that would undo the buy succeeds. -/
theorem Life.keepsBuy (life : Life env start pool history middle account later final)
    (spent : account.status = .Bought ∨ account.status = .Finalized) :
    ∀ next ∈ later, next.action.instruction.undoesBuy pool = false := by
  intro next member
  obtain ⟨newer, older, rfl⟩ := List.append_of_mem member
  obtain ⟨was, is, entry⟩ := life.entry
  -- Each step is allowed in the status it is taken in, which is bought or finalized.
  exact Instruction.keepsBuy (entry.effect.allowed entry.stored)
    (entry.continues.leads.spent spent)

/-- Once a pool is refundable, nothing that proceeds with its launch succeeds. -/
theorem Life.keepsReturn (life : Life env start pool history middle account later final)
    (returned : account.status = .Refundable) :
    ∀ next ∈ later, next.action.instruction.proceeds pool = false := by
  intro next member
  obtain ⟨newer, older, rfl⟩ := List.append_of_mem member
  obtain ⟨was, is, entry⟩ := life.entry
  -- Each step is allowed in the status it is taken in, which is refundable.
  exact Instruction.keepsReturn (entry.effect.allowed entry.stored)
    (entry.continues.leads.refundable returned)

/-- A refund, or marking a pool refundable, leaves it refundable. -/
theorem Effect.refundable_of_returns {before after : World} {action : Action} {is : Pool}
    (effect : Effect env pool before action after)
    (returns : action.instruction.returns pool = true) (stored : after.pools pool = some is) :
    is.status = .Refundable := by
  -- Both calls write the status, whatever it was.
  rcases effect.refunded_or_marked returns with ⟨_, _, _, _, _, refunded⟩ | ⟨_, _, marked⟩
  · rw [refunded.accountAfter, Option.some.injEq] at stored
    rw [← stored]
  · rw [marked.accountAfter, Option.some.injEq] at stored
    rw [← stored]

/-- A stretch of life performs at most one buy, and only if it ends bought or finalized. -/
theorem Life.buys_at_most (life : Life env start pool history middle account later final) :
    ∃ last, final.pools pool = some last ∧ (later.filter (buys pool)).length
      ≤ (if last.status = .Bought ∨ last.status = .Finalized then 1 else 0) := by
  obtain ⟨genesis, run, stored, continued, kept⟩ := life
  -- The bound is zero as long as the pool has not bought, which carries the induction.
  induction continued with
  | nil => exact ⟨account, stored, Nat.zero_le _⟩
  | @cons older before after action earlier taken ih =>
    obtain ⟨was, storedWas, atMost⟩ := ih fun transition member =>
      kept transition (List.mem_cons_of_mem _ member)
    obtain ⟨effect, is, storedIs, advances⟩ := life_step genesis (run.append earlier) storedWas
      taken (kept _ List.mem_cons_self)
    refine ⟨is, storedIs, ?_⟩
    by_cases buying : buys pool ⟨before, action, after⟩ = true
    · -- A buy starts from a launching pool, which has not bought before.
      obtain ⟨_, _, _, _, _, spent⟩ := effect.spent_of_buys buying
      have same := spent.stored
      rw [storedWas, Option.some.injEq] at same
      rw [same, spent.status] at atMost
      have bought := spent.accountAfter
      rw [storedIs, Option.some.injEq] at bought
      rw [bought, List.filter_cons_of_pos buying, List.length_cons]
      simp only [Pool.bought, true_or, if_true]
      simp only [reduceCtorEq, or_self, if_false] at atMost
      omega
    · -- Any other step adds no buy, and leaves a pool that has bought so.
      rw [List.filter_cons_of_neg buying]
      have carried := advances.continues.leads.spent
      split at atMost
      · rename_i already
        rw [if_pos (carried already)]
        exact atMost
      · omega

/-- A buy takes every contribution of this life out of the pool account. -/
theorem Life.spends {newer older : List Transition} {transition : Transition}
    (life : Life env start pool history middle account (newer ++ transition :: older) final)
    (buying : buys pool transition = true) :
    ∃ was is, transition.pre.pools pool = some was ∧ transition.post.pools pool = some is ∧
      is.status = .Bought ∧
      was.totalContributed.toNat = accepted pool (newer ++ transition :: older ++ history) ∧
      (transition.post.lamports pool).toNat + was.totalContributed.toNat
        = (transition.pre.lamports pool).toNat := by
  obtain ⟨was, is, entry⟩ := life.entry
  obtain ⟨_, _, live, _, _, spent⟩ := entry.effect.spent_of_buys buying
  have same := spent.stored
  have bought := spent.accountAfter
  rw [entry.stored, Option.some.injEq] at same
  rw [entry.storedAfter, Option.some.injEq] at bought
  subst same
  have status : is.status = .Bought := by rw [bought]; rfl
  -- Nothing accepted or refunded since, the final books still show what was spent.
  obtain ⟨last, stored, continues⟩ := (life.after entry).continues
  have reached := life.run.append life.continued
  obtain ⟨creator, seed, rfl⟩ := run_poolsAtHome life.genesis reached stored
  have ledger := run_ledger life.genesis reached creator seed last stored
  have sound := (run_poolInvariant life.genesis reached creator seed).account last stored
  have settled := continues.leads.spent (.inl status)
  obtain ⟨-, -, kept⟩ := sound.phase.raised (.inr settled)
  have total := continues.total (.inl status)
  refine ⟨was, is, entry.stored, entry.storedAfter, status, ?_, spent.lamports⟩
  rw [ledger.accepted, kept, total, bought]
  rfl

end Life

/-- Whether an instruction asks for a pool's buy. -/
def Instruction.isBuy (pool : Pubkey) : Instruction → Bool
  | .completeBuy accounts _ => accounts.pool = pool
  | _ => false

/-- What holds of every stretch of one life of a pool, from one account of it to another. -/
structure LifecycleSafe (pool : Pubkey) (history later : List Transition) (account last : Pool) :
    Prop where
  /-- The status moves only along the edges, one at a time. -/
  moves : ∀ transition ∈ later, ∃ was is, transition.pre.pools pool = some was ∧
    transition.post.pools pool = some is ∧ (is.status = was.status ∨ was.status.Edge is.status)
  /-- At most one step performs the buy. -/
  once : (later.filter (buys pool)).length ≤ 1
  /-- It takes exactly what contribute accepted out of the pool account. -/
  spends : ∀ transition ∈ later, buys pool transition = true →
    ∃ was, transition.pre.pools pool = some was ∧
      was.totalContributed.toNat = accepted pool (later ++ history) ∧
      (transition.post.lamports pool).toNat + was.totalContributed.toNat
        = (transition.pre.lamports pool).toNat
  /-- Any later buy that succeeds changes nothing. -/
  repeats : ∀ newer transition older, later = newer ++ transition :: older →
    buys pool transition = true → ∀ again ∈ newer,
    again.action.instruction.isBuy pool = true → again.post = again.pre
  /-- Once bought, no contribution, launch, refund or marking succeeds. -/
  afterBuy : ∀ newer transition older is, later = newer ++ transition :: older →
    transition.post.pools pool = some is → is.status = .Bought →
    ∀ next ∈ newer, next.action.instruction.undoesBuy pool = false
  /-- Once refunded or marked, no contribution, launch, buy, finalization or claim succeeds. -/
  afterReturn : ∀ newer transition older, later = newer ++ transition :: older →
    transition.action.instruction.returns pool = true →
    ∀ next ∈ newer, next.action.instruction.proceeds pool = false
  /-- Contributions are never both spent and returned. -/
  exclusive : ∀ buy ∈ later, ∀ other ∈ later, buys pool buy = true →
    other.action.instruction.returns pool = false
  /-- The terms never change. -/
  terms : account.SameTerms last
  /-- The mint, the tokens bought and the split are written once. -/
  mint : account.mint ≠ .default → last.mint = account.mint
  tokensBought : account.tokensBought ≠ 0 → last.tokensBought = account.tokensBought
  split : account.distributable ≠ 0 ∨ account.burned ≠ 0 ∨ account.status = .Finalized →
    last.distributable = account.distributable ∧ last.burned = account.burned

/-- Only a finalized pool has split anything. -/
theorem Pool.Phase.finalized_of_split {account : Pool} (phase : account.Phase)
    (split : account.distributable ≠ 0 ∨ account.burned ≠ 0) : account.status = .Finalized := by
  -- In every other phase both counters are zero.
  cases phase with
  | raising _ _ _ unspent =>
    exact absurd split (by simp [unspent.distributable, unspent.burned])
  | launching _ _ _ _ unspent =>
    exact absurd split (by simp [unspent.distributable, unspent.burned])
  | bought _ _ _ _ _ unsplit => exact absurd split (by simp [unsplit.1, unsplit.2])
  | finalized status => exact status
  | refundable _ unspent =>
    exact absurd split (by simp [unspent.distributable, unspent.burned])

/-- A returning instruction is not the buy. -/
theorem returns_of_buys {pool : Pubkey} {transition : Transition}
    (buying : buys pool transition = true) :
    transition.action.instruction.returns pool = false ∧
      transition.action.instruction.proceeds pool = true := by
  -- The instruction is a buy on this pool.
  unfold buys at buying
  split at buying
  · rename_i instruction
    simp only [Bool.and_eq_true, decide_eq_true_eq] at buying
    simp [instruction, Instruction.returns, Instruction.proceeds, buying.1]
  · cases buying

section Life

variable {env : Env} {start : World} {pool : Pubkey} {history later : List Transition}
variable {middle final : World} {account : Pool}

/-- Once a life has bought, nothing that would undo the buy succeeds. -/
theorem Life.keepsBuy_after (life : Life env start pool history middle account later final)
    {newer older : List Transition} {transition : Transition} {is : Pool}
    (cut : later = newer ++ transition :: older) (found : transition.post.pools pool = some is)
    (bought : is.status = .Bought) :
    ∀ next ∈ newer, next.action.instruction.undoesBuy pool = false := by
  subst cut
  obtain ⟨_, now, entry⟩ := life.entry
  have same := entry.storedAfter
  rw [found, Option.some.injEq] at same
  subst same
  -- What follows the transition is a life that starts out bought.
  exact (life.after entry).keepsBuy (.inl bought)

/-- Once a life has returned anything, nothing that proceeds with the launch succeeds. -/
theorem Life.keepsReturn_after (life : Life env start pool history middle account later final)
    {newer older : List Transition} {transition : Transition}
    (cut : later = newer ++ transition :: older)
    (returns : transition.action.instruction.returns pool = true) :
    ∀ next ∈ newer, next.action.instruction.proceeds pool = false := by
  subst cut
  obtain ⟨_, now, entry⟩ := life.entry
  -- What follows the transition is a life that starts out refundable.
  exact (life.after entry).keepsReturn
    (entry.effect.refundable_of_returns returns entry.storedAfter)

/-- A buy asked for after the buy changes nothing. -/
theorem Life.repeats (life : Life env start pool history middle account later final)
    {newer older : List Transition} {transition again : Transition}
    (cut : later = newer ++ transition :: older) (buying : buys pool transition = true)
    (member : again ∈ newer) (isBuy : again.action.instruction.isBuy pool = true) :
    again.post = again.pre := by
  subst cut
  obtain ⟨was, is, -, storedIs, bought, -, -⟩ := life.spends buying
  obtain ⟨_, now, entry⟩ := life.entry
  have same := entry.storedAfter
  rw [storedIs, Option.some.injEq] at same
  subst same
  obtain ⟨newest, rest, rfl⟩ := List.append_of_mem member
  obtain ⟨held, _, repeated⟩ := (life.after entry).entry
  unfold Instruction.isBuy at isBuy
  split at isBuy
  · rename_i accounts minTokensOut instruction
    have allowed := repeated.effect.allowed repeated.stored
    rw [instruction] at allowed
    simp only [Instruction.allowedIn, decide_eq_true_eq] at allowed isBuy
    -- The pool stays bought or is finalized, and finalized it would refuse the call.
    have still : held.status = .Bought := by
      rcases repeated.continues.leads.spent (.inl bought) with status | status
      · exact status
      · rw [status] at allowed
        simp [isBuy] at allowed
    exact repeated.effect.same_of_bought repeated.stored still accounts minTokensOut instruction
      isBuy
  · cases isBuy

/-- A life that buys returns nothing, before the buy or after it. -/
theorem Life.exclusive (life : Life env start pool history middle account later final)
    {buy other : Transition} (buyMember : buy ∈ later) (otherMember : other ∈ later)
    (buying : buys pool buy = true) : other.action.instruction.returns pool = false := by
  obtain ⟨returnsNot, proceeds⟩ := returns_of_buys buying
  by_contra returns
  rw [Bool.not_eq_false] at returns
  obtain ⟨newer, older, cut⟩ := List.append_of_mem buyMember
  -- Whichever of the two came first rules the other out.
  rw [cut] at otherMember
  rcases List.mem_append.mp otherMember with after | before
  · have spending := life
    rw [cut] at spending
    obtain ⟨_, is, -, storedIs, bought, -, -⟩ := spending.spends buying
    have undoes := life.keepsBuy_after cut storedIs bought other after
    rw [Instruction.undoesBuy_of_returns returns] at undoes
    cases undoes
  · rcases List.mem_cons.mp before with rfl | before
    · rw [returnsNot] at returns
      cases returns
    · obtain ⟨between, oldest, rest⟩ := List.append_of_mem before
      have cut' : later = (newer ++ buy :: between) ++ other :: oldest := by
        rw [cut, rest]
        simp
      have refused := life.keepsReturn_after cut' returns buy (by simp)
      rw [proceeds] at refused
      cases refused

/-- Along every stretch of one life of a pool: one exit, one buy, and results written once. -/
theorem lifecycle_safe (life : Life env start pool history middle account later final) :
    ∃ last, final.pools pool = some last ∧ LifecycleSafe pool history later account last := by
  obtain ⟨last, stored, continues⟩ := life.continues
  refine ⟨last, stored, ?_⟩
  constructor
  · intro transition member
    obtain ⟨newer, older, rfl⟩ := List.append_of_mem member
    obtain ⟨was, is, entry⟩ := life.entry
    exact ⟨was, is, entry.stored, entry.storedAfter, entry.advances.move⟩
  · obtain ⟨_, _, atMost⟩ := life.buys_at_most
    split at atMost <;> omega
  · intro transition member buying
    obtain ⟨newer, older, rfl⟩ := List.append_of_mem member
    obtain ⟨was, is, storedWas, -, -, total, left⟩ := life.spends buying
    exact ⟨was, storedWas, total, left⟩
  · intro newer transition older cut buying again member isBuy
    exact life.repeats cut buying member isBuy
  · intro newer transition older is cut found bought
    exact life.keepsBuy_after cut found bought
  · intro newer transition older cut returns
    exact life.keepsReturn_after cut returns
  · intro buy buyMember other otherMember buying
    exact life.exclusive buyMember otherMember buying
  · exact continues.terms
  · exact continues.mint
  · exact continues.tokensBought
  · intro split
    obtain ⟨creator, seed, rfl⟩ := run_poolsAtHome life.genesis life.run life.stored
    have invariant := run_poolInvariant life.genesis life.run creator seed
    have phase := (invariant.account account life.stored).phase
    -- A split that is not zero is recorded only by a finalization.
    apply continues.split
    rcases split with distributable | burned | settled
    · exact phase.finalized_of_split (.inl distributable)
    · exact phase.finalized_of_split (.inr burned)
    · exact settled

end Life

/-! ### The sample raise taken through its buy -/

namespace Sample

/-- The coin of the sample pool. -/
def mint : Pubkey := .key 10

/-- Its curve. -/
def curve : Pubkey := bondingCurvePda mint

/-- The token account of its curve. -/
def curveAta : Pubkey := .key 20

/-- The token account of the pool's buyer. -/
def vault : Pubkey := .key 21

/-- A curve at the reserves a coin starts with. -/
def curveData : List UInt8 :=
  writeReserves (List.replicate 49 0) {
    virtualTokenReserves := 1073000000000000
    virtualQuoteReserves := 30000000000
    realTokenReserves := 793100000000000
    realQuoteReserves := 0 }

/-- The coin is launched on pump, and the pool's buyer gets a token account. -/
def market : List Action :=
  [⟨100, .beginLaunch ⟨creator, pool⟩ mint⟩,
    ⟨101, .token (.initializeAccount curveAta mint curve)⟩,
    ⟨101, .token (.mintTo curveAta 1000000000000000)⟩,
    ⟨101, .pumpCreate mint curveData⟩,
    ⟨101, .token (.initializeAccount vault mint (.buyer pool))⟩]

/-- The accounts of a buy, canonical but for the token account, which a caller is free to choose. -/
def buyAccounts (associatedUser : Pubkey) : CompleteBuyAccounts where
  caller := alice
  pool := pool
  buyer := .buyer pool
  mint := mint
  global := globalPda
  feeRecipient := .key 30
  bondingCurve := curve
  associatedBondingCurve := curveAta
  associatedUser
  creatorVault := creatorVaultPda creator
  eventAuthority := eventAuthorityPda
  pumpProgram := PUMP_PROGRAM_ID
  globalVolumeAccumulator := globalVolumeAccumulatorPda
  userVolumeAccumulator := userVolumeAccumulatorPda (.buyer pool)
  feeConfig := feeConfigPda
  feeProgram := PUMP_FEE_PROGRAM_ID
  bondingCurveV2 := bondingCurveV2Pda mint
  buybackFeeRecipient := .key 31

/-- The buy, for at least one token. -/
def buy (associatedUser : Pubkey) : Action :=
  ⟨110, .completeBuy (buyAccounts associatedUser) 1⟩

/-- The sample launch up to its buy. -/
def purchased : List Action := raise ++ market ++ [buy vault]

/-- Alice settles the sample pool at the prices of an account. -/
def settle (bondingCurve : Pubkey) : Action :=
  ⟨120, .finalize ⟨alice, pool, .buyer pool, mint, vault, bondingCurve⟩⟩

/-- Everything after the sample raise up to its finalization. -/
def launch : List Action := raise.tail ++ market ++ [buy vault, buy vault, settle curve]

/-- The sample pool's life, from its creation to its finalization. -/
theorem life : ∃ account, Life env start pool (past [opening]) (reach [opening]) account
    (Machine.record (step env) (reach [opening]) [] launch)
    (Machine.reached (step env) (reach [opening]) launch) := by
  have live : ((reach [opening]).pools pool).isSome = true := by decide +kernel
  have kept : (Machine.record (step env) (reach [opening]) [] launch).all
      (fun transition => !closes pool transition) = true := by decide +kernel
  obtain ⟨account, stored⟩ := Option.isSome_iff_exists.mp live
  refine ⟨account, genesis, run (by decide +kernel), stored, Machine.run_reached (by decide +kernel),
    ?_⟩
  -- No step of it is a closing, as computed.
  intro transition member
  simpa using List.all_eq_true.mp kept transition member

end Sample

/-- The sample pool's life is safe, and its buy is in it. -/
theorem lifecycle_safe_sample : ∃ account last,
    LifecycleSafe Sample.pool (Sample.past [Sample.opening])
      (Machine.record (step Sample.env) (Sample.reach [Sample.opening]) [] Sample.launch) account
      last := by
  obtain ⟨account, life⟩ := Sample.life
  obtain ⟨last, -, safe⟩ := lifecycle_safe life
  exact ⟨account, last, safe⟩

end Batchit
