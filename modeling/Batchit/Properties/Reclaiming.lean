import Batchit.Properties.Claims
import Batchit.Properties.Closing

/-! Which settled pools give their rent back: those that refunded, and none that bought. -/

namespace Batchit

/-- Everything a pool owes its contributors has been paid: every share, or every refund. -/
def Settlement (pool : Pubkey) (history : List Transition) (world : World) (account : Pool) :
    Prop :=
  (account.status = .Finalized ∧ ∀ contributor ∈ depositors pool history,
      0 < shareOf pool contributor history account → 0 < claimCount pool contributor history) ∨
    (account.status = .Refundable ∧ ∀ contributor ∈ depositors pool history,
      world.wasRefunded pool contributor)

/-- The call by which a pool's creator closes it. -/
def closeCall (pool creator : Pubkey) (now : Int64) : Action := ⟨now, .closePool ⟨creator, pool⟩⟩

/-- Its creator can close a pool, and receives all the account holds, its rent at least. -/
def CanClose (env : Env) (pool : Pubkey) (world : World) (account : Pool) (now : Int64) : Prop :=
  ∃ after, step env world (closeCall pool account.creator now) = .ok after ∧
    after.pools pool = none ∧
    (after.lamports account.creator).toNat
      = (world.lamports account.creator).toNat + (world.lamports pool).toNat ∧
    (env.minimumBalance Pool.LEN).toNat ≤ (world.lamports pool).toNat

section Reclaiming

variable {env : Env} {start world : World} {history : List Transition} {pool : Pubkey}
variable {account : Pool}

/-- A pool all of whose contributors were refunded is closed by its creator, who gets the rent. -/
theorem canClose_of_refunded (genesis : Genesis start) (run : Run env start history world)
    (stored : world.pools pool = some account) (returned : account.status = .Refundable)
    (all : ∀ contributor ∈ depositors pool history, world.wasRefunded pool contributor)
    (credit : (world.lamports account.creator).toNat + (world.lamports pool).toNat < 2 ^ 64)
    (now : Int64) : CanClose env pool world account now := by
  obtain ⟨empty, -, exempt⟩ := drained_of_refunded genesis run stored all
  obtain ⟨creator, seed, rfl⟩ := run_poolsAtHome genesis run stored
  have sound := (run_poolInvariant genesis run creator seed).account account stored
  have loaded := sound.loads stored
  have differ := (signer_ne_pool sound.signed loaded).symm
  -- The account's whole balance moves to the creator, and the account is freed.
  obtain ⟨paid, transferred⟩ : ∃ paid, world.systemTransfer (.pool creator seed) account.creator
      (world.lamports (.pool creator seed)) = .ok paid :=
    (World.moveLamports_succeeds differ).mpr ⟨Nat.le_refl _, credit⟩
  have moved := World.moveLamports_moved differ transferred
  refine ⟨_, closePool_ok.mpr ⟨account, paid, sound.signed, loaded, rfl, .inl returned, empty,
    transferred, rfl⟩, ?_, moved.reached, exempt⟩
  rw [World.setPool_pools, Function.update_self]

/-- A finalized pool is never closed, however much of it was claimed. -/
theorem not_canClose_of_finalized (genesis : Genesis start) (run : Run env start history world)
    (stored : world.pools pool = some account) (finalized : account.status = .Finalized)
    (now : Int64) : ¬ CanClose env pool world account now := by
  intro closing
  obtain ⟨after, taken, -⟩ := closing
  obtain ⟨live, paid, -, loaded, -, -, empty, -⟩ := closePool_ok.mp taken
  have same := (loadPool_ok.mp loaded).1
  rw [stored, Option.some.injEq] at same
  subst same
  -- What the pool spent on its buy is still counted as contributed.
  obtain ⟨creator, seed, rfl⟩ := run_poolsAtHome genesis run stored
  have positive := ((run_poolInvariant genesis run creator seed).account account
    stored).spent_positive (.inr finalized)
  rw [empty, UInt64.toNat_zero] at positive
  omega

/--
A settled pool gives its rent back exactly when it settled by refunds.

The runtime is assumed to accept the credit to the creator's wallet.
-/
theorem settled_canClose_iff (genesis : Genesis start) (run : Run env start history world)
    (stored : world.pools pool = some account)
    (settled : Settlement pool history world account)
    (credit : (world.lamports account.creator).toNat + (world.lamports pool).toNat < 2 ^ 64)
    (now : Int64) : CanClose env pool world account now ↔ account.status = .Refundable := by
  -- A finalized pool still counts its contributions, and a refunded one none.
  rcases settled with ⟨finalized, -⟩ | ⟨returned, all⟩
  · apply iff_of_false (not_canClose_of_finalized genesis run stored finalized now)
    rw [finalized]
    decide
  · exact iff_of_true (canClose_of_refunded genesis run stored returned all credit now) returned

end Reclaiming

namespace Sample

/-- Bob's token account. -/
def bobAta : Pubkey := .key 26

/-- Both contributors of the sample launch have claimed. -/
def emptied : List Action :=
  claimed ++ [⟨132, .token (.initializeAccount bobAta mint bob)⟩,
    claimCall pool bob vault bobAta 133]

end Sample

/-- The sample raise, given back in full, gives its rent back too. -/
theorem settled_canClose_iff_sample : ∃ account,
    (Sample.reach Sample.returned).pools Sample.pool = some account ∧
      CanClose Sample.env Sample.pool (Sample.reach Sample.returned) account 160 := by
  have live : ((Sample.reach Sample.returned).pools Sample.pool).any (fun account =>
      account.status = .Refundable ∧ account.creator = Sample.creator) = true := by decide +kernel
  have refunded : decide (∀ contributor ∈ depositors Sample.pool (Sample.past Sample.returned),
      ((Sample.reach Sample.returned).stake Sample.pool contributor).any (·.refunded) = true)
      = true := by decide +kernel
  obtain ⟨account, stored, facts⟩ := (Option.any_eq_true _ _).mp live
  simp only [decide_eq_true_eq] at facts
  obtain ⟨returned, creator⟩ := facts
  refine ⟨account, stored, (settled_canClose_iff Sample.genesis (Sample.run (by decide +kernel))
    stored (.inr ⟨returned, ?_⟩) (by rw [creator]; decide +kernel) 160).mpr returned⟩
  -- Each depositor's record was computed to be marked.
  intro contributor member
  exact (Option.any_eq_true _ _).mp (of_decide_eq_true refunded contributor member)

/-- The sample launch, all of it claimed, cannot be closed, and keeps its rent. -/
theorem claimed_pool_stays :
    Genesis Sample.start ∧
      Run Sample.env Sample.start (Sample.past Sample.emptied) (Sample.reach Sample.emptied) ∧
      ∃ account, (Sample.reach Sample.emptied).pools Sample.pool = some account ∧
        account.status = .Finalized ∧
        Settlement Sample.pool (Sample.past Sample.emptied) (Sample.reach Sample.emptied) account ∧
        step Sample.env (Sample.reach Sample.emptied) (closeCall Sample.pool Sample.creator 160)
          = .error (.batchit .PoolNotEmpty) ∧
        ¬ CanClose Sample.env Sample.pool (Sample.reach Sample.emptied) account 160 := by
  have live : ((Sample.reach Sample.emptied).pools Sample.pool).any (fun account =>
      account.status = .Finalized ∧ account.creator = Sample.creator) = true := by decide +kernel
  have claims : decide (∀ contributor ∈ depositors Sample.pool (Sample.past Sample.emptied),
      0 < claimCount Sample.pool contributor (Sample.past Sample.emptied)) = true := by
    decide +kernel
  obtain ⟨account, stored, facts⟩ := (Option.any_eq_true _ _).mp live
  simp only [decide_eq_true_eq] at facts
  obtain ⟨finalized, creator⟩ := facts
  have refused : refusal (step Sample.env (Sample.reach Sample.emptied)
      (closeCall Sample.pool Sample.creator 160)) = some (.batchit .PoolNotEmpty) := by
    decide +kernel
  have refused := refusal_eq_some.mp refused
  refine ⟨Sample.genesis, Sample.run (by decide +kernel), account, stored, finalized,
    .inl ⟨finalized, fun contributor member _ => of_decide_eq_true claims contributor member⟩,
    refused, ?_⟩
  intro closing
  -- The creator's call is the one computed to be refused.
  obtain ⟨after, taken, -⟩ := closing
  rw [creator, refused] at taken
  cases taken

end Batchit
