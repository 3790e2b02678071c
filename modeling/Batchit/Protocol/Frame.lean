import Batchit.Protocol.History

/-! What one pool's accounts are, and which writes leave them alone. -/

namespace Batchit

namespace World

/-- The sum of a measure over the contribution accounts that name a pool. -/
def stakeTotal (world : World) (pool : Pubkey) (measure : Contribution → Nat) : Nat :=
  Store.total (fun contribution => if contribution.pool = pool then measure contribution else 0)
    world.contributions

/-- The lamports recorded for the contributors of a pool. -/
def owed (world : World) (pool : Pubkey) : Nat :=
  world.stakeTotal pool fun contribution => contribution.amount.toNat

/-- The contribution accounts of a pool not yet paid back. -/
def active (world : World) (pool : Pubkey) : Nat :=
  world.stakeTotal pool fun contribution => if contribution.refunded then 0 else 1

/-- A contribution account is stored at the address its own pool and contributor derive. -/
def RecordsAtHome (world : World) : Prop :=
  ∀ address contribution, world.contributions.lookup address = some contribution →
    address = .contribution contribution.pool contribution.contributor

/-- Records at home name the contributor and the pool they are stored for. -/
theorem RecordsAtHome.stakes {world : World} (home : world.RecordsAtHome) :
    world.StakesAtHome := by
  intro pool contributor contribution stored
  -- The address of a record names its pool and its contributor.
  have address := home _ _ stored
  simp only [Pubkey.contribution.injEq] at address
  exact ⟨address.1.symm, address.2.symm⟩

/-- Whether records name their own addresses depends only on the contribution accounts. -/
theorem StakesAtHome.of_eq {world other : World} (home : world.StakesAtHome)
    (same : other.contributions = world.contributions) : other.StakesAtHome := by
  intro pool contributor contribution found
  rw [stake, same] at found
  exact home _ _ _ found

/-- Writing a contributor's record trades its old measure for its new one. -/
theorem stakeTotal_insert {world : World} (pool contributor : Pubkey) (new : Contribution)
    (measure : Contribution → Nat)
    (ofPool : ∀ old, world.stake pool contributor = some old → old.pool = pool)
    (newPool : new.pool = pool) :
    (world.setContribution (.contribution pool contributor) new).stakeTotal pool measure
        + (world.stake pool contributor).elim 0 measure
      = world.stakeTotal pool measure + measure new := by
  -- Both the old and the new record belong to the pool, so both are counted in full.
  have traded := Store.total_insert
    (fun contribution => if contribution.pool = pool then measure contribution else 0)
    (.contribution pool contributor) new world.contributions
  simp only [newPool, if_true] at traded
  unfold stakeTotal
  rw [setContribution_contributions]
  cases stored : world.stake pool contributor with
  | none =>
    have lookup : world.contributions.lookup (.contribution pool contributor) = none := stored
    simp only [lookup, Option.elim_none] at traded
    exact traded
  | some old =>
    have lookup : world.contributions.lookup (.contribution pool contributor) = some old := stored
    simp only [lookup, Option.elim_some, ofPool old stored, if_true] at traded
    exact traded

/-- Writing a record of one pool leaves every total of another alone. -/
theorem stakeTotal_insert_ne {world : World} {pool other contributor : Pubkey}
    {new : Contribution} (measure : Contribution → Nat) (differ : other ≠ pool)
    (ofPool : ∀ old, world.stake other contributor = some old → old.pool = other)
    (newPool : new.pool = other) :
    (world.setContribution (.contribution other contributor) new).stakeTotal pool measure
      = world.stakeTotal pool measure := by
  -- Neither the old nor the new record names the pool being totalled.
  unfold stakeTotal
  rw [setContribution_contributions]
  apply Store.total_insert_same
  simp only [newPool, if_neg differ]
  cases stored : world.stake other contributor with
  | none =>
    have lookup : world.contributions.lookup (.contribution other contributor) = none := stored
    rw [lookup, Option.elim_none]
  | some old =>
    have lookup : world.contributions.lookup (.contribution other contributor) = some old := stored
    rw [lookup, Option.elim_some, ofPool old stored, if_neg differ]

/-- A contributor's own record is read back after it is written. -/
@[simp] theorem stake_setContribution (world : World) (pool contributor : Pubkey)
    (new : Contribution) :
    (world.setContribution (.contribution pool contributor) new).stake pool contributor
      = some new := by
  simp [stake]

/-- Writing one record leaves every other contributor's and every other pool's alone. -/
theorem stake_setContribution_ne {world : World} {pool other contributor another : Pubkey}
    {new : Contribution} (differ : pool ≠ other ∨ contributor ≠ another) :
    (world.setContribution (.contribution other another) new).stake pool contributor
      = world.stake pool contributor := by
  -- The two records are stored under different seeds.
  unfold stake
  rw [setContribution_contributions, AList.lookup_insert_ne]
  intro same
  simp only [Pubkey.contribution.injEq] at same
  tauto

end World

/-- One pool's account, records and lamports read the same in two states. -/
structure Untouched (pool : Pubkey) (before after : World) : Prop where
  account : after.pools pool = before.pools pool
  stakes : ∀ contributor, after.stake pool contributor = before.stake pool contributor
  totals : ∀ measure, after.stakeTotal pool measure = before.stakeTotal pool measure
  lamports : after.lamports pool = before.lamports pool

namespace Untouched

variable {pool : Pubkey} {before middle after : World}

/-- Nothing having changed, nothing of the pool has. -/
theorem refl (world : World) : Untouched pool world world := ⟨rfl, fun _ => rfl, fun _ => rfl, rfl⟩

/-- Two stretches that leave a pool alone make one. -/
theorem trans (first : Untouched pool before middle) (second : Untouched pool middle after) :
    Untouched pool before after where
  -- Each part goes through the state in the middle.
  account := second.account.trans first.account
  stakes contributor := (second.stakes contributor).trans (first.stakes contributor)
  totals measure := (second.totals measure).trans (first.totals measure)
  lamports := second.lamports.trans first.lamports

/-- Another account's lamports are none of the pool's. -/
theorem setLamports {address : Pubkey} (differ : pool ≠ address) (amount : UInt64) :
    Untouched pool before (before.setLamports address amount) where
  -- Only a balance is written, and not the pool's.
  account := rfl
  stakes _ := rfl
  totals _ := rfl
  lamports := by simp [differ]

/-- Another pool's account is none of the pool's. -/
theorem setPool {address : Pubkey} (differ : pool ≠ address) (account : Option Pool) :
    Untouched pool before (before.setPool address account) where
  -- Only a pool account is written, and another one.
  account := by simp [differ]
  stakes _ := rfl
  totals _ := rfl
  lamports := rfl

/-- Token accounts are none of the pool's lamports or records. -/
theorem setTokens (tokens : Tokens) : Untouched pool before (before.setTokens tokens) :=
  ⟨rfl, fun _ => rfl, fun _ => rfl, rfl⟩

/-- The bytes of other accounts are none of the pool's. -/
theorem setInfo (address : Pubkey) (info : AccountInfo) :
    Untouched pool before (before.setInfo address info) :=
  ⟨rfl, fun _ => rfl, fun _ => rfl, rfl⟩

/-- A record of another pool is none of the pool's. -/
theorem setContribution {other contributor : Pubkey} {new : Contribution} (differ : other ≠ pool)
    (ofPool : ∀ old, before.stake other contributor = some old → old.pool = other)
    (newPool : new.pool = other) :
    Untouched pool before (before.setContribution (.contribution other contributor) new) where
  account := rfl
  -- Its address is derived from the other pool, and so is what it counts towards.
  stakes _ := World.stake_setContribution_ne (.inl differ.symm)
  totals measure := World.stakeTotal_insert_ne measure differ ofPool newPool
  lamports := rfl

/-- Lamports moving between two other accounts are none of the pool's. -/
theorem moved {source target : Pubkey} {amount : UInt64}
    (moved : World.Moved source target amount before after) (notSource : pool ≠ source)
    (notTarget : pool ≠ target) : Untouched pool before after where
  -- Lamports are all that moves.
  account := by rw [moved.pools]
  stakes _ := by rw [World.stake, World.stake, moved.contributions]
  totals _ := by rw [World.stakeTotal, World.stakeTotal, moved.contributions]
  lamports := moved.others pool notSource notTarget

/-- Lamports paid out by another account, to others still, are none of the pool's. -/
theorem paidOut {payer : Pubkey} {targets : List Pubkey} {amount : Nat}
    (paid : World.PaidOut payer targets amount before after) (notPayer : pool ≠ payer)
    (unpaid : pool ∉ targets) : Untouched pool before after where
  -- Lamports are all that moves.
  account := by rw [paid.pools]
  stakes _ := by rw [World.stake, World.stake, paid.contributions]
  totals _ := by rw [World.stakeTotal, World.stakeTotal, paid.contributions]
  lamports := paid.others pool notPayer unpaid

end Untouched

end Batchit
