import Batchit.Documented
import Batchit.Properties.Lifecycle

/-! The launch path: the runtime's balance rule stops every buy that is asked for canonically. -/

namespace Batchit

/-- The runtime lets a call through only when the caller's total is seen unchanged. -/
def Env.RefusesUnbalanced (env : Env) : Prop :=
  ∀ start edited accounts handed, env.admitsCall start edited accounts handed = true →
    balancedCall start edited accounts handed = true

/--
The accounts a buy is meant to name.

Pump fixes or derives most of them.
The wallets, the coin's mint and the token accounts are none that this program derives.
-/
structure CompleteBuyAccounts.Canonical (accounts : CompleteBuyAccounts) (account : Pool) : Prop where
  mint : accounts.mint = account.mint
  /-- A coin's mint signs its own creation. -/
  mintSigns : account.mint.isProgramDerived = false
  global : accounts.global = globalPda
  feeRecipient : accounts.feeRecipient.isProgramDerived = false
  bondingCurve : accounts.bondingCurve = bondingCurvePda account.mint
  associatedBondingCurve : accounts.associatedBondingCurve.isProgramDerived = false
  associatedUser : accounts.associatedUser.isProgramDerived = false
  creatorVault : ∃ creator, accounts.creatorVault = creatorVaultPda creator
  eventAuthority : accounts.eventAuthority = eventAuthorityPda
  pumpProgram : accounts.pumpProgram = PUMP_PROGRAM_ID
  globalVolumeAccumulator : accounts.globalVolumeAccumulator = globalVolumeAccumulatorPda
  userVolumeAccumulator : accounts.userVolumeAccumulator = userVolumeAccumulatorPda accounts.buyer
  feeConfig : accounts.feeConfig = feeConfigPda
  feeProgram : accounts.feeProgram = PUMP_FEE_PROGRAM_ID
  bondingCurveV2 : accounts.bondingCurveV2 = bondingCurveV2Pda account.mint
  buybackFeeRecipient : accounts.buybackFeeRecipient.isProgramDerived = false

/-- Of the accounts a canonical buy hands on, only the buyer is one this program derives. -/
theorem CompleteBuyAccounts.Canonical.foreign {accounts : CompleteBuyAccounts} {account : Pool}
    (canonical : accounts.Canonical account) {address : Pubkey}
    (handed : address ∈ accounts.handedOn.handed) (other : address ≠ accounts.buyer) :
    address.isProgramDerived = false := by
  obtain ⟨creator, creatorVault⟩ := canonical.creatorVault
  -- Each slot is either one of pump's own addresses or named as none of this program's.
  simp only [BuyExactSolIn.handed, handedOn, List.mem_cons, List.not_mem_nil, or_false] at handed
  rcases handed with rfl | rfl | rfl | rfl | rfl | rfl | rfl | rfl | rfl | rfl | rfl | rfl | rfl |
    rfl | rfl | rfl | rfl | rfl
  · rw [canonical.global]; rfl
  · exact canonical.feeRecipient
  · rw [canonical.mint]; exact canonical.mintSigns
  · rw [canonical.bondingCurve]; rfl
  · exact canonical.associatedBondingCurve
  · exact canonical.associatedUser
  · exact absurd rfl other
  · rfl
  · rfl
  · rw [creatorVault]; rfl
  · rw [canonical.eventAuthority]; rfl
  · rw [canonical.pumpProgram]; rfl
  · rw [canonical.globalVolumeAccumulator]; rfl
  · rw [canonical.userVolumeAccumulator]; rfl
  · rw [canonical.feeConfig]; rfl
  · rw [canonical.feeProgram]; rfl
  · rw [canonical.bondingCurveV2]; rfl
  · exact canonical.buybackFeeRecipient

section Blocked

variable {env : Env} {world after : World} {accounts : CompleteBuyAccounts} {account : Pool}

/-- A buy goes through only if the pool account itself is handed on to pump. -/
theorem pool_handed_of_buy (refuses : env.RefusesUnbalanced)
    (stored : world.pools accounts.pool = some account) (launching : account.status = .Launching)
    {now : Int64} {minTokensOut : UInt64}
    (taken : step env world ⟨now, .completeBuy accounts minTokensOut⟩ = .ok after) :
    accounts.pool ∈ accounts.handedOn.handed := by
  obtain ⟨live, _, checked, done⟩ := completeBuy_ok.mp taken
  obtain ⟨storedLive, -⟩ := loadPool_ok.mp checked.loaded
  rw [stored, Option.some.injEq] at storedLive
  subst storedLive
  rcases done with ⟨bought, -⟩ | ⟨edited, _, _, -, -, -, -, -, -, positive, moved, called, -, -, -⟩
  · rw [launching] at bought
    cases bought
  · obtain ⟨_, _, _, _, admitted, -⟩ := cpiBuyExactSolIn_ok.mp called
    -- The pool pays the buyer, and the buyer is handed on; were the pool not, the call would see
    -- lamports appear.
    by_contra keptBack
    have moved := World.moveLamports_moved (pool_ne_buyer checked.loaded checked.buyer) moved
    have listed : accounts.buyer ∈ accounts.listed := by simp [CompleteBuyAccounts.listed]
    have handed : accounts.buyer ∈ accounts.handedOn.handed := by
      simp [BuyExactSolIn.handed, CompleteBuyAccounts.handedOn]
    have unbalanced := balancedCall_false moved positive listed handed keptBack
    have balanced := refuses _ _ _ _ admitted
    rw [unbalanced] at balanced
    cases balanced

/--
No canonical buy of a launching pool ever succeeds, whatever the clock and the minimum.

Not the curve, the token account or the budget decides this, so it holds of every state.
-/
theorem launch_always_blocked (refuses : env.RefusesUnbalanced)
    (stored : world.pools accounts.pool = some account) (launching : account.status = .Launching)
    (canonical : accounts.Canonical account) (now : Int64) (minTokensOut : UInt64) :
    step env world ⟨now, .completeBuy accounts minTokensOut⟩ ≠ .ok after := by
  intro taken
  have handed := pool_handed_of_buy refuses stored launching taken
  obtain ⟨live, _, checked, -⟩ := completeBuy_ok.mp taken
  obtain ⟨-, derived, -⟩ := loadPool_ok.mp checked.loaded
  -- Handed on, the pool account would have to be derived by someone else.
  have foreign := canonical.foreign handed (pool_ne_buyer checked.loaded checked.buyer)
  rw [derived] at foreign
  cases foreign

end Blocked

namespace Sample

/-- The sample environment with the runtime's own rule for a call. -/
def strictEnv : Env := documentedEnv encoding 95 5 137

/-- It refuses unbalanced calls. -/
theorem refusesUnbalanced : strictEnv.RefusesUnbalanced := fun _ _ _ _ admitted => admitted

/-- The sample chain under that rule, launched and about to buy. -/
def launching : World := Machine.reached (step strictEnv) start (raise ++ market)

/-- The accounts of the sample buy are canonical for the sample pool. -/
theorem canonical {account : Pool} (named : account.mint = mint) :
    (buyAccounts vault).Canonical account := by
  -- Each slot is fixed by its definition, or by the mint.
  constructor
  all_goals first
    | exact ⟨creator, rfl⟩
    | rw [named]; rfl
    | rfl

end Sample

/-- The canonical buy of the sample pool is refused. -/
theorem launch_always_blocked_sample :
    (step Sample.strictEnv Sample.launching (Sample.buy Sample.vault)).isOk = false := by
  have live : (Sample.launching.pools Sample.pool).any
      (fun account => account.status = .Launching ∧ account.mint = Sample.mint) = true := by
    decide +kernel
  obtain ⟨account, stored, facts⟩ := (Option.any_eq_true _ _).mp live
  simp only [decide_eq_true_eq] at facts
  -- An accepted buy is what the theorem rules out.
  cases taken : step Sample.strictEnv Sample.launching (Sample.buy Sample.vault) with
  | error refusal => rfl
  | ok after =>
    exact absurd taken (launch_always_blocked Sample.refusesUnbalanced stored facts.1
      (Sample.canonical facts.2) 110 1)

/--
The sample launch has everything a buy needs, and pump would fill it, yet the buy is refused.

The pool is launching within its grace, the curve has landed, the vault is the buyer's, and the buyer starts empty.
-/
theorem launch_blocked :
    Run Sample.strictEnv Sample.start
        (Machine.record (step Sample.strictEnv) Sample.start [] (Sample.raise ++ Sample.market))
        Sample.launching ∧
      Sample.strictEnv.RefusesUnbalanced ∧
      (∃ account, Sample.launching.pools Sample.pool = some account ∧
        account.status = .Launching ∧ 110 < account.graceEndsAt ∧
        account.totalContributed = 3500000000 ∧
        (Sample.buyAccounts Sample.vault).Canonical account) ∧
      (Sample.launching.info Sample.curve).data ≠ [] ∧
      Sample.launching.tokens.balance Sample.vault = 0 ∧
      (Sample.launching.tokens.lookup Sample.vault).any
        (fun held => held.mint = Sample.mint ∧ held.owner = .buyer Sample.pool) = true ∧
      Sample.launching.lamports (.buyer Sample.pool) = 0 ∧
      ((Sample.launching.editLamports Sample.pool
          (.buyer Sample.pool) 3500000000).toOption.bind fun edited =>
        Sample.strictEnv.buyExactSolIn edited (Sample.buyAccounts Sample.vault).handedOn
          3500000000 1).any (fun fill => 1 ≤ fill.tokensOut) = true ∧
      step Sample.strictEnv Sample.launching (Sample.buy Sample.vault)
        = .error (.batchit .BuyFailed) := by
  have live : (Sample.launching.pools Sample.pool).any
      (fun account => account.status = .Launching ∧ 110 < account.graceEndsAt ∧
        account.totalContributed = 3500000000 ∧ account.mint = Sample.mint) = true := by
    decide +kernel
  obtain ⟨account, stored, facts⟩ := (Option.any_eq_true _ _).mp live
  simp only [decide_eq_true_eq] at facts
  obtain ⟨launching, early, total, named⟩ := facts
  -- The error the buy is refused with is computed, for states themselves are not compared.
  have refused : refusal (step Sample.strictEnv Sample.launching (Sample.buy Sample.vault))
      = some (.batchit .BuyFailed) := by
    decide +kernel
  exact ⟨Machine.run_reached (by decide +kernel), Sample.refusesUnbalanced,
    ⟨account, stored, launching, early, total, Sample.canonical named⟩, by decide +kernel,
    by decide +kernel, by decide +kernel, by decide +kernel, by decide +kernel,
    refusal_eq_some.mp refused⟩

end Batchit
