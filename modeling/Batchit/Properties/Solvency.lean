import Batchit.Documented
import Batchit.Lib.Sha256
import Batchit.Protocol.Escrow

/-! Escrow accounting: the recorded totals are the contributions, and the lamports cover them. -/

namespace Batchit

/-- A pool whose books are exact and whose lamports cover what it owes. -/
structure Solvent (env : Env) (start : World) (pool : Pubkey) (history : List Transition)
    (world : World) (account : Pool) : Prop where
  /-- The recorded total is the sum over all records that name the pool. -/
  recorded : account.totalContributed.toNat = world.owed pool
  /-- Records of an earlier life of the address hold nothing. -/
  leftovers : ∀ contributor record, world.stake pool contributor = some record →
    contributor ∉ depositors pool history → record.amount = 0
  /-- What was accepted in this life is still recorded or was refunded. -/
  accepted : account.totalContributed.toNat + account.totalRefunded.toNat = accepted pool history
  /-- Each wallet is counted once. -/
  counted : account.contributorCount.toNat = (depositors pool history).card
  /-- A record of this life that holds anything holds the minimum. -/
  enough : ∀ contributor ∈ depositors pool history, ∀ record,
    world.stake pool contributor = some record → 0 < record.amount →
    account.minContributionLamports ≤ record.amount
  bounded : account.totalContributed ≤ account.maxPoolLamports
  /-- Until the buy the account holds its rent, what outsiders sent, and every contribution. -/
  explained : account.status = .Open ∨ account.status = .Launching ∨ account.status = .Refundable →
    (world.lamports pool).toNat
      = rent pool history + donated start pool history + account.totalContributed.toNat
  /-- Until the buy the account covers its contributions on top of its rent-exempt minimum. -/
  exempt : account.status = .Open ∨ account.status = .Launching ∨ account.status = .Refundable →
    (env.minimumBalance Pool.LEN).toNat + account.totalContributed.toNat
      ≤ (world.lamports pool).toNat

/-- A record of no contributor of this life was paid back. -/
theorem Booked.leftover {env : Env} {pool contributor : Pubkey} {history : List Transition}
    {account : Option Pool} {record : Contribution}
    (booked : Booked pool contributor history (some record))
    (sound : record.Sound env pool contributor account)
    (stranger : contributor ∉ depositors pool history) : record.PaidBack := by
  -- A stake would make its contributor one of this life's.
  rcases sound.state with paidBack | ⟨live, -, staked⟩
  · exact paidBack
  · exact absurd (booked.staked record rfl staked.unrefunded).1 stranger

/-- Every live pool of every reachable state is solvent. -/
theorem pool_solvent {env : Env} {start world : World} {history : List Transition}
    (genesis : Genesis start) (run : Run env start history world) {pool : Pubkey} {account : Pool}
    (stored : world.pools pool = some account) :
    Solvent env start pool history world account := by
  -- Each field is read off one of the invariants of the run.
  obtain ⟨creator, seed, rfl⟩ := run_poolsAtHome genesis run stored
  have invariant := run_poolInvariant genesis run creator seed
  have ledger := run_ledger genesis run creator seed account stored
  have funded := run_funded genesis run creator seed
  have sound := invariant.account account stored
  have bounded := sound.bounded
  have lamports := funded.lamports
  have exempt := funded.exempt (by rw [stored]; rfl)
  rw [World.escrow_of_stored stored] at lamports
  -- Until the buy the escrow is the whole contributed total.
  have escrow (unspent : account.status = .Open ∨ account.status = .Launching ∨
      account.status = .Refundable) : account.escrow = account.totalContributed.toNat := by
    rcases unspent with status | status | status <;> simp only [Pool.escrow, status]
  exact {
    recorded := (invariant.backed account stored).total
    leftovers := by
      intro contributor record found stranger
      have booked := ledger.booked contributor
      rw [found] at booked
      exact (booked.leftover (invariant.records _ _ found) stranger).amount
    accepted := ledger.accepted.symm
    counted := ledger.counted.symm
    enough := by
      intro contributor _ record found positive
      have staked := (invariant.soundRecords stored _ _ found).staked positive
      exact UInt64.le_iff_toNat_le.mpr staked.enough
    bounded := UInt64.le_iff_toNat_le.mpr (by omega)
    explained := by
      intro unspent
      rw [lamports, escrow unspent]
    exempt := by
      intro unspent
      rw [lamports, escrow unspent]
      omega }

/-! ### A raise, used as the example below and by later modules -/

namespace Sample

/-- Who opens the sample pool. -/
def creator : Pubkey := .key 1

/-- One contributor. -/
def alice : Pubkey := .key 2

/-- Another contributor. -/
def bob : Pubkey := .key 3

/-- The sample pool, under its seed. -/
def pool : Pubkey := .pool creator 7

/-- A key's own number as its bytes, the highest first; derived keys are never asked for. -/
def encoding : Encoding where
  discriminator := ⟨(Sha256.digest "account:Pool".toUTF8.toList).take 8, by simp⟩
  contributionDiscriminator := ⟨(Sha256.digest "account:Contribution".toUTF8.toList).take 8, by simp⟩
  address
    | .key number => ⟨(Bytes.ofNumber 32 number).reverse, by simp⟩
    | .pool _ _ | .buyer _ | .contribution _ _ | .pump _ _ => ⟨List.replicate 32 0, by simp⟩

/--
Pump at a one per cent fee, with accounts of the documented sizes.

The runtime lets every call through here, for by its own rule the sample buys would end at the call into pump.
-/
def env : Env := { documentedEnv encoding 95 5 137 with admitsCall := fun _ _ _ _ => true }

/-- Wallets and pump's accounts are funded, and nothing of the program exists. -/
def start : World where
  lamports
    | .key _ | .pump _ _ => 100000000000
    | .pool _ _ | .buyer _ | .contribution _ _ => 0
  pools _ := none
  contributions := ∅
  tokens := ∅
  info _ := { owner := SYSTEM_PROGRAM_ID, data := [] }

/-- The sample chain has not seen the program. -/
theorem genesis : Genesis start :=
  ⟨fun _ => rfl, rfl, fun _ => Nat.two_pow_pos 64⟩

/-- The state a list of actions reaches from the sample chain. -/
def reach (actions : List Action) : World := Machine.reached (step env) start actions

/-- The history of a list of actions on the sample chain. -/
def past (actions : List Action) : List Transition := Machine.record (step env) start [] actions

/-- Actions none of which is refused are a run of the sample chain. -/
theorem run {actions : List Action}
    (executes : (Machine.exec (step env) start actions).isOk = true) :
    Run env start (past actions) (reach actions) := Machine.run_reached executes

/-- The sample pool is opened. -/
def opening : Action := ⟨0, .createPool ⟨creator, pool, .buyer pool⟩ {
  seed := 7
  launchAt := 100
  graceSecs := 50
  minRaiseLamports := 1000000000
  maxPoolLamports := 10000000000
  minContributionLamports := 100000000 }⟩

/-- A wallet contributes to the sample pool. -/
def deposit (now : Int64) (wallet : Pubkey) (amount : UInt64) : Action :=
  ⟨now, .contribute ⟨wallet, pool, .contribution pool wallet⟩ amount⟩

/-- Two wallets contribute, one of them twice, and an outsider sends lamports as well. -/
def raise : List Action :=
  [opening, deposit 10 alice 2000000000, deposit 20 bob 1000000000,
    ⟨25, .systemTransfer bob pool 5000⟩, deposit 30 alice 500000000]

end Sample

/-- The sample raise is a solvent pool. -/
theorem pool_solvent_raise :
    ∃ account, (Sample.reach Sample.raise).pools Sample.pool = some account ∧
      account.totalContributed = 3500000000 ∧
      Solvent Sample.env Sample.start Sample.pool (Sample.past Sample.raise)
        (Sample.reach Sample.raise) account := by
  have live : ((Sample.reach Sample.raise).pools Sample.pool).any
      (fun account => account.totalContributed = 3500000000) = true := by decide +kernel
  -- The account is left to the run; only its existence and total are computed.
  obtain ⟨account, stored, total⟩ := (Option.any_eq_true _ _).mp live
  exact ⟨account, stored, of_decide_eq_true total,
    pool_solvent Sample.genesis (Sample.run (by decide +kernel)) stored⟩

end Batchit
