import Batchit.Lib.Commute
import Batchit.Properties.Refunds
import Batchit.Protocol.Isolation
import Mathlib.Tactic.Abel

/-! The order of payouts: refunds of a pool commute, claims on it commute, and so does any mix that succeeds. -/

namespace Batchit

open World

/-! ### Refunds -/

section Refunds

variable {env : Env} {world : World} {now clock : Int64} {accounts first second : RefundAccounts}
variable {account : Pool} {record : Contribution}

/-- The pool account a refund of an amount leaves. -/
def Pool.repaid (account : Pool) (amount : UInt64) : Pool :=
  { account with
    status := .Refundable
    totalContributed := account.totalContributed - amount
    totalRefunded := account.totalRefunded + amount }

/-- The state a refund leaves, given the pool and the record it pays back. -/
def World.repaid (world : World) (accounts : RefundAccounts) (account : Pool)
    (record : Contribution) : World :=
  (((world.setLamports accounts.pool (world.lamports accounts.pool - record.amount)).setLamports
      accounts.contributor (world.lamports accounts.contributor + record.amount)).setContribution
      accounts.contribution { record with refunded := true, amount := 0 }).setPool accounts.pool
    (some (account.repaid record.amount))

/-- Everything a refund asks of the accounts. -/
structure RefundAccounts.Ready (env : Env) (world : World) (now : Int64)
    (accounts : RefundAccounts) (account : Pool) (record : Contribution) : Prop where
  signed : accounts.contributor.canSign = true
  loaded : loadPool env world accounts.pool = .ok account
  recorded : loadContribution env world accounts.contribution accounts.pool accounts.contributor
    = .ok record
  allowed : account.refundAllowed now = true
  owner : record.contributor = accounts.contributor
  unrefunded : record.refunded = false
  unclaimed : record.claimed = false
  positive : 0 < record.amount
  total : record.amount.toNat ≤ account.totalContributed.toNat
  counted : account.totalRefunded.toNat + record.amount.toNat < 2 ^ 64
  funded : record.amount.toNat ≤ (world.lamports accounts.pool).toNat
  credit : (world.lamports accounts.contributor).toNat + record.amount.toNat < 2 ^ 64

/-- A refund succeeds exactly on accounts that are ready for it, and leaves the one state. -/
theorem refund_iff {after : World} :
    refund env world now accounts = .ok after ↔
      ∃ account record, accounts.Ready env world now account record ∧
        after = world.repaid accounts account record := by
  rw [refund_ok]
  constructor
  · intro taken
    obtain ⟨account, record, total, refunded, paid, signed, loaded, recorded, allowed, owner,
      unrefunded, unclaimed, positive, subtracted, added, edited, rfl⟩ := taken
    have differ := (signer_ne_pool signed loaded).symm
    obtain ⟨rest, sum, left, reached, rfl⟩ := (moveLamports_ok differ).mp edited
    have width := sum.toNat_lt
    have refundedWidth := refunded.toNat_lt
    refine ⟨account, record, ⟨signed, loaded, recorded, allowed, owner, unrefunded, unclaimed,
      positive, by omega, by omega, by omega, by omega⟩, ?_⟩
    -- Each checked result is the word arithmetic gives.
    have restIs : rest = world.lamports accounts.pool - record.amount := by
      have fits := UInt64.toNat_sub_add_cancel (a := world.lamports accounts.pool)
        (b := record.amount) (by omega)
      rw [← UInt64.toNat_inj]
      omega
    have sumIs : sum = world.lamports accounts.contributor + record.amount := by
      rw [← UInt64.toNat_inj, UInt64.toNat_add_of_fits (by omega)]
      exact reached
    have totalIs : total = account.totalContributed - record.amount := by
      have fits := UInt64.toNat_sub_add_cancel (a := account.totalContributed)
        (b := record.amount) (by omega)
      rw [← UInt64.toNat_inj]
      omega
    have refundedIs : refunded = account.totalRefunded + record.amount := by
      rw [← UInt64.toNat_inj, UInt64.toNat_add_of_fits (by omega)]
      exact added
    rw [World.repaid, Pool.repaid, ← restIs, ← sumIs, ← totalIs, ← refundedIs]
  · intro ready
    obtain ⟨account, record, ready, rfl⟩ := ready
    have differ := (signer_ne_pool ready.signed ready.loaded).symm
    have moved : world.editLamports accounts.pool accounts.contributor record.amount
        = .ok ((world.setLamports accounts.pool
          (world.lamports accounts.pool - record.amount)).setLamports accounts.contributor
          (world.lamports accounts.contributor + record.amount)) := by
      exact (moveLamports_ok differ).mpr ⟨_, _, UInt64.toNat_sub_add_cancel ready.funded,
        UInt64.toNat_add_of_fits ready.credit, rfl⟩
    exact ⟨account, record, _, _, _, ready.signed, ready.loaded, ready.recorded, ready.allowed,
      ready.owner, ready.unrefunded, ready.unclaimed, ready.positive,
      UInt64.toNat_sub_add_cancel ready.total, UInt64.toNat_add_of_fits ready.counted, moved, rfl⟩

/-- What a refund leaves at each address. -/
theorem repaid_pools (address : Pubkey) :
    (world.repaid accounts account record).pools address
      = if address = accounts.pool then some (account.repaid record.amount)
        else world.pools address := by
  simp [World.repaid, Function.update_apply]

/-- A refund takes lamports from the pool and gives them to its contributor. -/
theorem repaid_lamports (address : Pubkey) :
    (world.repaid accounts account record).lamports address
      = if address = accounts.contributor then world.lamports address + record.amount
        else if address = accounts.pool then world.lamports address - record.amount
        else world.lamports address := by
  simp only [World.repaid, setPool_lamports, setContribution_lamports, setLamports_lamports,
    Function.update_apply]
  -- The contributor is written last, so it is read first.
  by_cases own : address = accounts.contributor
  · rw [if_pos own, if_pos own, own]
  · rw [if_neg own, if_neg own]
    by_cases held : address = accounts.pool
    · rw [if_pos held, if_pos held, held]
    · rw [if_neg held, if_neg held]

/-- A refund empties its own record and leaves the others alone. -/
theorem repaid_lookup (address : Pubkey) :
    (world.repaid accounts account record).contributions.lookup address
      = if address = accounts.contribution then some { record with refunded := true, amount := 0 }
        else world.contributions.lookup address := by
  simp only [World.repaid, setPool_contributions, setContribution_contributions,
    setLamports_contributions]
  -- One record is written.
  by_cases own : address = accounts.contribution
  · rw [if_pos own, own, AList.lookup_insert]
  · rw [if_neg own, AList.lookup_insert_ne own]

/-- Two refunds are counted in either order. -/
theorem Pool.repaid_comm (account : Pool) (one two : UInt64) :
    (account.repaid one).repaid two = (account.repaid two).repaid one := by
  simp only [Pool.repaid, sub_right_comm account.totalContributed one two,
    add_right_comm account.totalRefunded one two]

/-- A pool that has paid a refund loads with the refund counted. -/
theorem loadPool_repaid (ready : accounts.Ready env world now account record) :
    loadPool env (world.repaid accounts account record) accounts.pool
      = .ok (account.repaid record.amount) := by
  have seeds := (loadPool_ok.mp ready.loaded).2
  exact loadPool_ok.mpr ⟨by rw [repaid_pools, if_pos rfl], seeds⟩

/-- The records of two contributors in a pool are two accounts. -/
theorem contribution_ne {env : Env} {world world' : World} {pool : Pubkey}
    {record record' : Contribution} {one other one' other' : Pubkey}
    (recorded : loadContribution env world one pool one' = .ok record)
    (recorded' : loadContribution env world' other pool other' = .ok record')
    (differ : one' ≠ other') : one ≠ other := by
  intro same
  -- Each record lies at the address that its contributor gives it.
  have at_ := (loadContribution_ok.mp recorded).2.1
  have at' := (loadContribution_ok.mp recorded').2.1
  rw [at_, at'] at same
  exact differ (Pubkey.contribution.inj same).2

/-- A contribution of another contributor loads the same after a refund. -/
theorem loadContribution_repaid {pool : Pubkey} {record' : Contribution}
    (away : second.contribution ≠ first.contribution) :
    loadContribution env (world.repaid first account record) second.contribution pool
        second.contributor = .ok record' ↔
      loadContribution env world second.contribution pool second.contributor = .ok record' := by
  unfold loadContribution
  rw [repaid_lookup, if_neg away]

/-- Two contributors whose refunds the pool covers together can be paid one after the other. -/
theorem RefundAccounts.Ready.after {record' : Contribution} (same : second.pool = first.pool)
    (differ : first.contributor ≠ second.contributor)
    (ready : first.Ready env world now account record)
    (ready' : second.Ready env world clock account record')
    (total : record.amount.toNat + record'.amount.toNat ≤ account.totalContributed.toNat)
    (counted : account.totalRefunded.toNat + record.amount.toNat + record'.amount.toNat < 2 ^ 64)
    (funded : record.amount.toNat + record'.amount.toNat ≤ (world.lamports first.pool).toNat) :
    second.Ready env (world.repaid first account record) clock (account.repaid record.amount)
      record' := by
  have recorded' := ready'.recorded
  rw [same] at recorded'
  have away := (contribution_ne ready.recorded recorded' differ).symm
  have held := signer_ne_pool ready.signed ready.loaded
  have held' := signer_ne_pool ready'.signed ready'.loaded
  rw [same] at held'
  have leftTotal := UInt64.toNat_sub_add_cancel ready.total
  have leftFunds := UInt64.toNat_sub_add_cancel ready.funded
  have sum := UInt64.toNat_add_of_fits ready.counted
  constructor
  case signed => exact ready'.signed
  case loaded =>
    rw [same]
    exact loadPool_repaid ready
  case recorded =>
    rw [same]
    exact (loadContribution_repaid away).mpr recorded'
  -- The first refund has left the pool refundable.
  case allowed => rfl
  case owner => exact ready'.owner
  case unrefunded => exact ready'.unrefunded
  case unclaimed => exact ready'.unclaimed
  case positive => exact ready'.positive
  case total =>
    simp only [Pool.repaid]
    omega
  case counted =>
    simp only [Pool.repaid]
    omega
  case funded =>
    rw [same, repaid_lamports, if_neg held.symm, if_pos rfl]
    omega
  case credit =>
    rw [repaid_lamports, if_neg differ.symm, if_neg held']
    exact ready'.credit

/-- What a refund is ready for after another one of the pool, it was ready for before it. -/
theorem RefundAccounts.Ready.before {account' : Pool} {record' : Contribution}
    (same : second.pool = first.pool) (ready : first.Ready env world now account record)
    (allowed : account.refundAllowed clock = true)
    (ready' : second.Ready env (world.repaid first account record) clock account' record') :
    first.contributor ≠ second.contributor ∧ second.Ready env world clock account record' ∧
      record.amount.toNat + record'.amount.toNat ≤ account.totalContributed.toNat ∧
      account.totalRefunded.toNat + record.amount.toNat + record'.amount.toNat < 2 ^ 64 ∧
      record.amount.toNat + record'.amount.toNat ≤ (world.lamports first.pool).toNat := by
  have loaded' := ready'.loaded
  have recorded' := ready'.recorded
  have total := ready'.total
  have counted := ready'.counted
  have funded := ready'.funded
  have credit := ready'.credit
  rw [same] at loaded' recorded' funded
  rw [loadPool_repaid ready, Except.ok.injEq] at loaded'
  subst loaded'
  -- The contributor repaid first has nothing left to be paid.
  have differ : first.contributor ≠ second.contributor := by
    intro one
    have stored := (loadContribution_ok.mp recorded').1
    have home := (loadContribution_ok.mp ready.recorded).2.1
    rw [World.stake, ← one, ← home, repaid_lookup, if_pos rfl, Option.some.injEq] at stored
    have unrefunded := ready'.unrefunded
    rw [← stored] at unrefunded
    cases unrefunded
  have away := (contribution_ne ready.recorded recorded' differ).symm
  have held := signer_ne_pool ready.signed ready.loaded
  have held' : second.contributor ≠ first.pool := by
    have apart := signer_ne_pool ready'.signed ready'.loaded
    rw [same] at apart
    exact apart
  have leftTotal := UInt64.toNat_sub_add_cancel ready.total
  have leftFunds := UInt64.toNat_sub_add_cancel ready.funded
  have sum := UInt64.toNat_add_of_fits ready.counted
  rw [repaid_lamports, if_neg held.symm, if_pos rfl] at funded
  rw [repaid_lamports, if_neg differ.symm, if_neg held'] at credit
  simp only [Pool.repaid] at total counted
  refine ⟨differ, ?_, by omega, by omega, by omega⟩
  exact {
    signed := ready'.signed
    loaded := by
      rw [same]
      exact ready.loaded
    recorded := by
      rw [same]
      exact (loadContribution_repaid away).mp recorded'
    allowed := allowed
    owner := ready'.owner
    unrefunded := ready'.unrefunded
    unclaimed := ready'.unclaimed
    positive := ready'.positive
    total := by omega
    counted := by omega
    funded := by
      rw [same]
      omega
    credit := credit }

/-- Two refunds of a pool that succeed in a row succeed in the other order, and end the same. -/
theorem refund_exchange {middle last : World} {pool : Pubkey} (firstPool : first.pool = pool)
    (secondPool : second.pool = pool)
    (pays : ∀ account, world.pools pool = some account → account.refundAllowed clock = true)
    (one : refund env world now first = .ok middle)
    (two : refund env middle clock second = .ok last) :
    ∃ middle' last', refund env world clock second = .ok middle' ∧
      refund env middle' now first = .ok last' ∧ ∀ address, AgreeAt address last last' := by
  obtain ⟨account, record, ready, rfl⟩ := refund_iff.mp one
  obtain ⟨account', record', ready', rfl⟩ := refund_iff.mp two
  subst firstPool
  have allowed := pays account (loadPool_ok.mp ready.loaded).1
  have loaded' := ready'.loaded
  rw [secondPool, loadPool_repaid ready, Except.ok.injEq] at loaded'
  subst loaded'
  obtain ⟨differ, before, total, counted, funded⟩ := ready.before secondPool allowed ready'
  have after := before.after secondPool.symm differ.symm ready (by omega) (by omega)
    (by rw [secondPool]; omega)
  refine ⟨_, _, refund_iff.mpr ⟨account, record', before, rfl⟩,
    refund_iff.mpr ⟨_, record, after, rfl⟩, ?_⟩
  have recorded' := before.recorded
  rw [secondPool] at recorded'
  have away := contribution_ne ready.recorded recorded' differ
  have held := signer_ne_pool ready.signed ready.loaded
  have held' := signer_ne_pool ready'.signed ready'.loaded
  rw [secondPool] at held'
  intro address
  -- Two wallets and two records are written once, and the pool by both.
  refine ⟨?_, ?_, ?_, rfl, rfl⟩
  · simp only [repaid_lamports, secondPool]
    grind
  · simp only [repaid_pools, secondPool, account.repaid_comm record.amount]
    split <;> rfl
  · simp only [repaid_lookup]
    grind

end Refunds

/-! ### Claims -/

section Claims

variable {env : Env} {world final : World} {accounts first second : ClaimAccounts}
variable {account : Pool} {record : Contribution} {vaultAta contributorAta : TokenAccount}
variable {share : UInt64}

/-- What a claim of a share makes of the token account at an address. -/
def ClaimAccounts.settled (accounts : ClaimAccounts) (share : UInt64) (address : Pubkey)
    (held : TokenAccount) : TokenAccount :=
  { held with
    amount := held.amount + (if address = accounts.contributorAta then share else 0)
      - (if address = accounts.vaultAta then share else 0) }

/-- The pool account a claim of a share leaves. -/
def Pool.claimed (account : Pool) (share : UInt64) : Pool :=
  { account with totalClaimed := account.totalClaimed + share }

/-- What a claim of a share leaves. -/
structure ClaimAccounts.Paid (accounts : ClaimAccounts) (account : Pool) (record : Contribution)
    (share : UInt64) (world final : World) : Prop where
  lamports : final.lamports = world.lamports
  pools : ∀ address, final.pools address
    = if address = accounts.pool then some (account.claimed share) else world.pools address
  contributions : ∀ address, final.contributions.lookup address
    = if address = accounts.contribution then some { record with claimed := true }
      else world.contributions.lookup address
  tokens : ∀ address, final.tokens.lookup address
    = (world.tokens.lookup address).map (accounts.settled share address)
  info : final.info = world.info

/-- Everything a claim asks of the accounts. -/
structure ClaimAccounts.Ready (env : Env) (world : World) (accounts : ClaimAccounts)
    (account : Pool) (record : Contribution) (vaultAta contributorAta : TokenAccount)
    (share : UInt64) : Prop where
  checked : accounts.Checked env world account record vaultAta contributorAta
  finalized : account.status = .Finalized
  owner : record.contributor = accounts.contributor
  unclaimed : record.claimed = false
  unrefunded : record.refunded = false
  positive : 0 < record.amount
  allocated : allocation account.distributable record.amount account.totalContributed = .ok share
  owed : 0 < share ∨ account.distributable = 0
  covered : share.toNat ≤ vaultAta.amount.toNat
  credit : contributorAta.amount.toNat + share.toNat < 2 ^ 64
  counted : account.totalClaimed.toNat + share.toNat < 2 ^ 64

/-- The claimant's token account is not the vault. -/
theorem ClaimAccounts.Checked.ata_ne (checked : accounts.Checked env world account record
    vaultAta contributorAta) : accounts.vaultAta ≠ accounts.contributorAta := by
  intro same
  have vault := checked.vault
  rw [same, checked.ata, Option.some.injEq] at vault
  -- One account would belong to a wallet and to a derived address.
  have owners : accounts.buyer = accounts.contributor := by
    rw [← checked.vaultOwner, ← vault]
    exact checked.ataOwner
  have derived := (buyerSeeds_ok.mp checked.buyer).1
  exact Pubkey.ne_of_canSign checked.signed (by rw [derived]; rfl) owners.symm

/-- Two token accounts, one less a share and the other more, read as a claim settles them. -/
theorem lookup_settled {tokens : Tokens} {rest sum : UInt64}
    (differ : accounts.vaultAta ≠ accounts.contributorAta)
    (vault : tokens.lookup accounts.vaultAta = some vaultAta)
    (ata : tokens.lookup accounts.contributorAta = some contributorAta)
    (left : rest.toNat + share.toNat = vaultAta.amount.toNat)
    (reached : sum.toNat = contributorAta.amount.toNat + share.toNat) (address : Pubkey) :
    AList.lookup address ((AList.insert accounts.vaultAta { vaultAta with amount := rest }
        tokens).insert accounts.contributorAta { contributorAta with amount := sum })
      = (tokens.lookup address).map (accounts.settled share address) := by
  have restIs : rest = vaultAta.amount - share := by
    have fits := UInt64.toNat_sub_add_cancel (a := vaultAta.amount) (b := share) (by omega)
    rw [← UInt64.toNat_inj]
    omega
  have sumIs : sum = contributorAta.amount + share := by
    have width := sum.toNat_lt
    rw [← UInt64.toNat_inj, UInt64.toNat_add_of_fits (by omega)]
    exact reached
  by_cases credited : address = accounts.contributorAta
  · rw [credited, AList.lookup_insert, ata, Option.map_some, ClaimAccounts.settled, if_pos rfl,
      if_neg differ.symm, sub_zero, sumIs]
  · rw [AList.lookup_insert_ne credited]
    by_cases debited : address = accounts.vaultAta
    · rw [debited, AList.lookup_insert, vault, Option.map_some, ClaimAccounts.settled,
        if_neg differ, if_pos rfl, add_zero, restIs]
    · -- Any other account is settled by nothing.
      rw [AList.lookup_insert_ne debited]
      cases tokens.lookup address with
      | none => rfl
      | some held => simp [ClaimAccounts.settled, credited, debited]

/-- Nothing paid settles nothing. -/
theorem lookup_settled_zero {tokens : Tokens} (address : Pubkey) :
    tokens.lookup address = (tokens.lookup address).map (accounts.settled 0 address) := by
  cases tokens.lookup address with
  | none => rfl
  | some held => simp [ClaimAccounts.settled]

/-- A claim succeeds only on accounts that are ready for it, and pays them the share. -/
theorem claim_paid (taken : claim env world accounts = .ok final) :
    ∃ account record vaultAta contributorAta share,
      accounts.Ready env world account record vaultAta contributorAta share ∧
      accounts.Paid account record share world final := by
  obtain ⟨account, record, vaultAta, contributorAta, share, total, tokens, checked, finalized, owner,
    unclaimed, unrefunded, positive, allocated, owed, paid, added, rfl⟩ := claim_ok.mp taken
  have width := total.toNat_lt
  have totalIs : total = account.totalClaimed + share := by
    rw [← UInt64.toNat_inj, UInt64.toNat_add_of_fits (by omega)]
    exact added
  -- Either nothing is owed, or the share moves out of the vault.
  obtain ⟨covered, credit, settled⟩ : share.toNat ≤ vaultAta.amount.toNat ∧
      contributorAta.amount.toNat + share.toNat < 2 ^ 64 ∧
      ∀ address, tokens.lookup address
        = (world.tokens.lookup address).map (accounts.settled share address) := by
    unfold payShare at paid
    split at paid
    · obtain ⟨paying, credited, rest, sum, vault, ata, -, -, left, reached, rfl⟩ :=
        (Tokens.transfer_ok checked.ata_ne).mp paid
      rw [checked.vault, Option.some.injEq] at vault
      rw [checked.ata, Option.some.injEq] at ata
      subst vault ata
      have sumWidth := sum.toNat_lt
      exact ⟨by omega, by omega,
        lookup_settled checked.ata_ne checked.vault checked.ata left reached⟩
    · rename_i nothing
      have zero : share = 0 := UInt64.le_zero_iff.mp (UInt64.not_lt.mp nothing)
      rw [Except.ok.injEq] at paid
      subst paid zero
      have ataWidth := contributorAta.amount.toNat_lt
      exact ⟨Nat.zero_le _, by simpa using ataWidth, lookup_settled_zero⟩
  refine ⟨account, record, vaultAta, contributorAta, share, ⟨checked, finalized, owner, unclaimed,
    unrefunded, positive, allocated, owed, covered, credit, by omega⟩, ?_⟩
  constructor
  case lamports => rfl
  case pools =>
    intro address
    rw [Pool.claimed, ← totalIs]
    simp [Function.update_apply]
  case contributions =>
    intro address
    simp only [setPool_contributions, setContribution_contributions, setTokens_contributions]
    by_cases own : address = accounts.contribution
    · rw [if_pos own, own, AList.lookup_insert]
    · rw [if_neg own, AList.lookup_insert_ne own]
  case tokens =>
    intro address
    exact settled address
  case info => rfl

/-- A claim succeeds on accounts that are ready for it, and pays them that share. -/
theorem claim_of_ready
    (ready : accounts.Ready env world account record vaultAta contributorAta share) :
    ∃ final, claim env world accounts = .ok final ∧
      accounts.Paid account record share world final := by
  obtain ⟨tokens, paid⟩ : ∃ tokens, payShare world.tokens accounts.vaultAta
      accounts.contributorAta accounts.buyer share = .ok tokens := by
    unfold payShare
    split
    · have mints := ready.checked.vaultMint.trans ready.checked.ataMint.symm
      exact ⟨_, (Tokens.transfer_ok ready.checked.ata_ne).mpr ⟨_, _, _, _, ready.checked.vault,
        ready.checked.ata, mints, ready.checked.vaultOwner,
        UInt64.toNat_sub_add_cancel ready.covered, UInt64.toNat_add_of_fits ready.credit, rfl⟩⟩
    · exact ⟨_, rfl⟩
  have taken := claim_ok.mpr ⟨account, record, vaultAta, contributorAta, share, _, tokens,
    ready.checked, ready.finalized, ready.owner, ready.unclaimed, ready.unrefunded, ready.positive,
    ready.allocated, ready.owed, paid, UInt64.toNat_add_of_fits ready.counted, rfl⟩
  refine ⟨_, taken, ?_⟩
  -- What is loaded and allocated is determined, so it is this share that was paid.
  obtain ⟨account', record', _, _, share', other, paid'⟩ := claim_paid taken
  have sameAccount := Except.ok.inj (other.checked.loaded.symm.trans ready.checked.loaded)
  have sameRecord := Except.ok.inj (other.checked.record.symm.trans ready.checked.record)
  subst sameAccount sameRecord
  have sameShare := Except.ok.inj (other.allocated.symm.trans ready.allocated)
  subst sameShare
  exact paid'

/-- Two shares are settled in either order. -/
theorem settled_comm (one two : UInt64) (address : Pubkey) (held : TokenAccount) :
    second.settled two address (first.settled one address held)
      = first.settled one address (second.settled two address held) := by
  -- Only the amount is written, and each share is added or taken apart from the other.
  simp only [ClaimAccounts.settled, TokenAccount.mk.injEq, true_and, and_true]
  abel

/-- Two shares are counted in either order. -/
theorem Pool.claimed_comm (account : Pool) (one two : UInt64) :
    (account.claimed one).claimed two = (account.claimed two).claimed one := by
  simp only [Pool.claimed, add_right_comm account.totalClaimed one two]

variable {account' : Pool} {record' : Contribution} {vaultAta' contributorAta' : TokenAccount}
variable {share' : UInt64} {middle : World}

/-- A pool that has paid a claim loads with the claim counted. -/
theorem loadPool_claimed (checked : accounts.Checked env world account record vaultAta
    contributorAta) (paid : accounts.Paid account record share world final) :
    loadPool env final accounts.pool = .ok (account.claimed share) := by
  have seeds := (loadPool_ok.mp checked.loaded).2
  exact loadPool_ok.mpr ⟨by rw [paid.pools, if_pos rfl], seeds⟩

/-- The accounts of two claimants of a pool: their own differ, and neither is a vault. -/
theorem ClaimAccounts.Checked.apart (same : second.pool = first.pool)
    (differ : first.contributor ≠ second.contributor)
    (checked : first.Checked env world account record vaultAta contributorAta)
    (checked' : second.Checked env world account record' vaultAta' contributorAta') :
    second.vaultAta ≠ first.contributorAta ∧ second.contributorAta ≠ first.vaultAta ∧
      second.contributorAta ≠ first.contributorAta := by
  have buyer := (buyerSeeds_ok.mp checked.buyer).1
  have buyer' := (buyerSeeds_ok.mp checked'.buyer).1
  rw [same] at buyer'
  -- The owners tell the accounts apart: a derived address, and two wallets.
  have foreign : first.contributor ≠ .buyer first.pool := Pubkey.ne_of_canSign checked.signed rfl
  have foreign' : second.contributor ≠ .buyer first.pool := Pubkey.ne_of_canSign checked'.signed rfl
  have vaultOwner := checked.vaultOwner.trans buyer
  have vaultOwner' := checked'.vaultOwner.trans buyer'
  refine ⟨?_, ?_, ?_⟩
  · intro one
    have stored := checked'.vault
    rw [one, checked.ata, Option.some.injEq] at stored
    rw [← stored, checked.ataOwner] at vaultOwner'
    exact foreign vaultOwner'
  · intro one
    have stored := checked'.ata
    rw [one, checked.vault, Option.some.injEq] at stored
    rw [stored, checked'.ataOwner] at vaultOwner
    exact foreign' vaultOwner
  · intro one
    have stored := checked'.ata
    rw [one, checked.ata, Option.some.injEq] at stored
    have owner := checked.ataOwner
    rw [stored, checked'.ataOwner] at owner
    exact differ owner.symm

/-- Outside the accounts a claim credits, a share can only have left. -/
theorem settled_amount {address : Pubkey} (away : address ≠ first.contributorAta)
    (held : TokenAccount) :
    (first.settled share address held).amount
      = if address = first.vaultAta then held.amount - share else held.amount := by
  simp only [ClaimAccounts.settled, if_neg away, add_zero]
  -- Away from the account that is paid, only the vault changes.
  split
  · rfl
  · exact sub_zero _

/-- What a claim is ready for before another one of the pool, it is ready for after it. -/
theorem ClaimAccounts.Ready.after (same : second.pool = first.pool)
    (differ : first.contributor ≠ second.contributor)
    (ready : first.Ready env world account record vaultAta contributorAta share)
    (paid : first.Paid account record share world middle)
    (ready' : second.Ready env world account record' vaultAta' contributorAta' share')
    (covered : share'.toNat ≤ (first.settled share second.vaultAta vaultAta').amount.toNat)
    (counted : account.totalClaimed.toNat + share.toNat + share'.toNat < 2 ^ 64) :
    second.Ready env middle (account.claimed share) record'
      (first.settled share second.vaultAta vaultAta')
      (first.settled share second.contributorAta contributorAta') share' := by
  have recorded' := ready'.checked.record
  rw [same] at recorded'
  have away := (contribution_ne ready.checked.record recorded' differ).symm
  obtain ⟨-, notVault, notAta⟩ := ready.checked.apart same differ ready'.checked
  -- The first claim writes the pool, its own record, and the balances of two token accounts.
  constructor
  case checked =>
    exact {
      signed := ready'.checked.signed
      loaded := by
        rw [same]
        exact loadPool_claimed ready.checked paid
      record := by
        have stored := ready'.checked.record
        unfold loadContribution at stored ⊢
        rw [paid.contributions, if_neg away]
        exact stored
      buyer := ready'.checked.buyer
      vault := by rw [paid.tokens, ready'.checked.vault, Option.map_some]
      vaultOwner := ready'.checked.vaultOwner
      vaultMint := ready'.checked.vaultMint
      ata := by rw [paid.tokens, ready'.checked.ata, Option.map_some]
      ataOwner := ready'.checked.ataOwner
      ataMint := ready'.checked.ataMint }
  case finalized => exact ready'.finalized
  case owner => exact ready'.owner
  case unclaimed => exact ready'.unclaimed
  case unrefunded => exact ready'.unrefunded
  case positive => exact ready'.positive
  case allocated => exact ready'.allocated
  case owed => exact ready'.owed
  case covered => exact covered
  case credit =>
    rw [settled_amount notAta, if_neg notVault]
    exact ready'.credit
  case counted =>
    have sum := UInt64.toNat_add_of_fits ready.counted
    simp only [Pool.claimed]
    omega

/-- What a claim is ready for after another one of the pool, it was ready for before it. -/
theorem ClaimAccounts.Ready.before (same : second.pool = first.pool)
    (ready : first.Ready env world account record vaultAta contributorAta share)
    (paid : first.Paid account record share world middle)
    (ready' : second.Ready env middle account' record' vaultAta' contributorAta' share') :
    account' = account.claimed share ∧ first.contributor ≠ second.contributor ∧
      ∃ vault ata, second.Ready env world account record' vault ata share' ∧
        share.toNat ≤ (second.settled share' first.vaultAta vaultAta).amount.toNat ∧
        account.totalClaimed.toNat + share.toNat + share'.toNat < 2 ^ 64 := by
  have checked' := ready'.checked
  have loaded' := checked'.loaded
  have recorded' := checked'.record
  rw [same] at loaded' recorded'
  rw [loadPool_claimed ready.checked paid, Except.ok.injEq] at loaded'
  subst loaded'
  -- The contributor that claimed first is marked so.
  have differ : first.contributor ≠ second.contributor := by
    intro one
    have stored := (loadContribution_ok.mp recorded').1
    have home := (loadContribution_ok.mp ready.checked.record).2.1
    rw [World.stake, ← one, ← home, paid.contributions, if_pos rfl, Option.some.injEq] at stored
    have unclaimed := ready'.unclaimed
    rw [← stored] at unclaimed
    cases unclaimed
  have away := (contribution_ne ready.checked.record recorded' differ).symm
  -- Both token accounts were there before, with the same owner and mint.
  have vaultAt := checked'.vault
  have ataAt := checked'.ata
  rw [paid.tokens, Option.map_eq_some_iff] at vaultAt ataAt
  obtain ⟨vault, vaultAt, rfl⟩ := vaultAt
  obtain ⟨ata, ataAt, rfl⟩ := ataAt
  have checked : second.Checked env world account record' vault ata := {
    signed := checked'.signed
    loaded := by
      rw [same]
      exact ready.checked.loaded
    record := by
      have stored := checked'.record
      unfold loadContribution at stored ⊢
      rw [paid.contributions, if_neg away] at stored
      exact stored
    buyer := checked'.buyer
    vault := vaultAt
    vaultOwner := checked'.vaultOwner
    vaultMint := checked'.vaultMint
    ata := ataAt
    ataOwner := checked'.ataOwner
    ataMint := checked'.ataMint }
  obtain ⟨vaultAway, notVault, notAta⟩ := ready.checked.apart same differ checked
  obtain ⟨vaultAway', -, -⟩ := checked.apart same.symm differ.symm ready.checked
  have covered := ready.covered
  have covered' := ready'.covered
  have credit' := ready'.credit
  have counted' := ready'.counted
  rw [settled_amount vaultAway] at covered'
  rw [settled_amount notAta, if_neg notVault] at credit'
  have sum := UInt64.toNat_add_of_fits ready.counted
  simp only [Pool.claimed] at counted'
  refine ⟨rfl, differ, vault, ata, ?_, ?_, by omega⟩
  · refine ⟨checked, ready'.finalized, ready'.owner, ready'.unclaimed, ready'.unrefunded,
      ready'.positive, ready'.allocated, ready'.owed, ?_, credit', by omega⟩
    -- A shared vault held both shares, and another one its own.
    split at covered'
    · rename_i shared
      rw [shared, ready.checked.vault, Option.some.injEq] at vaultAt
      subst vaultAt
      have left := UInt64.toNat_sub_add_cancel covered
      omega
    · exact covered'
  · rw [settled_amount vaultAway']
    split
    · rename_i shared
      rw [if_pos shared.symm] at covered'
      rw [← shared, ready.checked.vault, Option.some.injEq] at vaultAt
      subst vaultAt
      have left := UInt64.toNat_sub_add_cancel covered
      have left' := UInt64.toNat_sub_add_cancel (a := vaultAta.amount) (b := share') (by omega)
      omega
    · exact covered

/-- Two claims on a pool that succeed in a row succeed in the other order, and end the same. -/
theorem claim_exchange {last : World} {pool : Pubkey} (firstPool : first.pool = pool)
    (secondPool : second.pool = pool) (one : claim env world first = .ok middle)
    (two : claim env middle second = .ok last) :
    ∃ middle' last', claim env world second = .ok middle' ∧
      claim env middle' first = .ok last' ∧ ∀ address, AgreeAt address last last' := by
  subst firstPool
  obtain ⟨account, record, vaultAta, contributorAta, share, ready, paid⟩ := claim_paid one
  obtain ⟨account', record', vaultAta', contributorAta', share', ready', paid'⟩ := claim_paid two
  obtain ⟨rfl, differ, vault, ata, before, covered, counted⟩ :=
    ready.before secondPool paid ready'
  obtain ⟨middle', taken, beforePaid⟩ := claim_of_ready before
  have after := before.after secondPool.symm differ.symm beforePaid ready covered (by omega)
  obtain ⟨last', takenLast, afterPaid⟩ := claim_of_ready after
  refine ⟨middle', last', taken, takenLast, ?_⟩
  have recorded' := before.checked.record
  rw [secondPool] at recorded'
  have away := contribution_ne ready.checked.record recorded' differ
  intro address
  -- Two records are written once, the pool by both, and each token account is settled by both.
  constructor
  case lamports => rw [paid'.lamports, paid.lamports, afterPaid.lamports, beforePaid.lamports]
  case pool =>
    rw [paid'.pools, paid.pools, afterPaid.pools, beforePaid.pools, secondPool,
      account.claimed_comm share]
    split <;> rfl
  case contribution =>
    rw [paid'.contributions, paid.contributions, afterPaid.contributions, beforePaid.contributions]
    grind
  case token =>
    rw [paid'.tokens, paid.tokens, afterPaid.tokens, beforePaid.tokens, Option.map_map,
      Option.map_map]
    congr 1
    funext held
    exact settled_comm share share' address held
  case info => rw [paid'.info, paid.info, afterPaid.info, beforePaid.info]

end Claims

/-! ### Every order of payouts -/

/-- A pool that pays at a time: finalized, or with refunds allowed. -/
def World.PaysAt (pool : Pubkey) (now : Int64) (world : World) : Prop :=
  ∃ account, world.pools pool = some account ∧
    (account.status = .Finalized ∨ account.PaysRefunds now)

/-- A refund or a claim asked of a pool no earlier than a time. -/
def asksPayFrom (pool : Pubkey) (now : Int64) (action : Action) : Prop :=
  action.instruction.asksPay pool = true ∧ now ≤ action.now

/-- What pays refunds at a time pays them later. -/
theorem Pool.PaysRefunds.mono {account : Pool} {now later : Int64} (pays : account.PaysRefunds now)
    (ordered : now ≤ later) : account.PaysRefunds later := by
  rcases pays with returned | ⟨early, late⟩
  · exact .inl returned
  · exact .inr ⟨early, Int64.le_trans late ordered⟩

section Payouts

variable {env : Env} {pool : Pubkey} {now clock : Int64} {world middle last : World}

/-- A finalized pool pays no refund. -/
theorem refund_unfinalized {accounts : RefundAccounts} {account : Pool}
    (stored : world.pools accounts.pool = some account)
    (taken : refund env world now accounts = .ok last) : account.status ≠ .Finalized := by
  obtain ⟨loaded, record, ready, -⟩ := refund_iff.mp taken
  rw [(loadPool_ok.mp ready.loaded).1, Option.some.injEq] at stored
  subst stored
  -- The status gate lets no finalized pool pass.
  intro finalized
  have allowed := ready.allowed
  simp [Pool.refundAllowed, finalized] at allowed

/-- Only a finalized pool pays claims, and stays so. -/
theorem claim_finalized {accounts : ClaimAccounts} (taken : claim env world accounts = .ok last) :
    ∃ account share, world.pools accounts.pool = some account ∧ account.status = .Finalized ∧
      last.pools accounts.pool = some (account.claimed share) := by
  obtain ⟨account, record, _, _, share, ready, paid⟩ := claim_paid taken
  exact ⟨account, share, (loadPool_ok.mp ready.checked.loaded).1, ready.finalized,
    by rw [paid.pools, if_pos rfl]⟩

/-- What succeeds on some accounts succeeds alike on accounts that are all the same. -/
theorem related_succeeds {outcome other : Except Error World}
    (related : Except.Related (Agree fun _ => True) outcome other) (taken : outcome = .ok last) :
    ∃ alike, other = .ok alike ∧ ∀ address, AgreeAt address last alike := by
  rw [taken] at related
  obtain ⟨alike, also, equal⟩ := related.succeeds
  exact ⟨alike, also, fun address => equal address trivial⟩

/-- A payout reads nothing but accounts. -/
theorem payout_respects {other : World} {action : Action} (asks : asksPayFrom pool now action)
    (same : ∀ address, AgreeAt address world other) (taken : step env world action = .ok last) :
    ∃ alike, step env other action = .ok alike ∧ ∀ address, AgreeAt address last alike := by
  obtain ⟨time, instruction⟩ := action
  have agree : Agree (fun _ => True) world other := fun address _ => same address
  -- A payout depends on its accounts alone, and the two states agree on all.
  cases instruction with
  | refund accounts => exact related_succeeds (refund_dependence agree fun _ _ => trivial) taken
  | claim accounts => exact related_succeeds (claim_dependence agree fun _ _ => trivial) taken
  | _ => cases asks.1

/-- A pool that pays goes on paying. -/
theorem payout_keeps_paying {action : Action} (asks : asksPayFrom pool now action)
    (taken : step env world action = .ok last) : last.PaysAt pool now := by
  obtain ⟨time, instruction⟩ := action
  obtain ⟨asks, -⟩ := asks
  -- A refund leaves the pool refundable, and a claim leaves it finalized.
  cases instruction with
  | refund accounts =>
    simp only [Instruction.asksPay, decide_eq_true_eq] at asks
    obtain ⟨account, record, -, rfl⟩ := refund_iff.mp taken
    exact ⟨account.repaid record.amount, by rw [repaid_pools, if_pos asks.symm], .inr (.inl rfl)⟩
  | claim accounts =>
    simp only [Instruction.asksPay, decide_eq_true_eq] at asks
    obtain ⟨account, share, -, finalized, stored⟩ := claim_finalized taken
    rw [asks] at stored
    exact ⟨_, stored, .inl finalized⟩
  | _ => cases asks

/-- Two payouts that succeed in a row succeed in the other order, and end the same. -/
theorem payout_exchange {first second : Action} (pays : world.PaysAt pool now)
    (asks : asksPayFrom pool now first) (asks' : asksPayFrom pool now second)
    (one : step env world first = .ok middle) (two : step env middle second = .ok last) :
    ∃ middle' last', step env world second = .ok middle' ∧ step env middle' first = .ok last' ∧
      ∀ address, AgreeAt address last last' := by
  obtain ⟨time, instruction⟩ := first
  obtain ⟨clock, instruction'⟩ := second
  obtain ⟨asks, -⟩ := asks
  obtain ⟨asks', later⟩ := asks'
  obtain ⟨account, stored, pays⟩ := pays
  cases instruction with
  | refund accounts =>
    simp only [Instruction.asksPay, decide_eq_true_eq] at asks
    cases instruction' with
    | refund accounts' =>
      simp only [Instruction.asksPay, decide_eq_true_eq] at asks'
      apply refund_exchange asks asks' _ one two
      intro found same
      rw [stored, Option.some.injEq] at same
      subst same
      rw [← asks] at stored
      have unfinalized := refund_unfinalized stored one
      exact Pool.refundAllowed_iff.mpr ((pays.resolve_left unfinalized).mono later)
    | claim accounts' =>
      simp only [Instruction.asksPay, decide_eq_true_eq] at asks'
      -- A refund leaves the pool refundable, and no claim succeeds on it.
      obtain ⟨before, record, -, rfl⟩ := refund_iff.mp one
      obtain ⟨claimed, share, found, finalized, -⟩ := claim_finalized two
      rw [repaid_pools, asks, asks', if_pos rfl, Option.some.injEq] at found
      rw [← found] at finalized
      cases finalized
    | _ => cases asks'
  | claim accounts =>
    simp only [Instruction.asksPay, decide_eq_true_eq] at asks
    cases instruction' with
    | refund accounts' =>
      simp only [Instruction.asksPay, decide_eq_true_eq] at asks'
      -- A claim leaves the pool finalized, and it pays no refund.
      obtain ⟨before, share, -, finalized, found⟩ := claim_finalized one
      rw [asks, ← asks'] at found
      exact (refund_unfinalized found two finalized).elim
    | claim accounts' =>
      simp only [Instruction.asksPay, decide_eq_true_eq] at asks'
      exact claim_exchange asks asks' one two
    | _ => cases asks'
  | _ => cases asks

/-- The payouts of a pool commute. -/
theorem payouts_commuting (env : Env) (pool : Pubkey) (now : Int64) :
    Machine.Commuting (step env) (fun left right => ∀ address, AgreeAt address left right)
      (World.PaysAt pool now) (asksPayFrom pool now) where
  -- Agreeing everywhere is agreeing at each address.
  equivalence := {
    refl := fun world address => (agreeAt_equivalence address).refl world
    symm := fun same address => (agreeAt_equivalence address).symm (same address)
    trans := fun one two address =>
      (agreeAt_equivalence address).trans (one address) (two address) }
  respects := fun asks same taken => payout_respects asks same taken
  kept := fun _ asks taken => payout_keeps_paying asks taken
  exchange := fun pays asks asks' one two => payout_exchange pays asks asks' one two

end Payouts

/--
The order of payouts does not matter.

A series of refunds of a pool or of claims on it succeeds in every order, and all end the same.
-/
theorem payouts_commute {env : Env} {world final : World} {pool : Pubkey} {now : Int64}
    (pays : world.PaysAt pool now) {payouts reordered : List Action}
    (asks : ∀ action ∈ payouts, asksPayFrom pool now action)
    (succeeded : Machine.exec (step env) world payouts = .ok final)
    (permuted : payouts.Perm reordered) :
    ∃ other, Machine.exec (step env) world reordered = .ok other ∧
      ∀ address, AgreeAt address final other :=
  (payouts_commuting env pool now).exec_perm permuted asks pays succeeded

/-- The two contributors of the sample raise are paid back in either order. -/
theorem payouts_commute_sample : ∃ final other,
    Machine.exec (step Sample.env) (Sample.reach Sample.raise)
      [refundCall Sample.pool Sample.alice 150, refundCall Sample.pool Sample.bob 151] = .ok final ∧
    Machine.exec (step Sample.env) (Sample.reach Sample.raise)
      [refundCall Sample.pool Sample.bob 151, refundCall Sample.pool Sample.alice 150] = .ok other ∧
    ∀ address, AgreeAt address final other := by
  have live : ((Sample.reach Sample.raise).pools Sample.pool).any (fun account =>
      account.status = .Open ∧ account.graceEndsAt ≤ 150) = true := by decide +kernel
  obtain ⟨account, stored, late⟩ := (Option.any_eq_true _ _).mp live
  simp only [decide_eq_true_eq] at late
  have paid : (Machine.exec (step Sample.env) (Sample.reach Sample.raise)
      [refundCall Sample.pool Sample.alice 150, refundCall Sample.pool Sample.bob 151]).isOk
        = true := by decide +kernel
  obtain ⟨final, succeeded⟩ := Machine.exists_of_isOk paid
  -- The grace period of the pool is over by then.
  have pays : World.PaysAt Sample.pool 150 (Sample.reach Sample.raise) :=
    ⟨account, stored, .inr (.inr ⟨.inl late.1, late.2⟩)⟩
  obtain ⟨other, reordered, same⟩ := payouts_commute pays
    (by simp [asksPayFrom, refundCall, Instruction.asksPay]) succeeded (List.Perm.swap _ _ [])
  exact ⟨final, other, succeeded, reordered, same⟩

end Batchit
