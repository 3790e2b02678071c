import Batchit.Layout
import Batchit.Token

/-! The accounts a call reads and writes, and how lamports move between them. -/

namespace Batchit

/-- The program owning an account, and its bytes. -/
structure AccountInfo where
  owner : Pubkey
  data : List UInt8
  deriving DecidableEq, Repr

/--
The state of every account the program can be handed.

Pools, contributions and token accounts are held decoded.
The bytes of any other account are held as they are, a mint's among them, whose supply nothing here reads.
-/
structure World where
  lamports : Pubkey → UInt64
  pools : Pubkey → Option Pool
  contributions : Store Pubkey Contribution
  tokens : Tokens
  info : Pubkey → AccountInfo

namespace World

/-- Overwrite one account's lamports. -/
def setLamports (world : World) (address : Pubkey) (amount : UInt64) : World :=
  { world with lamports := Function.update world.lamports address amount }

/-- Write one pool account, or remove it. -/
def setPool (world : World) (address : Pubkey) (pool : Option Pool) : World :=
  { world with pools := Function.update world.pools address pool }

/-- Write one contribution account. -/
def setContribution (world : World) (address : Pubkey) (contribution : Contribution) : World :=
  { world with contributions := world.contributions.insert address contribution }

/-- Replace the token accounts. -/
def setTokens (world : World) (tokens : Tokens) : World :=
  { world with tokens }

/-- Write the owner and bytes of one other account. -/
def setInfo (world : World) (address : Pubkey) (info : AccountInfo) : World :=
  { world with info := Function.update world.info address info }

/-- The contribution account of one contributor in one pool, if there is one. -/
def stake (world : World) (pool contributor : Pubkey) : Option Contribution :=
  world.contributions.lookup (.contribution pool contributor)

/--
The bytes of an account, whatever it is.

Of a token account the mint, the owner and the amount stand in front.
Nothing here reads what follows them.
-/
def data (world : World) (encoding : Encoding) (address : Pubkey) : List UInt8 :=
  match world.pools address, world.contributions.lookup address, world.tokens.lookup address with
  | some pool, _, _ => pool.serialize encoding
  | none, some contribution, _ => contribution.serialize encoding
  | none, none, some account =>
    [Borsh.pubkey (encoding.address account.mint), Borsh.pubkey (encoding.address account.owner),
      Borsh.u64 account.amount, (world.info address).data.drop 72].flatten
  | none, none, none => (world.info address).data

section Fields

variable (world : World) (address : Pubkey)

/-- A balance is written at its own address. -/
@[simp] theorem setLamports_lamports (amount : UInt64) :
    (world.setLamports address amount).lamports = Function.update world.lamports address amount :=
  rfl

/-- A balance that is written leaves all pools alone. -/
@[simp] theorem setLamports_pools (amount : UInt64) :
    (world.setLamports address amount).pools = world.pools := rfl

/-- A balance that is written leaves all contributions alone. -/
@[simp] theorem setLamports_contributions (amount : UInt64) :
    (world.setLamports address amount).contributions = world.contributions := rfl

/-- A balance that is written leaves all token accounts alone. -/
@[simp] theorem setLamports_tokens (amount : UInt64) :
    (world.setLamports address amount).tokens = world.tokens := rfl

/-- A balance that is written leaves all data alone. -/
@[simp] theorem setLamports_info (amount : UInt64) :
    (world.setLamports address amount).info = world.info := rfl

/-- A pool account that is written leaves all lamports alone. -/
@[simp] theorem setPool_lamports (pool : Option Pool) :
    (world.setPool address pool).lamports = world.lamports := rfl

/-- A pool account is written at its own address. -/
@[simp] theorem setPool_pools (pool : Option Pool) :
    (world.setPool address pool).pools = Function.update world.pools address pool := rfl

/-- A pool account that is written leaves all contributions alone. -/
@[simp] theorem setPool_contributions (pool : Option Pool) :
    (world.setPool address pool).contributions = world.contributions := rfl

/-- A pool account that is written leaves all token accounts alone. -/
@[simp] theorem setPool_tokens (pool : Option Pool) :
    (world.setPool address pool).tokens = world.tokens := rfl

/-- A pool account that is written leaves all data alone. -/
@[simp] theorem setPool_info (pool : Option Pool) :
    (world.setPool address pool).info = world.info := rfl

/-- A contribution account that is written leaves all lamports alone. -/
@[simp] theorem setContribution_lamports (contribution : Contribution) :
    (world.setContribution address contribution).lamports = world.lamports := rfl

/-- A contribution account that is written leaves all pools alone. -/
@[simp] theorem setContribution_pools (contribution : Contribution) :
    (world.setContribution address contribution).pools = world.pools := rfl

/-- A contribution account is written at its own address. -/
@[simp] theorem setContribution_contributions (contribution : Contribution) :
    (world.setContribution address contribution).contributions
      = world.contributions.insert address contribution := rfl

/-- A contribution account that is written leaves all token accounts alone. -/
@[simp] theorem setContribution_tokens (contribution : Contribution) :
    (world.setContribution address contribution).tokens = world.tokens := rfl

/-- A contribution account that is written leaves all data alone. -/
@[simp] theorem setContribution_info (contribution : Contribution) :
    (world.setContribution address contribution).info = world.info := rfl

/-- Replacing the token accounts leaves all lamports alone. -/
@[simp] theorem setTokens_lamports (tokens : Tokens) :
    (world.setTokens tokens).lamports = world.lamports := rfl

/-- Replacing the token accounts leaves all pools alone. -/
@[simp] theorem setTokens_pools (tokens : Tokens) :
    (world.setTokens tokens).pools = world.pools := rfl

/-- Replacing the token accounts leaves all contributions alone. -/
@[simp] theorem setTokens_contributions (tokens : Tokens) :
    (world.setTokens tokens).contributions = world.contributions := rfl

/-- The token accounts are replaced. -/
@[simp] theorem setTokens_tokens (tokens : Tokens) :
    (world.setTokens tokens).tokens = tokens := rfl

/-- Replacing the token accounts leaves all data alone. -/
@[simp] theorem setTokens_info (tokens : Tokens) :
    (world.setTokens tokens).info = world.info := rfl

/-- An account of another program that is written leaves all lamports alone. -/
@[simp] theorem setInfo_lamports (info : AccountInfo) :
    (world.setInfo address info).lamports = world.lamports := rfl

/-- An account of another program that is written leaves all pools alone. -/
@[simp] theorem setInfo_pools (info : AccountInfo) :
    (world.setInfo address info).pools = world.pools := rfl

/-- An account of another program that is written leaves all contributions alone. -/
@[simp] theorem setInfo_contributions (info : AccountInfo) :
    (world.setInfo address info).contributions = world.contributions := rfl

/-- An account of another program that is written leaves all token accounts alone. -/
@[simp] theorem setInfo_tokens (info : AccountInfo) :
    (world.setInfo address info).tokens = world.tokens := rfl

/-- An account of another program is written at its own address. -/
@[simp] theorem setInfo_info (info : AccountInfo) :
    (world.setInfo address info).info = Function.update world.info address info := rfl

end Fields

/-- Move lamports between accounts, refusing with one error when short and another when full. -/
def moveLamports (world : World) (short full : Error) (source target : Pubkey) (amount : UInt64) :
    Except Error World :=
  match (world.lamports source).checkedSub amount with
  | none => .error short
  | some rest =>
    let debited := world.setLamports source rest
    match (debited.lamports target).checkedAdd amount with
    | none => .error full
    | some sum => .ok (debited.setLamports target sum)

/-- A transfer by the system program. -/
def systemTransfer (world : World) : Pubkey → Pubkey → UInt64 → Except Error World :=
  world.moveLamports (.runtime .InsufficientFunds) (.runtime .ArithmeticOverflow)

/-- The program's own edit of two lamport balances, both checked. -/
def editLamports (world : World) : Pubkey → Pubkey → UInt64 → Except Error World :=
  world.moveLamports (.batchit .MathOverflow) (.batchit .MathOverflow)

/-- Pay accounts out of one of them, in order, refusing with one error whatever goes wrong. -/
def payOut (world : World) (refused : Error) (payer : Pubkey) :
    List (Pubkey × UInt64) → Except Error World
  | [] => .ok world
  | (target, amount) :: rest => do
    let paid ← world.moveLamports refused refused payer target amount
    paid.payOut refused payer rest

/-- Lamports moved between two accounts leave the source and reach the target exactly. -/
theorem moveLamports_ok {world after : World} {short full : Error} {source target : Pubkey}
    {amount : UInt64} (differ : source ≠ target) :
    world.moveLamports short full source target amount = .ok after ↔
      ∃ rest sum : UInt64, rest.toNat + amount.toNat = (world.lamports source).toNat ∧
        sum.toNat = (world.lamports target).toNat + amount.toNat ∧
        after = (world.setLamports source rest).setLamports target sum := by
  -- The target's balance is read after the debit, which touched only the source.
  have untouched (rest : UInt64) :
      (world.setLamports source rest).lamports target = world.lamports target := by
    simp [Ne.symm differ]
  unfold moveLamports
  cases debited : (world.lamports source).checkedSub amount with
  | none =>
    -- Too little on the source: no remainder adds back to its balance.
    simp only [reduceCtorEq, false_iff, not_exists, not_and]
    intro rest sum exact
    rw [UInt64.checkedSub_eq_some.mpr exact] at debited
    cases debited
  | some rest =>
    have left := UInt64.checkedSub_eq_some.mp debited
    simp only [untouched]
    cases credited : (world.lamports target).checkedAdd amount with
    | none =>
      -- Too much for the target: no word stands for the sum.
      simp only [reduceCtorEq, false_iff, not_exists, not_and]
      intro _ sum _ exact
      rw [UInt64.checkedAdd_eq_some.mpr exact] at credited
      cases credited
    | some sum =>
      have reached := UInt64.checkedAdd_eq_some.mp credited
      simp only [Except.ok.injEq]
      constructor
      · intro written
        subst written
        exact ⟨rest, sum, left, reached, rfl⟩
      · intro written
        obtain ⟨otherRest, otherSum, otherLeft, otherReached, rfl⟩ := written
        -- Both pairs of words stand for the same two numbers.
        rw [UInt64.toNat_inj.mp (show rest.toNat = otherRest.toNat by omega),
          UInt64.toNat_inj.mp (show sum.toNat = otherSum.toNat by omega)]

/-- Lamports moved from one account to another, and nothing else changed. -/
structure Moved (source target : Pubkey) (amount : UInt64) (before after : World) : Prop where
  left : (after.lamports source).toNat + amount.toNat = (before.lamports source).toNat
  reached : (after.lamports target).toNat = (before.lamports target).toNat + amount.toNat
  others : ∀ address, address ≠ source → address ≠ target →
    after.lamports address = before.lamports address
  pools : after.pools = before.pools
  contributions : after.contributions = before.contributions
  tokens : after.tokens = before.tokens
  info : after.info = before.info

/-- A move that is not refused moves the lamports. -/
theorem moveLamports_moved {world after : World} {short full : Error} {source target : Pubkey}
    {amount : UInt64} (differ : source ≠ target)
    (moved : world.moveLamports short full source target amount = .ok after) :
    Moved source target amount world after := by
  obtain ⟨rest, sum, left, reached, rfl⟩ := (moveLamports_ok differ).mp moved
  -- Two balances are overwritten, and no other account or field.
  exact {
    left := by simpa [Function.update_of_ne differ] using left
    reached := by simpa using reached
    others := fun address notSource notTarget => by simp [notSource, notTarget]
    pools := rfl
    contributions := rfl
    tokens := rfl
    info := rfl }

/-- Lamports move exactly when the source covers the amount and the target has room for it. -/
theorem moveLamports_succeeds {world : World} {short full : Error} {source target : Pubkey}
    {amount : UInt64} (differ : source ≠ target) :
    (∃ after, world.moveLamports short full source target amount = .ok after) ↔
      amount.toNat ≤ (world.lamports source).toNat ∧
      (world.lamports target).toNat + amount.toNat < 2 ^ 64 := by
  constructor
  · intro taken
    obtain ⟨after, moved⟩ := taken
    obtain ⟨rest, sum, left, reached, -⟩ := (moveLamports_ok differ).mp moved
    have width := sum.toNat_lt
    omega
  · intro fits
    -- The two balances after the move are words, and the move writes them.
    obtain ⟨rest, -, left⟩ := UInt64.checkedSub_of_le fits.1
    obtain ⟨sum, -, reached⟩ := UInt64.checkedAdd_of_lt fits.2
    exact ⟨_, (moveLamports_ok differ).mpr ⟨rest, sum, left, reached, rfl⟩⟩

/-- A move leaves nobody but its source with less. -/
theorem Moved.le {source target address : Pubkey} {amount : UInt64} {before after : World}
    (moved : Moved source target amount before after) (other : address ≠ source) :
    (before.lamports address).toNat ≤ (after.lamports address).toNat := by
  -- The target gains, and every other balance stays.
  by_cases same : address = target
  · subst same
    rw [moved.reached]
    exact Nat.le_add_right _ _
  · rw [moved.others address other same]

/-- Lamports left one account for others, and nothing else changed. -/
structure PaidOut (payer : Pubkey) (targets : List Pubkey) (amount : Nat) (before after : World) :
    Prop where
  left : (after.lamports payer).toNat + amount = (before.lamports payer).toNat
  more : ∀ address, address ≠ payer →
    (before.lamports address).toNat ≤ (after.lamports address).toNat
  others : ∀ address, address ≠ payer → address ∉ targets →
    after.lamports address = before.lamports address
  pools : after.pools = before.pools
  contributions : after.contributions = before.contributions
  tokens : after.tokens = before.tokens
  info : after.info = before.info

/-- Payments that are not refused leave the payer with less by their sum. -/
theorem payOut_paidOut {payer : Pubkey} {refused : Error} {payments : List (Pubkey × UInt64)}
    {world after : World} (differ : ∀ payment ∈ payments, payer ≠ payment.1)
    (paid : world.payOut refused payer payments = .ok after) :
    PaidOut payer (payments.map Prod.fst) (payments.map fun payment => payment.2.toNat).sum world
      after := by
  -- Each payment is one move, and the rest start from where it leaves the accounts.
  induction payments generalizing world with
  | nil =>
    obtain rfl := Except.ok.inj paid
    exact {
      left := Nat.add_zero _
      more := fun _ _ => Nat.le_refl _
      others := fun _ _ _ => rfl
      pools := rfl
      contributions := rfl
      tokens := rfl
      info := rfl }
  | cons payment rest ih =>
    obtain ⟨target, amount⟩ := payment
    obtain ⟨middle, first, later⟩ := bind_eq_ok.mp paid
    have moved := moveLamports_moved (differ _ List.mem_cons_self) first
    have after := ih (fun payment member => differ payment (List.mem_cons_of_mem _ member)) later
    have left := after.left
    have out := moved.left
    exact {
      left := by
        simp only [List.map_cons, List.sum_cons]
        omega
      more := fun address other => (moved.le other).trans (after.more address other)
      others := fun address notPayer unpaid => by
        simp only [List.map_cons, List.mem_cons, not_or] at unpaid
        rw [after.others address notPayer unpaid.2, moved.others address notPayer unpaid.1]
      pools := after.pools.trans moved.pools
      contributions := after.contributions.trans moved.contributions
      tokens := after.tokens.trans moved.tokens
      info := after.info.trans moved.info }

end World

end Batchit
