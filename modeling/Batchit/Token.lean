import Batchit.State
import Batchit.Lib.Checked
import Batchit.Lib.Store

/-! Token accounts, and the token program's instructions on them. -/

namespace Batchit

/--
A token account: what it holds, and who may move it.

Only its owner's signature approves a delegate, and this program gives its own to no approval.
-/
structure TokenAccount where
  mint : Pubkey
  owner : Pubkey
  amount : UInt64
  /-- Who may move tokens of the account on its owner's behalf. -/
  delegate : Option Pubkey := none
  /-- How many of them the delegate may still move. -/
  delegatedAmount : UInt64 := 0
  unapproved : owner.isProgramDerived = true → delegate = none := by exact fun _ => rfl
  deriving DecidableEq, Repr

namespace TokenAccount

/-- The tokens a delegate may move off an account without its owner. -/
def approved (account : TokenAccount) : Nat :=
  account.delegate.elim 0 fun _ => account.delegatedAmount.toNat

/-- An account with so much of its approval left, and no delegate once there is nothing left. -/
def withApproval (account : TokenAccount) (rest : UInt64) : TokenAccount :=
  { account with
    delegate := if rest = 0 then none else account.delegate
    delegatedAmount := rest
    unapproved := fun derived => by rw [account.unapproved derived, ite_self] }

/-- Nothing is approved on an account this program signs for. -/
theorem approved_of_derived {account : TokenAccount}
    (derived : account.owner.isProgramDerived = true) : account.approved = 0 := by
  rw [approved, account.unapproved derived]
  rfl

/-- What is left of an approval is what a delegate may still move. -/
theorem approved_withApproval {account : TokenAccount} {authority : Pubkey}
    (delegate : account.delegate = some authority) (rest : UInt64) :
    (account.withApproval rest).approved = rest.toNat := by
  simp only [approved, withApproval, delegate]
  -- An approval that is used up is gone, and was for nothing more.
  split
  · rename_i nothing
    rw [nothing]
    rfl
  · rfl

end TokenAccount

/-- Every token account, by address. -/
abbrev Tokens := Store Pubkey TokenAccount

namespace Tokens

/-- What one account adds to the holdings of an owner in a mint. -/
def held (owner mint : Pubkey) (account : TokenAccount) : Nat :=
  if account.owner = owner ∧ account.mint = mint then account.amount.toNat else 0

/-- Everything an owner holds in a mint, over all of its token accounts. -/
def holdings (tokens : Tokens) (owner mint : Pubkey) : Nat :=
  Store.total (held owner mint) tokens

/-- What one account adds to the supply of a mint. -/
def issued (mint : Pubkey) (account : TokenAccount) : Nat :=
  if account.mint = mint then account.amount.toNat else 0

/-- Everything issued of a mint. -/
def supply (tokens : Tokens) (mint : Pubkey) : Nat :=
  Store.total (issued mint) tokens

/-- The amount an address holds, zero when there is no token account. -/
def balance (tokens : Tokens) (address : Pubkey) : Nat :=
  (tokens.lookup address).elim 0 fun account => account.amount.toNat

/-- Move tokens between two accounts of one mint, signed for by the source's owner. -/
def transfer (tokens : Tokens) (source destination authority : Pubkey) (amount : UInt64) :
    Except Error Tokens := do
  let paying ← found (tokens.lookup source) .AccountNotInitialized
  let paid ← found (tokens.lookup destination) .AccountNotInitialized
  constraint (paying.mint = paid.mint) .MintMismatch
  constraint (paying.owner = authority) .OwnerMismatch
  let rest ← found (paying.amount.checkedSub amount) .InsufficientFunds
  -- A transfer to itself is checked and then changes nothing.
  if source = destination then
    return tokens
  let sum ← found (paid.amount.checkedAdd amount) .ArithmeticOverflow
  return (tokens.insert source { paying with amount := rest }).insert destination
    { paid with amount := sum }

/-- Destroy tokens of an account of the named mint, signed for by its owner. -/
def burn (tokens : Tokens) (address mint authority : Pubkey) (amount : UInt64) :
    Except Error Tokens := do
  let account ← found (tokens.lookup address) .AccountNotInitialized
  constraint (account.mint = mint) .MintMismatch
  constraint (account.owner = authority) .OwnerMismatch
  let rest ← found (account.amount.checkedSub amount) .InsufficientFunds
  return tokens.insert address { account with amount := rest }

/-- A transfer signed for by the source's delegate, within its approval, or by its owner. -/
def transferBy (tokens : Tokens) (source destination authority : Pubkey) (amount : UInt64) :
    Except Error Tokens := do
  let account ← found (tokens.lookup source) .AccountNotInitialized
  if account.delegate = some authority then
    let rest ← found (account.delegatedAmount.checkedSub amount) .InsufficientFunds
    -- A transfer to itself uses up nothing of the approval.
    let used := if source = destination then tokens
      else tokens.insert source (account.withApproval rest)
    used.transfer source destination account.owner amount
  else
    tokens.transfer source destination authority amount

/-- A burn signed for by the account's delegate, within its approval, or by its owner. -/
def burnBy (tokens : Tokens) (address mint authority : Pubkey) (amount : UInt64) :
    Except Error Tokens := do
  let account ← found (tokens.lookup address) .AccountNotInitialized
  if account.delegate = some authority then
    let rest ← found (account.delegatedAmount.checkedSub amount) .InsufficientFunds
    Tokens.burn (tokens.insert address (account.withApproval rest)) address mint account.owner
      amount
  else
    tokens.burn address mint authority amount

/-- A transfer between two accounts moves exactly the amount, and only with the owner's signature. -/
theorem transfer_ok {tokens after : Tokens} {source destination authority : Pubkey}
    {amount : UInt64} (differ : source ≠ destination) :
    tokens.transfer source destination authority amount = .ok after ↔
      ∃ (paying paid : TokenAccount) (rest sum : UInt64),
        tokens.lookup source = some paying ∧
        tokens.lookup destination = some paid ∧
        paying.mint = paid.mint ∧
        paying.owner = authority ∧
        rest.toNat + amount.toNat = paying.amount.toNat ∧
        sum.toNat = paid.amount.toNat + amount.toNat ∧
        after = (tokens.insert source { paying with amount := rest }).insert destination
          { paid with amount := sum } := by
  -- Every check is one conjunct, and the two writes are the result.
  simp only [transfer, bind_eq_ok, found_eq_ok, constraint_eq_ok, exists_const, if_neg differ,
    pure_eq_ok, UInt64.checkedSub_eq_some, UInt64.checkedAdd_eq_some]
  constructor
  · intro taken
    obtain ⟨paying, payingAt, paid, paidAt, sameMint, owned, rest, left, sum, reached, rfl⟩ := taken
    exact ⟨paying, paid, rest, sum, payingAt, paidAt, sameMint, owned, left, reached, rfl⟩
  · intro facts
    obtain ⟨paying, paid, rest, sum, payingAt, paidAt, sameMint, owned, left, reached, rfl⟩ := facts
    exact ⟨paying, payingAt, paid, paidAt, sameMint, owned, rest, left, sum, reached, rfl⟩

/-- A transfer from an account to itself changes nothing. -/
theorem transfer_self {tokens after : Tokens} {address authority : Pubkey} {amount : UInt64}
    (moved : tokens.transfer address address authority amount = .ok after) : after = tokens := by
  -- The checks are made all the same, and then the tokens returned as they are.
  simp only [transfer, bind_eq_ok, if_true, pure_eq_ok] at moved
  obtain ⟨_, _, _, _, _, _, _, _, _, _, same⟩ := moved
  exact same.symm

/-- An account that gains in a transfer into it is not the source, and gains the whole amount. -/
theorem transfer_credited {tokens after : Tokens} {source destination authority : Pubkey}
    {amount : UInt64} {credited reloaded : TokenAccount}
    (moved : tokens.transfer source destination authority amount = .ok after)
    (stored : tokens.lookup destination = some credited)
    (storedAfter : after.lookup destination = some reloaded)
    (gained : 0 < reloaded.amount.saturatingSub credited.amount) :
    source ≠ destination ∧ reloaded.amount.saturatingSub credited.amount = amount := by
  have gained : 0 < (reloaded.amount.saturatingSub credited.amount).toNat :=
    UInt64.lt_iff_toNat_lt.mp gained
  rw [UInt64.toNat_saturatingSub] at gained
  -- A transfer to itself would have left the balance alone.
  have differ : source ≠ destination := by
    intro same
    rw [same] at moved
    rw [transfer_self moved, stored, Option.some.injEq] at storedAfter
    subst storedAfter
    omega
  refine ⟨differ, ?_⟩
  -- So it was credited by the amount, and the difference is that amount.
  obtain ⟨paying, paid, rest, sum, -, paidAt, -, -, -, reached, rfl⟩ := (transfer_ok differ).mp moved
  rw [AList.lookup_insert, Option.some.injEq] at storedAfter
  rw [stored, Option.some.injEq] at paidAt
  subst storedAfter paidAt
  rw [← UInt64.toNat_inj, UInt64.toNat_saturatingSub]
  simp only
  omega

/-- A burn takes exactly the amount from an account of the named mint, signed for by its owner. -/
theorem burn_ok {tokens after : Tokens} {address mint authority : Pubkey} {amount : UInt64} :
    tokens.burn address mint authority amount = .ok after ↔
      ∃ (account : TokenAccount) (rest : UInt64),
        tokens.lookup address = some account ∧
        account.mint = mint ∧
        account.owner = authority ∧
        rest.toNat + amount.toNat = account.amount.toNat ∧
        after = tokens.insert address { account with amount := rest } := by
  -- Every check is one conjunct, and the write is the result.
  simp only [burn, bind_eq_ok, found_eq_ok, constraint_eq_ok, exists_const, pure_eq_ok,
    UInt64.checkedSub_eq_some]
  constructor
  · intro taken
    obtain ⟨account, stored, sameMint, owned, rest, left, rfl⟩ := taken
    exact ⟨account, rest, stored, sameMint, owned, left, rfl⟩
  · intro facts
    obtain ⟨account, rest, stored, sameMint, owned, left, rfl⟩ := facts
    exact ⟨account, stored, sameMint, owned, rest, left, rfl⟩

/-- A transfer by anyone is one by the owner, one to itself, or one that uses up an approval. -/
theorem transferBy_ok {tokens after : Tokens} {source destination authority : Pubkey}
    {amount : UInt64} (moved : tokens.transferBy source destination authority amount = .ok after) :
    tokens.transfer source destination authority amount = .ok after ∨ after = tokens ∨
      ∃ (account : TokenAccount) (rest : UInt64),
        tokens.lookup source = some account ∧
        account.delegate = some authority ∧
        rest.toNat + amount.toNat = account.delegatedAmount.toNat ∧
        Tokens.transfer (tokens.insert source (account.withApproval rest)) source destination
          account.owner amount = .ok after := by
  simp only [transferBy, bind_eq_ok, found_eq_ok] at moved
  obtain ⟨account, stored, moved⟩ := moved
  -- The delegate is asked after first, and only then the owner.
  split at moved
  · rename_i delegate
    simp only [bind_eq_ok, found_eq_ok, UInt64.checkedSub_eq_some] at moved
    obtain ⟨rest, left, moved⟩ := moved
    split at moved
    · rename_i same
      subst same
      exact .inr (.inl (transfer_self moved))
    · exact .inr (.inr ⟨account, rest, stored, delegate, left, moved⟩)
  · exact .inl moved

/-- A burn by anyone is one by the owner, or one that uses up an approval. -/
theorem burnBy_ok {tokens after : Tokens} {address mint authority : Pubkey} {amount : UInt64}
    (burnt : tokens.burnBy address mint authority amount = .ok after) :
    tokens.burn address mint authority amount = .ok after ∨
      ∃ (account : TokenAccount) (rest : UInt64),
        tokens.lookup address = some account ∧
        account.delegate = some authority ∧
        rest.toNat + amount.toNat = account.delegatedAmount.toNat ∧
        Tokens.burn (tokens.insert address (account.withApproval rest)) address mint account.owner
          amount = .ok after := by
  simp only [burnBy, bind_eq_ok, found_eq_ok] at burnt
  obtain ⟨account, stored, burnt⟩ := burnt
  -- The delegate is asked after first, and only then the owner.
  split at burnt
  · rename_i delegate
    simp only [bind_eq_ok, found_eq_ok, UInt64.checkedSub_eq_some] at burnt
    obtain ⟨rest, left, burnt⟩ := burnt
    exact .inr ⟨account, rest, stored, delegate, left, burnt⟩
  · exact .inl burnt

end Tokens

/-- The token instructions anyone may send, with the authority that signs each. -/
inductive TokenInstruction where
  | initializeAccount (address mint owner : Pubkey)
  | mintTo (address : Pubkey) (amount : UInt64)
  | transfer (source destination authority : Pubkey) (amount : UInt64)
  | burn (address mint authority : Pubkey) (amount : UInt64)
  | approve (address delegate authority : Pubkey) (amount : UInt64)
  | revoke (address authority : Pubkey)
  | setOwner (address authority owner : Pubkey)
  | closeAccount (address : Pubkey)
  deriving DecidableEq, Repr

/-- The accounts whose signature a token instruction needs, a mint's or a closing authority aside. -/
def TokenInstruction.signers : TokenInstruction → List Pubkey
  | .initializeAccount address _ _ => [address]
  | .transfer _ _ authority _ => [authority]
  | .burn _ _ authority _ => [authority]
  | .approve _ _ authority _ => [authority]
  | .revoke _ authority => [authority]
  | .setOwner _ authority _ => [authority]
  | .mintTo _ _ | .closeAccount _ => []

/-- The token accounts that a token instruction can change. -/
def TokenInstruction.accounts : TokenInstruction → List Pubkey
  | .transfer source destination _ _ => [source, destination]
  | .initializeAccount address _ _ | .mintTo address _ | .burn address _ _ _
  | .approve address _ _ _ | .revoke address _ | .setOwner address _ _ | .closeAccount address =>
    [address]

namespace Tokens

/--
Process one token instruction sent from outside this program.

An authority from outside is one this program does not sign for.
-/
def process (tokens : Tokens) : TokenInstruction → Except Error Tokens
  | .initializeAccount address mint owner => do
    constraint (address.isProgramDerived = false) .MissingRequiredSignature
    constraint (tokens.lookup address = none) .AccountAlreadyInUse
    return tokens.insert address { mint, owner, amount := 0 }
  | .mintTo address amount => do
    let account ← found (tokens.lookup address) .AccountNotInitialized
    -- The mint records its supply in 64 bits and refuses to pass it.
    constraint (tokens.supply account.mint + amount.toNat < 2 ^ 64) .ArithmeticOverflow
    let sum ← found (account.amount.checkedAdd amount) .ArithmeticOverflow
    return tokens.insert address { account with amount := sum }
  | .transfer source destination authority amount => do
    constraint (authority.isProgramDerived = false) .MissingRequiredSignature
    tokens.transferBy source destination authority amount
  | .burn address mint authority amount => do
    constraint (authority.isProgramDerived = false) .MissingRequiredSignature
    tokens.burnBy address mint authority amount
  | .approve address delegate authority amount => do
    let account ← found (tokens.lookup address) .AccountNotInitialized
    constraint (account.owner = authority) .OwnerMismatch
    if outside : account.owner.isProgramDerived = false then
      return tokens.insert address { account with
        delegate := some delegate
        delegatedAmount := amount
        unapproved := fun derived => by rw [outside] at derived; cases derived }
    else
      .error (.runtime .MissingRequiredSignature)
  | .revoke address authority => do
    constraint (authority.isProgramDerived = false) .MissingRequiredSignature
    let account ← found (tokens.lookup address) .AccountNotInitialized
    constraint (account.owner = authority) .OwnerMismatch
    return tokens.insert address { account with
      delegate := none, delegatedAmount := 0, unapproved := fun _ => rfl }
  | .setOwner address authority owner => do
    constraint (authority.isProgramDerived = false) .MissingRequiredSignature
    let account ← found (tokens.lookup address) .AccountNotInitialized
    constraint (account.owner = authority) .OwnerMismatch
    -- An approval does not outlive the owner who gave it.
    return tokens.insert address { account with
      owner, delegate := none, delegatedAmount := 0, unapproved := fun _ => rfl }
  | .closeAccount address => do
    let account ← found (tokens.lookup address) .AccountNotInitialized
    -- A close authority outlives a change of owner, but only an empty account closes.
    -- Accounts of wrapped lamports, which close with a balance, are none of a coin's.
    constraint (account.amount = 0) .NonNativeHasBalance
    return tokens.erase address

end Tokens

end Batchit
