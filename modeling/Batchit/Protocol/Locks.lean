import Batchit.Documented
import Batchit.Instructions.Metas
import Batchit.Lib.Footprint

/-! What a call depends on and what it writes: the accounts it declares, and no other. -/

namespace Batchit

namespace World

/-- Two states hold the same at an address: its lamports, and the account stored there. -/
structure AgreeAt (address : Pubkey) (left right : World) : Prop where
  lamports : left.lamports address = right.lamports address
  pool : left.pools address = right.pools address
  contribution : left.contributions.lookup address = right.contributions.lookup address
  token : left.tokens.lookup address = right.tokens.lookup address
  info : left.info address = right.info address

/-- Two states hold the same at every address of a set. -/
def Agree (addresses : Pubkey → Prop) (left right : World) : Prop :=
  ∀ address, addresses address → AgreeAt address left right

/-- Holding the same at an address is an equivalence. -/
theorem agreeAt_equivalence (address : Pubkey) : Equivalence (AgreeAt address) where
  -- Each part is an equality.
  refl _ := ⟨rfl, rfl, rfl, rfl, rfl⟩
  symm same :=
    ⟨same.lamports.symm, same.pool.symm, same.contribution.symm, same.token.symm, same.info.symm⟩
  trans one two :=
    ⟨one.lamports.trans two.lamports, one.pool.trans two.pool,
      one.contribution.trans two.contribution, one.token.trans two.token,
      one.info.trans two.info⟩

section Writes

variable {addresses : Pubkey → Prop} {left right : World} {address other : Pubkey}

/-- Writing one balance in both states keeps them agreeing. -/
theorem Agree.setLamports (agree : Agree addresses left right) (address : Pubkey)
    (amount : UInt64) :
    Agree addresses (left.setLamports address amount) (right.setLamports address amount) := by
  intro other member
  -- Where the balance is written it is the same, and elsewhere it was.
  have same := agree other member
  exact {
    lamports := by simp [Function.update_apply, same.lamports]
    pool := same.pool
    contribution := same.contribution
    token := same.token
    info := same.info }

/-- Writing one pool account in both states keeps them agreeing. -/
theorem Agree.setPool (agree : Agree addresses left right) (address : Pubkey)
    (pool : Option Pool) :
    Agree addresses (left.setPool address pool) (right.setPool address pool) := by
  intro other member
  -- Where the pool is written it is the same, and elsewhere it was.
  have same := agree other member
  exact {
    lamports := same.lamports
    pool := by simp [Function.update_apply, same.pool]
    contribution := same.contribution
    token := same.token
    info := same.info }

/-- Writing one other account in both states keeps them agreeing. -/
theorem Agree.setInfo (agree : Agree addresses left right) (address : Pubkey)
    (info : AccountInfo) :
    Agree addresses (left.setInfo address info) (right.setInfo address info) := by
  intro other member
  -- Where the account is written it is the same, and elsewhere it was.
  have same := agree other member
  exact {
    lamports := same.lamports
    pool := same.pool
    contribution := same.contribution
    token := same.token
    info := by simp [Function.update_apply, same.info] }

/-- Writing one contribution account in both states keeps them agreeing. -/
theorem Agree.setContribution (agree : Agree addresses left right) (address : Pubkey)
    (contribution : Contribution) :
    Agree addresses (left.setContribution address contribution)
      (right.setContribution address contribution) := by
  intro other member
  have same := agree other member
  refine ⟨same.lamports, same.pool, ?_, same.token, same.info⟩
  -- Where the record is written it is the same, and elsewhere it was.
  by_cases written : other = address
  · rw [written, setContribution_contributions, setContribution_contributions,
      AList.lookup_insert, AList.lookup_insert]
  · rw [setContribution_contributions, setContribution_contributions,
      AList.lookup_insert_ne written, AList.lookup_insert_ne written]
    exact same.contribution

/-- Replacing the token accounts by ones that agree keeps two states agreeing. -/
theorem Agree.setTokens (agree : Agree addresses left right) {leftTokens rightTokens : Tokens}
    (tokens : ∀ address, addresses address →
      leftTokens.lookup address = rightTokens.lookup address) :
    Agree addresses (left.setTokens leftTokens) (right.setTokens rightTokens) := by
  intro other member
  have same := agree other member
  exact ⟨same.lamports, same.pool, same.contribution, tokens other member, same.info⟩

/-- A balance written elsewhere leaves an address as it was. -/
theorem agreeAt_setLamports (world : World) (amount : UInt64) (away : address ≠ other) :
    AgreeAt address world (world.setLamports other amount) where
  -- Only a balance is written, and not this one.
  lamports := by simp [away]
  pool := rfl
  contribution := rfl
  token := rfl
  info := rfl

/-- A pool account written elsewhere leaves an address as it was. -/
theorem agreeAt_setPool (world : World) (pool : Option Pool) (away : address ≠ other) :
    AgreeAt address world (world.setPool other pool) where
  -- Only a pool account is written, and not this one.
  lamports := rfl
  pool := by simp [away]
  contribution := rfl
  token := rfl
  info := rfl

/-- An account of another program written elsewhere leaves an address as it was. -/
theorem agreeAt_setInfo (world : World) (info : AccountInfo) (away : address ≠ other) :
    AgreeAt address world (world.setInfo other info) where
  -- Only one account's data is written, and not this one's.
  lamports := rfl
  pool := rfl
  contribution := rfl
  token := rfl
  info := by simp [away]

/-- A contribution account written elsewhere leaves an address as it was. -/
theorem agreeAt_setContribution (world : World) (contribution : Contribution)
    (away : address ≠ other) :
    AgreeAt address world (world.setContribution other contribution) where
  -- Only a record is written, and not this one.
  lamports := rfl
  pool := rfl
  contribution := (AList.lookup_insert_ne away).symm
  token := rfl
  info := rfl

/-- Token accounts that read the same at an address leave it as it was. -/
theorem agreeAt_setTokens (world : World) {tokens : Tokens}
    (same : tokens.lookup address = world.tokens.lookup address) :
    AgreeAt address world (world.setTokens tokens) where
  -- Only the token accounts are replaced.
  lamports := rfl
  pool := rfl
  contribution := rfl
  token := same.symm
  info := rfl

/-- Moving lamports between two accounts depends on their balances alone. -/
theorem Agree.moveLamports (agree : Agree addresses left right) {source target : Pubkey}
    (source_ : addresses source) (target_ : addresses target) (short full : Error)
    (amount : UInt64) :
    Except.Related (Agree addresses) (left.moveLamports short full source target amount)
      (right.moveLamports short full source target amount) := by
  unfold World.moveLamports
  rw [(agree source source_).lamports]
  cases (right.lamports source).checkedSub amount with
  | none => exact rfl
  | some rest =>
    -- The target is read after the debit, which both states have made.
    have debited := agree.setLamports source rest
    simp only [(debited target target_).lamports]
    cases ((right.setLamports source rest).lamports target).checkedAdd amount with
    | none => exact rfl
    | some sum => exact debited.setLamports target sum

/-- Payments out of one account depend on its balance and those it pays. -/
theorem Agree.payOut (agree : Agree addresses left right) {payer : Pubkey}
    {payments : List (Pubkey × UInt64)} (payer_ : addresses payer)
    (paid : ∀ payment ∈ payments, addresses payment.1) (refused : Error) :
    Except.Related (Agree addresses) (left.payOut refused payer payments)
      (right.payOut refused payer payments) := by
  -- Each payment is one move, and leaves the two states agreeing for the rest.
  induction payments generalizing left right with
  | nil => exact agree
  | cons payment rest ih =>
    obtain ⟨target, amount⟩ := payment
    exact .bind (agree.moveLamports payer_ (paid _ List.mem_cons_self) _ _ _)
      fun _ _ moved => ih moved fun payment member => paid payment (List.mem_cons_of_mem _ member)

/-- Two states that agree at an address hold the same bytes there. -/
theorem AgreeAt.data (same : AgreeAt address left right) (encoding : Encoding) :
    left.data encoding address = right.data encoding address := by
  unfold World.data
  rw [same.pool, same.contribution, same.token, same.info]

end Writes

end World

namespace Tokens

/-- Two collections of token accounts that read the same over a set of addresses. -/
def Agree (addresses : Pubkey → Prop) (left right : Tokens) : Prop :=
  ∀ address, addresses address → left.lookup address = right.lookup address

variable {addresses : Pubkey → Prop} {left right : Tokens}

/-- Writing one token account in both keeps them reading the same. -/
theorem Agree.insert (agree : Agree addresses left right) (address : Pubkey)
    (account : TokenAccount) :
    Agree addresses (AList.insert address account left) (AList.insert address account right) := by
  intro other member
  -- Where the account is written it is the same, and elsewhere it was.
  by_cases written : other = address
  · rw [written, AList.lookup_insert, AList.lookup_insert]
  · rw [AList.lookup_insert_ne written, AList.lookup_insert_ne written]
    exact agree other member

/-- A transfer depends on its two accounts alone. -/
theorem Agree.transfer (agree : Agree addresses left right) {source destination : Pubkey}
    (source_ : addresses source) (destination_ : addresses destination) (authority : Pubkey)
    (amount : UInt64) :
    Except.Related (Agree addresses) (left.transfer source destination authority amount)
      (right.transfer source destination authority amount) := by
  unfold Tokens.transfer
  rw [agree source source_, agree destination destination_]
  -- Both accounts are read alike, so the checks end alike.
  refine .same fun paying => .same fun paid => .same fun _ => .same fun _ => .same fun rest => ?_
  split
  · exact .pure agree
  · exact .same fun sum => .pure ((agree.insert source _).insert destination _)

/-- A burn depends on its account alone. -/
theorem Agree.burn (agree : Agree addresses left right) {address : Pubkey}
    (address_ : addresses address) (mint authority : Pubkey) (amount : UInt64) :
    Except.Related (Agree addresses) (left.burn address mint authority amount)
      (right.burn address mint authority amount) := by
  unfold Tokens.burn
  rw [agree address address_]
  -- The account is read alike, so the checks end alike.
  exact .same fun account => .same fun _ => .same fun _ => .same fun rest =>
    .pure (agree.insert address _)

/-- A transfer leaves every account alone but its two. -/
theorem transfer_lookup_ne {tokens after : Tokens} {source destination authority : Pubkey}
    {amount : UInt64} (moved : tokens.transfer source destination authority amount = .ok after)
    {address : Pubkey} (notSource : address ≠ source) (notDestination : address ≠ destination) :
    after.lookup address = tokens.lookup address := by
  by_cases same : source = destination
  · -- A transfer to itself changes nothing at all.
    rw [same] at moved
    rw [transfer_self moved]
  · obtain ⟨_, _, _, _, _, _, _, _, _, _, rfl⟩ := (transfer_ok same).mp moved
    rw [AList.lookup_insert_ne notDestination, AList.lookup_insert_ne notSource]

/-- A burn leaves every account alone but its own. -/
theorem burn_lookup_ne {tokens after : Tokens} {burnt mint authority : Pubkey} {amount : UInt64}
    (burned : tokens.burn burnt mint authority amount = .ok after) {address : Pubkey}
    (away : address ≠ burnt) : after.lookup address = tokens.lookup address := by
  obtain ⟨_, _, _, _, _, _, rfl⟩ := burn_ok.mp burned
  rw [AList.lookup_insert_ne away]

end Tokens

/-! ### What the runtime guarantees of the accounts a program is not handed -/

/--
Pump and the runtime's own check see no account outside those they are given.

The runtime hands a program the accounts of its instruction and no other.
-/
structure Env.Confined (env : Env) : Prop where
  pump : ∀ left right accounts spendableSolIn minTokensOut,
    World.Agree (· ∈ accounts.handed) left right →
    env.buyExactSolIn left accounts spendableSolIn minTokensOut
      = env.buyExactSolIn right accounts spendableSolIn minTokensOut
  runtime : ∀ start start' edited edited' accounts handed,
    (∀ address ∈ accounts, start address = start' address ∧ edited address = edited' address) →
    env.admitsCall start edited accounts handed = env.admitsCall start' edited' accounts handed

/-- The documented pump and runtime see no account outside those they are given. -/
theorem documentedEnv_confined (encoding : Encoding)
    (protocolFeeBps creatorFeeBps accumulatorSpace : Nat) :
    (documentedEnv encoding protocolFeeBps creatorFeeBps accumulatorSpace).Confined where
  pump := by
    intro left right accounts spendableSolIn minTokensOut agree
    -- A quote reads the curve, the buyer's lamports, and two balances for missing rent.
    have curve := (agree accounts.bondingCurve (by simp [BuyExactSolIn.handed])).info
    have user := (agree accounts.user (by simp [BuyExactSolIn.handed])).lamports
    have vault := (agree accounts.creatorVault (by simp [BuyExactSolIn.handed])).lamports
    have volume := (agree accounts.userVolumeAccumulator
      (by simp [BuyExactSolIn.handed])).lamports
    simp only [documentedEnv, documentedBuy, missingRent, curve, user, vault, volume]
  runtime := by
    intro start start' edited edited' accounts handed same
    -- Both totals are over the caller's accounts.
    have before : totalLamports start accounts = totalLamports start' accounts := by
      apply Finset.sum_congr rfl
      intro address member
      rw [(same address (List.mem_toFinset.mp member)).1]
    have after : totalLamports (writtenBack start edited handed) accounts
        = totalLamports (writtenBack start' edited' handed) accounts := by
      apply Finset.sum_congr rfl
      intro address member
      obtain ⟨one, two⟩ := same address (List.mem_toFinset.mp member)
      rw [writtenBack, writtenBack, one, two]
    simp only [documentedEnv, balancedCall, before, after]

end Batchit
