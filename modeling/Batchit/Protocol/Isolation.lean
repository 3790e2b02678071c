import Batchit.Protocol.Locks

/-! Every call reads and writes only accounts it declares: one pair of lemmas for each instruction. -/

namespace Batchit

open World

/-! ### Loading accounts -/

section Loading

variable {env : Env} {addresses : Pubkey → Prop} {left right : World}

/-- A pool loads the same from states that agree on its account. -/
theorem loadPool_congr (agree : Agree addresses left right) {address : Pubkey}
    (address_ : addresses address) : loadPool env left address = loadPool env right address := by
  rw [loadPool, loadPool, (agree address address_).pool]

/-- A contribution loads the same from states that agree on its account. -/
theorem loadContribution_congr (agree : Agree addresses left right) {address : Pubkey}
    (address_ : addresses address) (pool contributor : Pubkey) :
    loadContribution env left address pool contributor
      = loadContribution env right address pool contributor := by
  rw [loadContribution, loadContribution, (agree address address_).contribution]

/-- Rent is paid the same in states that agree on the payer and the new account. -/
theorem payRent_dependence (agree : Agree addresses left right) {payer address : Pubkey}
    (payer_ : addresses payer) (address_ : addresses address) (space : Nat) :
    Except.Related (Agree addresses) (payRent env left payer address space)
      (payRent env right payer address space) := by
  rw [payRent, payRent, (agree address address_).lamports]
  exact agree.moveLamports payer_ address_ _ _ _

end Loading

/-! ### What each call depends on -/

section Dependence

variable {env : Env} {addresses : Pubkey → Prop} {left right : World} {now : Int64}

/-- `create_pool` depends on the accounts it declares alone. -/
theorem createPool_dependence (agree : Agree addresses left right)
    {accounts : CreatePoolAccounts} {args : CreatePoolArgs}
    (declared : ∀ declared ∈ accounts.metas, addresses declared.pubkey) :
    Except.Related (Agree addresses) (createPool env left now accounts args)
      (createPool env right now accounts args) := by
  have creator : addresses accounts.creator := declared (.new _ true) (.head _)
  have pool : addresses accounts.pool := declared (.new _ false) (.tail _ (.head _))
  unfold createPool
  rw [(agree accounts.pool pool).pool]
  refine .same fun _ => .same fun _ => .same fun _ => ?_
  -- The rent is paid first, and every check after it reads the arguments alone.
  refine .bind (payRent_dependence agree creator pool _) fun leftPaid rightPaid paid => ?_
  exact .same fun _ => .same fun _ => .same fun _ => .same fun _ => .same fun _ => .same fun _ =>
    .same fun _ => .pure (paid.setPool _ _)

/-- Allocating a contribution account depends on it and on its payer alone. -/
theorem initIfNeeded_dependence (agree : Agree addresses left right)
    {accounts : ContributeAccounts} (contributor : addresses accounts.contributor)
    (contribution : addresses accounts.contribution) :
    Except.Related (fun leftReady rightReady : World × Contribution =>
        Agree addresses leftReady.1 rightReady.1 ∧ leftReady.2 = rightReady.2)
      (initIfNeeded env left accounts) (initIfNeeded env right accounts) := by
  unfold initIfNeeded
  rw [(agree accounts.contribution contribution).contribution]
  -- An old record is returned, and a new one paid for.
  cases right.contributions.lookup accounts.contribution with
  | some stored => exact ⟨agree, rfl⟩
  | none =>
    exact .bind (payRent_dependence agree contributor contribution _)
      fun leftPaid rightPaid paid => .pure ⟨paid, rfl⟩

/-- `contribute` depends on the accounts it declares alone. -/
theorem contribute_dependence (agree : Agree addresses left right)
    {accounts : ContributeAccounts} {amount : UInt64}
    (declared : ∀ declared ∈ accounts.metas, addresses declared.pubkey) :
    Except.Related (Agree addresses) (contribute env left now accounts amount)
      (contribute env right now accounts amount) := by
  have contributor : addresses accounts.contributor := declared (.new _ true) (.head _)
  have pool : addresses accounts.pool := declared (.new _ false) (.tail _ (.head _))
  have contribution : addresses accounts.contribution :=
    declared (.new _ false) (.tail _ (.tail _ (.head _)))
  unfold contribute
  rw [loadPool_congr agree pool]
  refine .same fun _ => .same fun account => .same fun _ => ?_
  refine .bind (initIfNeeded_dependence agree contributor contribution) ?_
  intro leftReady rightReady ready
  obtain ⟨leftOpened, leftRecord⟩ := leftReady
  obtain ⟨rightOpened, rightRecord⟩ := rightReady
  obtain ⟨opened, same⟩ := ready
  simp only at opened same
  subst same
  refine .same fun _ => .same fun _ => .same fun _ => .same fun _ => .same fun newTotal =>
    .same fun _ => ?_
  -- The lamports move between the contributor and the pool, and the rest is bookkeeping.
  refine .bind (opened.moveLamports contributor pool _ _ _) fun leftPaid rightPaid paid => ?_
  exact .same fun _ => .same fun _ => .same fun _ => .same fun _ => .same fun _ => .same fun _ =>
    .pure ((paid.setContribution _ _).setPool _ _)

/-- `begin_launch` depends on the accounts it declares alone. -/
theorem beginLaunch_dependence (agree : Agree addresses left right)
    {accounts : BeginLaunchAccounts} {mint : Pubkey}
    (declared : ∀ declared ∈ accounts.metas, addresses declared.pubkey) :
    Except.Related (Agree addresses) (beginLaunch env left now accounts mint)
      (beginLaunch env right now accounts mint) := by
  have pool : addresses accounts.pool := declared (.new _ false) (.tail _ (.head _))
  unfold beginLaunch
  rw [loadPool_congr agree pool]
  -- Past the pool that is loaded, the checks read nothing more.
  exact .same fun _ => .same fun account => .same fun _ => .same fun _ => .same fun _ =>
    .same fun _ => .same fun _ => .same fun _ => .pure (agree.setPool _ _)

/-- `mark_refundable` depends on the accounts it declares alone. -/
theorem markRefundable_dependence (agree : Agree addresses left right)
    {accounts : MarkRefundableAccounts}
    (declared : ∀ declared ∈ accounts.metas, addresses declared.pubkey) :
    Except.Related (Agree addresses) (markRefundable env left now accounts)
      (markRefundable env right now accounts) := by
  have pool : addresses accounts.pool := declared (.new _ false) (.tail _ (.head _))
  unfold markRefundable
  rw [loadPool_congr agree pool]
  -- Past the pool that is loaded, the checks read nothing more.
  exact .same fun _ => .same fun account => .same fun _ => .same fun _ => .pure (agree.setPool _ _)

/-- `refund` depends on the accounts it declares alone. -/
theorem refund_dependence (agree : Agree addresses left right) {accounts : RefundAccounts}
    (declared : ∀ declared ∈ accounts.metas, addresses declared.pubkey) :
    Except.Related (Agree addresses) (refund env left now accounts)
      (refund env right now accounts) := by
  have contributor : addresses accounts.contributor := declared (.new _ true) (.head _)
  have pool : addresses accounts.pool := declared (.new _ false) (.tail _ (.head _))
  have contribution : addresses accounts.contribution :=
    declared (.new _ false) (.tail _ (.tail _ (.head _)))
  unfold refund
  rw [loadPool_congr agree pool, loadContribution_congr agree contribution]
  -- Past what is loaded, only the transfer reads the accounts again.
  refine .same fun _ => .same fun account => .same fun record => .same fun _ => .same fun _ =>
    .same fun _ => .same fun _ => .same fun _ => .same fun _ => .same fun _ => ?_
  refine .bind (agree.moveLamports pool contributor _ _ _) fun leftPaid rightPaid paid => ?_
  exact .pure ((paid.setContribution _ _).setPool _ _)

/-- `close_pool` depends on the accounts it declares alone. -/
theorem closePool_dependence (agree : Agree addresses left right) {accounts : ClosePoolAccounts}
    (declared : ∀ declared ∈ accounts.metas, addresses declared.pubkey) :
    Except.Related (Agree addresses) (closePool env left accounts)
      (closePool env right accounts) := by
  have creator : addresses accounts.creator := declared (.new _ true) (.head _)
  have pool : addresses accounts.pool := declared (.new _ false) (.tail _ (.head _))
  unfold closePool
  rw [(agree accounts.pool pool).pool, (agree accounts.pool pool).lamports]
  -- Past what is loaded, only the transfer reads the accounts again.
  refine .same fun _ => .same fun account => .same fun _ => .same fun _ => .same fun _ =>
    .same fun _ => .same fun _ => ?_
  exact .bind (agree.moveLamports pool creator _ _ _)
    fun leftPaid rightPaid paid => .pure (paid.setPool _ _)

/-- `finalize` depends on the accounts it declares alone. -/
theorem finalize_dependence (agree : Agree addresses left right) {accounts : FinalizeAccounts}
    (declared : ∀ declared ∈ accounts.metas, addresses declared.pubkey) :
    Except.Related (Agree addresses) (finalize env left accounts)
      (finalize env right accounts) := by
  have pool : addresses accounts.pool := declared (.new _ false) (by simp [FinalizeAccounts.metas])
  have vault : addresses accounts.associatedUser :=
    declared (.new _ false) (by simp [FinalizeAccounts.metas])
  have curve : addresses accounts.bondingCurve :=
    declared (.newReadonly _ false) (by simp [FinalizeAccounts.metas])
  unfold finalize
  rw [loadPool_congr agree pool, (agree _ vault).token, (agree _ curve).data]
  refine .same fun _ => .same fun account => .same fun _ => .same fun stored => .same fun _ =>
    .same fun _ => .same fun _ => .same fun _ => .same fun reserves => .same fun _ =>
    .same fun split => ?_
  -- The surplus is burned out of the vault, when there is any.
  have tokens : Tokens.Agree addresses left.tokens right.tokens :=
    fun address member => (agree address member).token
  have burnt : Except.Related (Tokens.Agree addresses)
      (burnSurplus left.tokens accounts.associatedUser accounts.mint accounts.buyer split.2)
      (burnSurplus right.tokens accounts.associatedUser accounts.mint accounts.buyer split.2) := by
    unfold burnSurplus
    split
    · exact tokens.burn vault _ _ _
    · exact tokens
  exact .bind burnt fun leftTokens rightTokens same => .pure ((agree.setTokens same).setPool _ _)

/-- `claim` depends on the accounts it declares alone. -/
theorem claim_dependence (agree : Agree addresses left right) {accounts : ClaimAccounts}
    (declared : ∀ declared ∈ accounts.metas, addresses declared.pubkey) :
    Except.Related (Agree addresses) (claim env left accounts) (claim env right accounts) := by
  have pool : addresses accounts.pool := declared (.new _ false) (by simp [ClaimAccounts.metas])
  have contribution : addresses accounts.contribution :=
    declared (.new _ false) (by simp [ClaimAccounts.metas])
  have vault : addresses accounts.vaultAta :=
    declared (.new _ false) (by simp [ClaimAccounts.metas])
  have ata : addresses accounts.contributorAta :=
    declared (.new _ false) (by simp [ClaimAccounts.metas])
  unfold claim
  rw [loadPool_congr agree pool, loadContribution_congr agree contribution,
    (agree _ vault).token, (agree _ ata).token]
  refine .same fun _ => .same fun account => .same fun record => .same fun _ => .same fun paying =>
    .same fun _ => .same fun _ => .same fun paid => .same fun _ => .same fun _ => .same fun _ =>
    .same fun _ => .same fun _ => .same fun _ => .same fun _ => .same fun share =>
    .same fun _ => ?_
  -- The share is paid out of the vault, when there is any.
  have tokens : Tokens.Agree addresses left.tokens right.tokens :=
    fun address member => (agree address member).token
  have payment : Except.Related (Tokens.Agree addresses)
      (payShare left.tokens accounts.vaultAta accounts.contributorAta accounts.buyer share)
      (payShare right.tokens accounts.vaultAta accounts.contributorAta accounts.buyer share) := by
    unfold payShare
    split
    · exact tokens.transfer vault ata _ _
    · exact tokens
  refine .bind payment fun leftTokens rightTokens same => .same fun totalClaimed => ?_
  exact .pure (((agree.setTokens same).setContribution _ _).setPool _ _)

/-- A call into pump depends on the caller's accounts alone. -/
theorem cpiBuyExactSolIn_dependence (confined : env.Confined) {editedLeft editedRight : World}
    {accounts : CompleteBuyAccounts} (agree : Agree addresses left right)
    (edited : Agree addresses editedLeft editedRight)
    (listed : ∀ address ∈ accounts.listed, addresses address)
    (spendableSolIn minTokensOut : UInt64) :
    Except.Related (Agree addresses)
      (cpiBuyExactSolIn env left editedLeft accounts.listed accounts.handedOn spendableSolIn
        minTokensOut)
      (cpiBuyExactSolIn env right editedRight accounts.listed accounts.handedOn spendableSolIn
        minTokensOut) := by
  have handed : ∀ address ∈ accounts.handedOn.handed, addresses address :=
    fun address member => listed address (CompleteBuyAccounts.listed_of_handed member)
  have user : addresses accounts.handedOn.user := handed _ (by simp [BuyExactSolIn.handed])
  have credited : addresses accounts.handedOn.associatedUser :=
    handed _ (by simp [BuyExactSolIn.handed])
  have curveVault : addresses accounts.handedOn.associatedBondingCurve :=
    handed _ (by simp [BuyExactSolIn.handed])
  -- The runtime and pump see the accounts of the call, on which the states agree.
  have admits := confined.runtime left.lamports right.lamports editedLeft.lamports
    editedRight.lamports accounts.listed accounts.handedOn.handed fun address member =>
      ⟨(agree address (listed address member)).lamports,
        (edited address (listed address member)).lamports⟩
  have fills := confined.pump editedLeft editedRight accounts.handedOn spendableSolIn minTokensOut
    fun address member => edited address (handed address member)
  unfold cpiBuyExactSolIn
  rw [admits, fills, (edited _ credited).token]
  refine .same fun _ => .same fun _ => .same fun stored => .same fun _ => .same fun fill =>
    .same fun _ => .same fun _ => ?_
  -- Whom pump pays is handed to it too.
  have targets : ∀ payment ∈ fill.payments accounts.handedOn, addresses payment.1 := by
    intro payment member
    exact handed _ (Fill.paid_handed (List.mem_map.mpr ⟨payment, member, rfl⟩))
  refine .bind (edited.payOut user targets _) fun leftPaid rightPaid paid => ?_
  have tokens : Tokens.Agree addresses leftPaid.tokens rightPaid.tokens :=
    fun address member => (paid address member).token
  refine .bind (tokens.transfer curveVault credited _ _) fun leftTokens rightTokens same => ?_
  exact .pure ((paid.setTokens same).setInfo _ _)

/-- `complete_buy` depends on the accounts it declares alone, if pump and the runtime do. -/
theorem completeBuy_dependence (confined : env.Confined) (agree : Agree addresses left right)
    {accounts : CompleteBuyAccounts} {minTokensOut : UInt64}
    (declared : ∀ declared ∈ accounts.metas, addresses declared.pubkey) :
    Except.Related (Agree addresses) (completeBuy env left now accounts minTokensOut)
      (completeBuy env right now accounts minTokensOut) := by
  have listed : ∀ address ∈ accounts.listed, addresses address := by
    intro address member
    rw [← accounts.metas_pubkeys, List.mem_map] at member
    obtain ⟨named, member, rfl⟩ := member
    exact declared named member
  have pool : addresses accounts.pool := listed _ (by simp [CompleteBuyAccounts.listed])
  have buyer : addresses accounts.buyer := listed _ (by simp [CompleteBuyAccounts.listed])
  have user : addresses accounts.associatedUser := listed _ (by simp [CompleteBuyAccounts.listed])
  have curve : addresses accounts.bondingCurve := listed _ (by simp [CompleteBuyAccounts.listed])
  unfold completeBuy
  rw [loadPool_congr agree pool, (agree _ user).token]
  refine .same fun _ => .same fun account => .same fun _ => .same fun credited => .same fun _ => ?_
  split
  · -- A repeated buy returns the state it was given.
    exact .pure agree
  · simp only [(agree _ curve).info]
    refine .same fun _ => .same fun _ => .same fun _ => .same fun _ => .same fun _ =>
      .same fun _ => ?_
    refine .bind (agree.moveLamports pool buyer _ _ _) fun leftEdited rightEdited edited => ?_
    refine .bind (cpiBuyExactSolIn_dependence confined agree edited listed _ _) ?_
    intro leftFilled rightFilled filled
    rw [(filled _ user).token, (filled _ curve).info]
    exact .same fun reloaded => .same fun _ => .pure (filled.setPool _ _)

end Dependence

/-! ### What each call writes -/

section Frame

variable {env : Env} {world after : World} {now : Int64} {address : Pubkey}

/-- Lamports moved between two accounts leave every other one alone, whoever they belong to. -/
theorem agreeAt_of_moveLamports {short full : Error} {source target : Pubkey} {amount : UInt64}
    (moved : world.moveLamports short full source target amount = .ok after)
    (notSource : address ≠ source) (notTarget : address ≠ target) :
    AgreeAt address world after := by
  unfold World.moveLamports at moved
  cases debited : (world.lamports source).checkedSub amount with
  | none => simp [debited] at moved
  | some rest =>
    simp only [debited] at moved
    split at moved
    · cases moved
    · rename_i sum _
      -- Two balances are written, and neither is the account's.
      simp only [Except.ok.injEq] at moved
      subst moved
      exact (agreeAt_equivalence address).trans (agreeAt_setLamports world rest notSource)
        (agreeAt_setLamports _ sum notTarget)

/-- Payments leave every account alone but the payer and those paid. -/
theorem agreeAt_of_payOut {refused : Error} {payer : Pubkey} {payments : List (Pubkey × UInt64)}
    (paid : world.payOut refused payer payments = .ok after) (notPayer : address ≠ payer)
    (unpaid : ∀ payment ∈ payments, address ≠ payment.1) : AgreeAt address world after := by
  -- Each payment is one move between two other accounts.
  induction payments generalizing world with
  | nil =>
    rw [Except.ok.inj paid]
    exact (agreeAt_equivalence address).refl after
  | cons payment rest ih =>
    obtain ⟨target, amount⟩ := payment
    obtain ⟨middle, moved, later⟩ := bind_eq_ok.mp paid
    exact (agreeAt_equivalence address).trans
      (agreeAt_of_moveLamports moved notPayer (unpaid _ List.mem_cons_self))
      (ih later fun payment member => unpaid payment (List.mem_cons_of_mem _ member))

/-- `create_pool` leaves alone every account it does not declare writable. -/
theorem createPool_frame {accounts : CreatePoolAccounts} {args : CreatePoolArgs}
    (taken : createPool env world now accounts args = .ok after)
    (away : address ≠ accounts.creator ∧ address ≠ accounts.pool) : AgreeAt address world after := by
  obtain ⟨paid, _, -, -, -, -, rent, -, -, -, -, -, -, rfl⟩ := createPool_ok.mp taken
  exact (agreeAt_equivalence address).trans (agreeAt_of_moveLamports rent away.1 away.2)
    (agreeAt_setPool paid _ away.2)

/-- Allocating a contribution account writes only it and its payer. -/
theorem initIfNeeded_frame {accounts : ContributeAccounts} {opened : World}
    {record : Contribution} (ready : initIfNeeded env world accounts = .ok (opened, record))
    (away : address ≠ accounts.contributor ∧ address ≠ accounts.contribution) :
    AgreeAt address world opened := by
  unfold initIfNeeded at ready
  -- An old record is left alone, and the rent of a new one moved.
  cases stored : world.contributions.lookup accounts.contribution with
  | some contribution =>
    simp only [stored, Except.ok.injEq, Prod.mk.injEq] at ready
    rw [← ready.1]
    exact (agreeAt_equivalence address).refl world
  | none =>
    simp only [stored, bind_eq_ok, pure_eq_ok, Prod.mk.injEq] at ready
    obtain ⟨paid, rent, rfl, -⟩ := ready
    exact agreeAt_of_moveLamports rent away.1 away.2

/-- `contribute` leaves alone every account it does not declare writable. -/
theorem contribute_frame {accounts : ContributeAccounts} {amount : UInt64}
    (taken : contribute env world now accounts amount = .ok after)
    (away : address ≠ accounts.contributor ∧ address ≠ accounts.pool ∧
      address ≠ accounts.contribution) : AgreeAt address world after := by
  simp only [contribute, bind_eq_ok, pure_eq_ok] at taken
  obtain ⟨_, _, _, _, _, _, ⟨opened, record⟩, ready, _, _, _, _, _, _, _, _, _, _, _, _, paid, moved,
    _, _, _, _, _, _, _, _, _, _, _, _, rfl⟩ := taken
  have equivalence := agreeAt_equivalence address
  -- Rent, the contribution itself, the record and the pool are written, in that order.
  have allocated := initIfNeeded_frame ready ⟨away.1, away.2.2⟩
  have funded := agreeAt_of_moveLamports moved away.1 away.2.1
  exact equivalence.trans (equivalence.trans allocated funded)
    (equivalence.trans (agreeAt_setContribution paid _ away.2.2) (agreeAt_setPool _ _ away.2.1))

/-- `begin_launch` leaves alone every account it does not declare writable. -/
theorem beginLaunch_frame {accounts : BeginLaunchAccounts} {mint : Pubkey}
    (taken : beginLaunch env world now accounts mint = .ok after)
    (away : address ≠ accounts.pool) : AgreeAt address world after := by
  obtain ⟨_, -, -, -, -, -, -, -, -, rfl⟩ := beginLaunch_ok.mp taken
  exact agreeAt_setPool world _ away

/-- `mark_refundable` leaves alone every account it does not declare writable. -/
theorem markRefundable_frame {accounts : MarkRefundableAccounts}
    (taken : markRefundable env world now accounts = .ok after)
    (away : address ≠ accounts.pool) : AgreeAt address world after := by
  obtain ⟨_, -, -, -, -, rfl⟩ := markRefundable_ok.mp taken
  exact agreeAt_setPool world _ away

/-- `refund` leaves alone every account it does not declare writable. -/
theorem refund_frame {accounts : RefundAccounts}
    (taken : refund env world now accounts = .ok after)
    (away : address ≠ accounts.contributor ∧ address ≠ accounts.pool ∧
      address ≠ accounts.contribution) : AgreeAt address world after := by
  obtain ⟨_, _, _, _, paid, -, -, -, -, -, -, -, -, -, -, moved, rfl⟩ := refund_ok.mp taken
  -- The transfer, the record and the pool are written one after the other.
  have equivalence := agreeAt_equivalence address
  exact equivalence.trans (agreeAt_of_moveLamports moved away.2.1 away.1)
    (equivalence.trans (agreeAt_setContribution paid _ away.2.2) (agreeAt_setPool _ _ away.2.1))

/-- `close_pool` leaves alone every account it does not declare writable. -/
theorem closePool_frame {accounts : ClosePoolAccounts}
    (taken : closePool env world accounts = .ok after)
    (away : address ≠ accounts.creator ∧ address ≠ accounts.pool) : AgreeAt address world after := by
  obtain ⟨_, paid, -, -, -, -, -, moved, rfl⟩ := closePool_ok.mp taken
  exact (agreeAt_equivalence address).trans (agreeAt_of_moveLamports moved away.2 away.1)
    (agreeAt_setPool paid _ away.2)

/-- `finalize` leaves alone every account it does not declare writable. -/
theorem finalize_frame {accounts : FinalizeAccounts}
    (taken : finalize env world accounts = .ok after)
    (away : address ≠ accounts.pool ∧ address ≠ accounts.associatedUser) :
    AgreeAt address world after := by
  obtain ⟨_, _, _, _, _, burned, tokens, -, -, -, -, -, -, -, -, -, -, -, -, burnt, rfl⟩ :=
    finalize_ok.mp taken
  -- Only the vault can lose tokens, and only in a burn.
  have kept : tokens.lookup address = world.tokens.lookup address := by
    unfold burnSurplus at burnt
    split at burnt
    · exact Tokens.burn_lookup_ne burnt away.2
    · rw [Except.ok.inj burnt]
  exact (agreeAt_equivalence address).trans (agreeAt_setTokens world kept)
    (agreeAt_setPool _ _ away.1)

/-- `claim` leaves alone every account it does not declare writable. -/
theorem claim_frame {accounts : ClaimAccounts} (taken : claim env world accounts = .ok after)
    (away : address ≠ accounts.pool ∧ address ≠ accounts.contribution ∧
      address ≠ accounts.vaultAta ∧ address ≠ accounts.contributorAta) :
    AgreeAt address world after := by
  obtain ⟨_, _, _, _, share, _, tokens, -, -, -, -, -, -, -, -, paid, -, rfl⟩ := claim_ok.mp taken
  obtain ⟨notPool, notRecord, notVault, notAta⟩ := away
  -- With nothing to pay, no token account is written.
  have kept : tokens.lookup address = world.tokens.lookup address := by
    unfold payShare at paid
    split at paid
    · exact Tokens.transfer_lookup_ne paid notVault notAta
    · rw [Except.ok.inj paid]
  have equivalence := agreeAt_equivalence address
  exact equivalence.trans (agreeAt_setTokens world kept)
    (equivalence.trans (agreeAt_setContribution _ _ notRecord) (agreeAt_setPool _ _ notPool))

/-- `complete_buy` leaves alone every account it does not declare writable. -/
theorem completeBuy_frame {accounts : CompleteBuyAccounts} {minTokensOut : UInt64}
    (taken : completeBuy env world now accounts minTokensOut = .ok after)
    (away : ∀ declared ∈ accounts.metas, declared.isWritable = true → address ≠ declared.pubkey) :
    AgreeAt address world after := by
  have apart (pubkey : Pubkey) (writable : .new pubkey false ∈ accounts.metas) :
      address ≠ pubkey := away _ writable rfl
  have notPool := apart accounts.pool (by simp [CompleteBuyAccounts.metas])
  have notBuyer := apart accounts.buyer (by simp [CompleteBuyAccounts.metas])
  have notCurve := apart accounts.bondingCurve (by simp [CompleteBuyAccounts.metas])
  have notCurveVault := apart accounts.associatedBondingCurve (by simp [CompleteBuyAccounts.metas])
  have notUser := apart accounts.associatedUser (by simp [CompleteBuyAccounts.metas])
  have equivalence := agreeAt_equivalence address
  obtain ⟨_, _, -, done⟩ := completeBuy_ok.mp taken
  rcases done with ⟨-, rfl⟩ | ⟨edited, filled, _, -, -, -, -, -, -, -, moved, called, -, -, rfl⟩
  · exact equivalence.refl after
  · -- The escrow moves to the buyer, who pays pump, and the account named is credited.
    obtain ⟨_, fill, paid, tokens, -, -, -, -, -, -, -, payments, transferred, rfl⟩ :=
      cpiBuyExactSolIn_ok.mp called
    have unpaid : ∀ payment ∈ fill.payments accounts.handedOn, address ≠ payment.1 := by
      simp only [Fill.payments, List.forall_mem_cons, List.not_mem_nil, false_implies,
        implies_true, and_true]
      exact ⟨notCurve, apart accounts.feeRecipient (by simp [CompleteBuyAccounts.metas]),
        apart accounts.creatorVault (by simp [CompleteBuyAccounts.metas]),
        apart accounts.userVolumeAccumulator (by simp [CompleteBuyAccounts.metas]),
        apart accounts.buybackFeeRecipient (by simp [CompleteBuyAccounts.metas])⟩
    have escrow := agreeAt_of_moveLamports moved notPool notBuyer
    have out := agreeAt_of_payOut payments notBuyer unpaid
    have credited := agreeAt_setTokens paid
      (Tokens.transfer_lookup_ne transferred notCurveVault notUser)
    exact equivalence.trans (equivalence.trans escrow out) (equivalence.trans credited
      (equivalence.trans (agreeAt_setInfo _ _ notCurve) (agreeAt_setPool _ _ notPool)))

end Frame

/-! ### The footprint of a call -/

variable {env : Env}

/-- A call leaves alone every account it does not declare writable. -/
theorem call_frame {world after : World} {action : Action} {address : Pubkey}
    (call : action.instruction.isCall = true) (taken : step env world action = .ok after)
    (unwritten : ¬ action.instruction.writes address) : AgreeAt address world after := by
  obtain ⟨now, instruction⟩ := action
  simp only [Instruction.writes, not_exists, not_and] at unwritten
  -- The address is none of the accounts declared writable.
  have away (declared : AccountMeta) (member : declared ∈ instruction.metas)
      (writable : declared.isWritable = true) : address ≠ declared.pubkey :=
    fun same => unwritten declared member same.symm writable
  cases instruction with
  | createPool accounts args =>
    exact createPool_frame taken ⟨away (.new accounts.creator true) (.head _) rfl,
      away (.new accounts.pool false) (.tail _ (.head _)) rfl⟩
  | contribute accounts amount =>
    exact contribute_frame taken ⟨away (.new accounts.contributor true) (.head _) rfl,
      away (.new accounts.pool false) (.tail _ (.head _)) rfl,
      away (.new accounts.contribution false) (.tail _ (.tail _ (.head _))) rfl⟩
  | beginLaunch accounts mint =>
    exact beginLaunch_frame taken (away (.new accounts.pool false) (.tail _ (.head _)) rfl)
  | completeBuy accounts minTokensOut =>
    exact completeBuy_frame taken away
  | finalize accounts =>
    have metas : (Instruction.finalize accounts).metas = accounts.metas := rfl
    exact finalize_frame taken
      ⟨away (.new accounts.pool false) (by simp [metas, FinalizeAccounts.metas]) rfl,
        away (.new accounts.associatedUser false) (by simp [metas, FinalizeAccounts.metas]) rfl⟩
  | claim accounts =>
    have metas : (Instruction.claim accounts).metas = accounts.metas := rfl
    exact claim_frame taken
      ⟨away (.new accounts.pool false) (by simp [metas, ClaimAccounts.metas]) rfl,
        away (.new accounts.contribution false) (by simp [metas, ClaimAccounts.metas]) rfl,
        away (.new accounts.vaultAta false) (by simp [metas, ClaimAccounts.metas]) rfl,
        away (.new accounts.contributorAta false) (by simp [metas, ClaimAccounts.metas]) rfl⟩
  | refund accounts =>
    exact refund_frame taken ⟨away (.new accounts.contributor true) (.head _) rfl,
      away (.new accounts.pool false) (.tail _ (.head _)) rfl,
      away (.new accounts.contribution false) (.tail _ (.tail _ (.head _))) rfl⟩
  | markRefundable accounts =>
    exact markRefundable_frame taken (away (.new accounts.pool false) (.tail _ (.head _)) rfl)
  | closePool accounts =>
    exact closePool_frame taken ⟨away (.new accounts.creator true) (.head _) rfl,
      away (.new accounts.pool false) (.tail _ (.head _)) rfl⟩
  -- The rest of the chain makes no call.
  | _ => cases call

/-- The accounts that an instruction can change. -/
def Instruction.changes : Instruction → List Pubkey
  | .systemTransfer source target _ => [source, target]
  | .token instruction => instruction.accounts
  | .writeAccount address _ => [address]
  | .pumpCreate mint _ => [bondingCurvePda mint]
  | .pumpTrade _ trader mint _ _ => [trader, bondingCurvePda mint]
  | call => (call.metas.filter AccountMeta.isWritable).map AccountMeta.pubkey

/-- What a call can change are the writable ones among its accounts. -/
theorem Instruction.changes_of_call {instruction : Instruction} (call : instruction.isCall = true) :
    instruction.changes
      = (instruction.metas.filter AccountMeta.isWritable).map AccountMeta.pubkey := by
  cases instruction <;> first | rfl | cases call

/-- The outcome of a call depends on the accounts it declares alone. -/
theorem call_dependence (confined : env.Confined) {left right : World} {action : Action}
    (call : action.instruction.isCall = true) (agree : Agree action.instruction.reads left right) :
    Except.Related (Agree action.instruction.reads) (step env left action)
      (step env right action) := by
  obtain ⟨now, instruction⟩ := action
  have declared (named : AccountMeta) (member : named ∈ instruction.metas) :
      instruction.reads named.pubkey := ⟨named, member, rfl⟩
  -- Each call has a lemma of its own.
  cases instruction with
  | createPool accounts args => exact createPool_dependence agree declared
  | contribute accounts amount => exact contribute_dependence agree declared
  | beginLaunch accounts mint => exact beginLaunch_dependence agree declared
  | completeBuy accounts minTokensOut => exact completeBuy_dependence confined agree declared
  | finalize accounts => exact finalize_dependence agree declared
  | claim accounts => exact claim_dependence agree declared
  | refund accounts => exact refund_dependence agree declared
  | markRefundable accounts => exact markRefundable_dependence agree declared
  | closePool accounts => exact closePool_dependence agree declared
  | _ => cases call

/-- A call into the program, with the clock it executes under. -/
abbrev Call := { action : Action // action.instruction.isCall = true }

/-- What one call does to the accounts, or why it is refused. -/
def callStep (env : Env) (world : World) (call : Call) : Except Error World :=
  step env world call.val

/-- The accounts a call declares are its footprint: it reads no other, and writes only the writable. -/
theorem call_footprint (confined : env.Confined) :
    Machine.Footprint (callStep env) AgreeAt (fun call => call.val.instruction.reads)
      (fun call => call.val.instruction.writes) where
  -- Both halves are known of every call.
  equivalence := agreeAt_equivalence
  declared := Instruction.reads_of_writes
  frame := fun {_ call _} taken _ unwritten => call_frame call.property taken unwritten
  dependence := fun {_ _ call} agree => call_dependence confined call.property agree

end Batchit
