import Batchit.Properties.Lifecycle
import Batchit.Protocol.Locks

/-! Lamports are conserved: the accounts a run touches hold together what they held before it. -/

namespace Batchit

/-- The accounts whose lamports an instruction can move. -/
def Instruction.touches : Instruction → List Pubkey
  | .systemTransfer source target _ => [source, target]
  | .pumpTrade _ trader mint _ _ => [trader, bondingCurvePda mint]
  | call => call.metas.map AccountMeta.pubkey

section Conservation

variable {env : Env} {world after : World} {accounts : List Pubkey}

/-- Writing one balance trades the old amount for the new one. -/
theorem total_setLamports (world : World) {address : Pubkey} (amount : UInt64)
    (listed : address ∈ accounts) :
    totalLamports (world.setLamports address amount).lamports accounts
        + (world.lamports address).toNat
      = totalLamports world.lamports accounts + amount.toNat :=
  totalLamports_update world.lamports amount listed

/-- A move of lamports between listed accounts keeps their total. -/
theorem total_moveLamports {short full : Error} {source target : Pubkey} {amount : UInt64}
    (moved : world.moveLamports short full source target amount = .ok after)
    (source_ : source ∈ accounts) (target_ : target ∈ accounts) :
    totalLamports after.lamports accounts = totalLamports world.lamports accounts := by
  unfold World.moveLamports at moved
  cases debited : (world.lamports source).checkedSub amount with
  | none => simp [debited] at moved
  | some rest =>
    simp only [debited] at moved
    split at moved
    · cases moved
    · rename_i sum credited
      simp only [Except.ok.injEq] at moved
      subst moved
      -- What the source lost is what the target gained.
      have left := UInt64.checkedSub_eq_some.mp debited
      have reached := UInt64.checkedAdd_eq_some.mp credited
      have one := total_setLamports world rest source_
      have two := total_setLamports (world.setLamports source rest) sum target_
      omega

/-- Rent stays among the payer and the new account. -/
theorem total_initIfNeeded {named : ContributeAccounts} {opened : World} {record : Contribution}
    (ready : initIfNeeded env world named = .ok (opened, record))
    (contributor : named.contributor ∈ accounts) (contribution : named.contribution ∈ accounts) :
    totalLamports opened.lamports accounts = totalLamports world.lamports accounts := by
  unfold initIfNeeded at ready
  -- Only a new record costs its contributor rent.
  cases stored : world.contributions.lookup named.contribution with
  | some existing =>
    simp only [stored, Except.ok.injEq, Prod.mk.injEq] at ready
    rw [ready.1]
  | none =>
    simp only [stored, bind_eq_ok, pure_eq_ok, Prod.mk.injEq] at ready
    obtain ⟨paid, rent, rfl, -⟩ := ready
    exact total_moveLamports rent contributor contribution

/-- Payments between listed accounts keep their total. -/
theorem total_payOut {refused : Error} {payer : Pubkey} {payments : List (Pubkey × UInt64)}
    (paid : world.payOut refused payer payments = .ok after) (payer_ : payer ∈ accounts)
    (targets : ∀ payment ∈ payments, payment.1 ∈ accounts) :
    totalLamports after.lamports accounts = totalLamports world.lamports accounts := by
  -- Each payment is one move between two of them.
  induction payments generalizing world with
  | nil => rw [Except.ok.inj paid]
  | cons payment rest ih =>
    obtain ⟨target, amount⟩ := payment
    obtain ⟨middle, moved, later⟩ := bind_eq_ok.mp paid
    have first := total_moveLamports moved payer_ (targets _ List.mem_cons_self)
    exact (ih later fun payment member => targets payment (List.mem_cons_of_mem _ member)).trans
      first

/-- A buy keeps the total: the escrow reaches the buyer, and what it pays reaches pump's accounts. -/
theorem total_completeBuy {now : Int64} {named : CompleteBuyAccounts} {minTokensOut : UInt64}
    (taken : completeBuy env world now named minTokensOut = .ok after)
    (listed : ∀ address ∈ named.listed, address ∈ accounts) :
    totalLamports after.lamports accounts = totalLamports world.lamports accounts := by
  obtain ⟨account, credited, checked, done⟩ := completeBuy_ok.mp taken
  rcases done with ⟨-, rfl⟩ | ⟨edited, filled, reloaded, -, -, -, -, -, -, -, moved, called, -, -,
    rfl⟩
  · rfl
  · obtain ⟨_, fill, paid, tokens, -, -, -, -, -, -, -, payments, -, rfl⟩ :=
      cpiBuyExactSolIn_ok.mp called
    have kept := total_moveLamports moved (listed named.pool (by simp [CompleteBuyAccounts.listed]))
      (listed named.buyer (by simp [CompleteBuyAccounts.listed]))
    -- Whom pump pays it was handed, and everything handed on is listed.
    have out := total_payOut payments (listed named.buyer (by simp [CompleteBuyAccounts.listed]))
      fun payment member => listed _ (CompleteBuyAccounts.listed_of_handed
        (Fill.paid_handed (List.mem_map.mpr ⟨payment, member, rfl⟩)))
    exact out.trans kept

/-- A step keeps the total of the accounts it touches. -/
theorem step_total {action : Action} (taken : step env world action = .ok after)
    (listed : ∀ address ∈ action.instruction.touches, address ∈ accounts) :
    totalLamports after.lamports accounts = totalLamports world.lamports accounts := by
  obtain ⟨now, instruction⟩ := action
  cases instruction with
  | createPool named args =>
    obtain ⟨paid, _, -, -, -, -, rent, -, -, -, -, -, -, rfl⟩ := createPool_ok.mp taken
    have kept := total_moveLamports rent (listed _ (.head _)) (listed _ (.tail _ (.head _)))
    exact kept
  | contribute named amount =>
    simp only [step, contribute, bind_eq_ok, pure_eq_ok] at taken
    obtain ⟨_, _, _, _, _, _, ⟨opened, record⟩, ready, _, _, _, _, _, _, _, _, _, _, _, _, paid,
      moved, _, _, _, _, _, _, _, _, _, _, _, _, rfl⟩ := taken
    have contributor := listed named.contributor (.head _)
    -- Both the rent and the contribution come from the contributor.
    have funded := total_moveLamports moved contributor (listed _ (.tail _ (.head _)))
    have allocated := total_initIfNeeded ready contributor (listed _ (.tail _ (.tail _ (.head _))))
    exact funded.trans allocated
  | beginLaunch named mint =>
    obtain ⟨_, -, -, -, -, -, -, -, -, rfl⟩ := beginLaunch_ok.mp taken
    rfl
  | completeBuy named minTokensOut =>
    exact total_completeBuy taken fun address member =>
      listed address (by rw [← named.metas_pubkeys] at member; exact member)
  | finalize named =>
    obtain ⟨_, _, _, _, _, _, _, -, -, -, -, -, -, -, -, -, -, -, -, -, rfl⟩ :=
      finalize_ok.mp taken
    rfl
  | claim named =>
    obtain ⟨_, _, _, _, _, _, _, -, -, -, -, -, -, -, -, -, -, rfl⟩ := claim_ok.mp taken
    rfl
  | refund named =>
    obtain ⟨_, _, _, _, paid, -, -, -, -, -, -, -, -, -, -, moved, rfl⟩ := refund_ok.mp taken
    have kept := total_moveLamports moved (listed _ (.tail _ (.head _))) (listed _ (.head _))
    exact kept
  | markRefundable named =>
    obtain ⟨_, -, -, -, -, rfl⟩ := markRefundable_ok.mp taken
    rfl
  | closePool named =>
    obtain ⟨_, paid, -, -, -, -, -, moved, rfl⟩ := closePool_ok.mp taken
    have kept := total_moveLamports moved (listed _ (.tail _ (.head _))) (listed _ (.head _))
    exact kept
  | systemTransfer source target amount =>
    simp only [step, bind_eq_ok, constraint_eq_ok, exists_const] at taken
    obtain ⟨-, -, moved⟩ := taken
    exact total_moveLamports moved (listed _ (.head _)) (listed _ (.tail _ (.head _)))
  | token instruction =>
    simp only [step, bind_eq_ok, pure_eq_ok] at taken
    obtain ⟨tokens, -, rfl⟩ := taken
    rfl
  | writeAccount address info =>
    simp only [step, bind_eq_ok, constraint_eq_ok, exists_const, pure_eq_ok] at taken
    obtain ⟨-, -, rfl⟩ := taken
    rfl
  | pumpCreate mint data =>
    simp only [step, bind_eq_ok, constraint_eq_ok, exists_const, pure_eq_ok] at taken
    obtain ⟨-, rfl⟩ := taken
    rfl
  | pumpTrade side trader mint amount data =>
    obtain ⟨paid, -, -, -, -, moved, rfl⟩ := pumpTrade_ok taken
    have trader_ := listed trader (.head _)
    have curve := listed (bondingCurvePda mint) (.tail _ (.head _))
    -- Either way the lamports stay between the two.
    cases side with
    | buy =>
      have kept := total_moveLamports moved trader_ curve
      exact kept
    | sell =>
      have kept := total_moveLamports moved curve trader_
      exact kept

/--
No step makes or destroys a lamport.

Any accounts that contain those a run touches hold together at its end what they held at its start.
-/
theorem lamports_conserved {start : World} {history : List Transition}
    (run : Run env start history world)
    (listed : ∀ transition ∈ history,
      ∀ address ∈ transition.action.instruction.touches, address ∈ accounts) :
    totalLamports world.lamports accounts = totalLamports start.lamports accounts := by
  -- The newest step keeps what the earlier ones kept.
  induction run with
  | nil => rfl
  | cons before taken ih =>
    have earlier := ih fun transition member => listed transition (.tail _ member)
    have newest := step_total taken (listed _ List.mem_cons_self)
    exact newest.trans earlier

end Conservation

/-- The sample launch moves the escrow into pump's accounts, and keeps the lamports of all together. -/
theorem lamports_conserved_sample :
    (Sample.reach Sample.purchased).lamports Sample.curve = 103465346533 ∧
    totalLamports (Sample.reach Sample.purchased).lamports
        (Sample.purchased.flatMap fun action => action.instruction.touches)
      = totalLamports Sample.start.lamports
        (Sample.purchased.flatMap fun action => action.instruction.touches) := by
  refine ⟨by decide +kernel, lamports_conserved (Sample.run (by decide +kernel)) ?_⟩
  have listed : (Sample.past Sample.purchased).all (fun transition =>
      transition.action.instruction.touches.all fun address =>
        (Sample.purchased.flatMap fun action => action.instruction.touches).contains address)
      = true := by decide +kernel
  -- Every transition of the run is one of those the list was made from, as computed.
  intro transition member address touched
  have each := List.all_eq_true.mp listed transition member
  simpa using List.all_eq_true.mp each address touched

end Batchit
