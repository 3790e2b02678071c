import Batchit.Protocol.Inversion

/-! Bonding curves: which steps create one, which fill a buy on one, and that it stays. -/

namespace Batchit

section Reading

variable (pool mint : Pubkey) (transition : Transition)

/-- Whether a step created the coin, and with it its curve. -/
def creates : Bool :=
  match transition.action.instruction with
  | .pumpCreate created _ => created = mint
  | _ => false

/-- Whether a step filled a buy on the coin's curve, a third party's or a pool's. -/
def fills : Bool :=
  match transition.action.instruction with
  | .pumpTrade .buy _ traded _ _ => traded = mint
  | .completeBuy accounts _ => accounts.mint = mint && buys accounts.pool transition
  | _ => false

/-- Whether a step committed the coin as a pool's. -/
def commits : Bool :=
  match transition.action.instruction with
  | .beginLaunch accounts committed => accounts.pool = pool ∧ committed = mint
  | _ => false

end Reading

/-- A coin's curve is there. -/
def World.hasCurve (world : World) (mint : Pubkey) : Prop :=
  (world.info (bondingCurvePda mint)).data ≠ []

/-- A filled buy leaves the curve account in place. -/
def Env.KeepsCurve (env : Env) : Prop :=
  ∀ world accounts spendable minTokensOut fill,
    env.buyExactSolIn world accounts spendable minTokensOut = some fill → fill.curve ≠ []

/-- What a step can do to one coin's curve. -/
inductive CurveEffect (mint : Pubkey) (transition : Transition) : Prop where
  | kept (untraded : creates mint transition = false ∧ fills mint transition = false)
      (same : transition.pre.hasCurve mint ↔ transition.post.hasCurve mint)
  | created (creating : creates mint transition = true) (absent : ¬ transition.pre.hasCurve mint)
      (present : transition.post.hasCurve mint)
  | traded (uncreated : creates mint transition = false) (before : transition.pre.hasCurve mint)
      (after : transition.post.hasCurve mint)

section Step

variable {env : Env} {before after : World} {action : Action} {mint : Pubkey}

/-- A step that is no trade and writes no account leaves every curve as it is. -/
theorem CurveEffect.of_info
    (other : creates mint ⟨before, action, after⟩ = false ∧
      fills mint ⟨before, action, after⟩ = false)
    (same : after.info = before.info) : CurveEffect mint ⟨before, action, after⟩ :=
  .kept other (by rw [World.hasCurve, World.hasCurve, same])

/-- Whatever a step does, this is what it does to a coin's curve. -/
theorem step_curveEffect (keeps : env.KeepsCurve) (home : before.RecordsAtHome)
    (taken : step env before action = .ok after) (mint : Pubkey) :
    CurveEffect mint ⟨before, action, after⟩ := by
  obtain ⟨now, instruction⟩ := action
  cases instruction with
  | createPool accounts args =>
    obtain ⟨paid, _, signed, target, -, -, rent, -, -, -, -, -, -, rfl⟩ := createPool_ok.mp taken
    have differ : accounts.creator ≠ accounts.pool :=
      Pubkey.ne_of_canSign signed (by rw [target]; rfl)
    exact .of_info ⟨rfl, rfl⟩ (World.moveLamports_moved differ rent).info
  | contribute accounts amount =>
    obtain ⟨account, opened, allocated, paid, _, _, _, signed, loaded, record, ready, -, -, -, -, -,
      -, transferred, -, -, -, -, rfl⟩ := (contribute_ok home.stakes).mp taken
    have moved := World.moveLamports_moved (signer_ne_pool signed loaded) transferred
    -- Neither the rent of a new record nor the deposit touches other accounts' bytes.
    rcases initIfNeeded_paid signed record ready with rfl | ⟨rent, rented⟩
    · exact .of_info ⟨rfl, rfl⟩ moved.info
    · exact .of_info ⟨rfl, rfl⟩ (moved.info.trans rented.info)
  | beginLaunch accounts committed =>
    obtain ⟨_, -, -, -, -, -, -, -, -, rfl⟩ := beginLaunch_ok.mp taken
    exact .of_info ⟨rfl, rfl⟩ rfl
  | completeBuy accounts minTokensOut =>
    obtain ⟨account, credited, checked, done⟩ := completeBuy_ok.mp taken
    rcases done with ⟨bought, rfl⟩ | ⟨edited, filled, reloaded, -, -, -, -, landed, -, -, moved,
      called, -, -, rfl⟩
    · -- A repeated call finds no launching pool, so it is no buy.
      have stored := (loadPool_ok.mp checked.loaded).1
      exact .of_info ⟨rfl, by simp [fills, buys, stored, bought]⟩ rfl
    · obtain ⟨_, fill, paid, tokens, -, curve, -, -, quoted, -, foreign, payments, -, rfl⟩ :=
        cpiBuyExactSolIn_ok.mp called
      have edit := World.moveLamports_moved (pool_ne_buyer checked.loaded checked.buyer) moved
      have out := Fill.paidOut (derived_of_buyerSeeds checked.buyer) foreign payments
      simp only [CompleteBuyAccounts.handedOn_bondingCurve, CompleteBuyAccounts.handedOn_mint]
        at curve
      by_cases same : accounts.mint = mint
      · -- The curve bought on is the coin's, which had landed and stays.
        subst same
        rw [curve] at landed
        exact .traded rfl landed (by
          simpa [World.hasCurve, curve] using keeps _ _ _ _ _ quoted)
      · have away : bondingCurvePda mint ≠ accounts.bondingCurve := by
          rw [curve]
          simp [bondingCurvePda, Ne.symm same]
        exact .kept ⟨rfl, by simp [fills, same]⟩ (by
          simp [World.hasCurve, Function.update_of_ne away, out.info, edit.info])
  | finalize accounts =>
    obtain ⟨_, _, _, _, _, _, _, -, -, -, -, -, -, -, -, -, -, -, -, -, rfl⟩ :=
      finalize_ok.mp taken
    exact .of_info ⟨rfl, rfl⟩ rfl
  | claim accounts =>
    obtain ⟨_, _, _, _, _, _, _, -, -, -, -, -, -, -, -, -, -, rfl⟩ := claim_ok.mp taken
    exact .of_info ⟨rfl, rfl⟩ rfl
  | refund accounts =>
    obtain ⟨_, _, _, _, paid, signed, loaded, -, -, -, -, -, -, -, -, edited, rfl⟩ :=
      refund_ok.mp taken
    exact .of_info ⟨rfl, rfl⟩
      (World.moveLamports_moved (signer_ne_pool signed loaded).symm edited).info
  | markRefundable accounts =>
    obtain ⟨_, -, -, -, -, rfl⟩ := markRefundable_ok.mp taken
    exact .of_info ⟨rfl, rfl⟩ rfl
  | closePool accounts =>
    obtain ⟨_, paid, signed, loaded, -, -, -, transferred, rfl⟩ := closePool_ok.mp taken
    exact .of_info ⟨rfl, rfl⟩
      (World.moveLamports_moved (signer_ne_pool signed loaded).symm transferred).info
  | systemTransfer source target amount =>
    simp only [step, bind_eq_ok, constraint_eq_ok, exists_const] at taken
    obtain ⟨-, differ, transferred⟩ := taken
    exact .of_info ⟨rfl, rfl⟩ (World.moveLamports_moved differ transferred).info
  | token instruction =>
    simp only [step, bind_eq_ok, pure_eq_ok] at taken
    obtain ⟨tokens, -, rfl⟩ := taken
    exact .of_info ⟨rfl, rfl⟩ rfl
  | writeAccount written info =>
    simp only [step, bind_eq_ok, constraint_eq_ok, exists_const, pure_eq_ok] at taken
    obtain ⟨plain, -, rfl⟩ := taken
    -- A curve's address is derived by pump, so it is not the one written.
    have away : bondingCurvePda mint ≠ written := by
      intro same
      rw [← same] at plain
      cases plain
    exact .kept ⟨rfl, rfl⟩ (by simp [World.hasCurve, Function.update_of_ne away])
  | pumpCreate created data =>
    simp only [step, bind_eq_ok, constraint_eq_ok, exists_const, pure_eq_ok] at taken
    obtain ⟨⟨absent, named⟩, rfl⟩ := taken
    by_cases same : created = mint
    · subst same
      exact .created (by simp [creates]) (by simpa [World.hasCurve] using absent)
        (by simpa [World.hasCurve] using named)
    · have away : bondingCurvePda mint ≠ bondingCurvePda created := by
        simp [bondingCurvePda, Ne.symm same]
      exact .kept ⟨by simp [creates, same], rfl⟩
        (by simp [World.hasCurve, Function.update_of_ne away])
  | pumpTrade side trader traded amount data =>
    obtain ⟨paid, landed, named, -, differ, transferred, rfl⟩ := pumpTrade_ok taken
    have moved := World.moveLamports_moved differ transferred
    by_cases same : traded = mint
    · subst same
      exact .traded rfl landed (by simpa [World.hasCurve] using named)
    · have away : bondingCurvePda mint ≠ bondingCurvePda traded := by
        simp [bondingCurvePda, Ne.symm same]
      exact .kept ⟨rfl, by cases side <;> simp [fills, same]⟩
        (by simp [World.hasCurve, Function.update_of_ne away, moved.info])

end Step

end Batchit
