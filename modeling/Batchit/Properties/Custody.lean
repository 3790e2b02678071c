import Batchit.Properties.Lifecycle
import Batchit.Protocol.Custody

/-! Custody of the bought tokens: whose token account a buy credits, and what stays there. -/

namespace Batchit

/-! ### From a buy onward -/

section Spent

variable {env : Env} {start : World} {pool : Pubkey} {history later : List Transition}
variable {middle final : World} {account : Pool}

/-- A pool that has bought is never closed again, so every run continues its life. -/
theorem life_of_spent (genesis : Genesis start) (run : Run env start history middle)
    (stored : middle.pools pool = some account)
    (spent : account.status = .Bought ∨ account.status = .Finalized)
    (continued : Run env middle later final) :
    Life env start pool history middle account later final := by
  -- The life so far ends in a pool that has bought, which the next step cannot close.
  induction continued with
  | nil =>
    exact ⟨genesis, run, stored, .nil, fun transition member => absurd member List.not_mem_nil⟩
  | @cons older before after action earlier taken ih =>
    obtain ⟨last, storedLast, continues⟩ := ih.continues
    have reached := run.append earlier
    obtain ⟨creator, seed, rfl⟩ := run_poolsAtHome genesis reached storedLast
    have sound := (run_poolInvariant genesis reached creator seed).account last storedLast
    have effect : Effect env (.pool creator seed) before action after :=
      step_effect (run_recordsAtHome genesis reached) taken
    refine ⟨genesis, run, stored, .cons earlier taken, ?_⟩
    intro transition member
    rcases List.mem_cons.mp member with newest | earlier
    · rw [newest]
      exact effect.open_of_spent storedLast sound (continues.leads.spent spent)
    · exact ih.kept transition earlier

/-- A vault that covers a pool that has bought covers it along the rest of its life. -/
theorem Life.vaultCovers {vault : Pubkey}
    (life : Life env start pool history middle account later final)
    (spent : account.status = .Bought ∨ account.status = .Finalized)
    (covers : account.VaultCovers pool vault middle) :
    ∃ last, final.pools pool = some last ∧ account.Continues last ∧
      last.VaultCovers pool vault final := by
  obtain ⟨genesis, run, stored, continued, kept⟩ := life
  -- The account and the cover are carried together, for the cover is read off the account.
  induction continued with
  | nil => exact ⟨account, stored, .refl account, covers⟩
  | cons earlier taken ih =>
    obtain ⟨was, storedWas, sofar, coversWas⟩ := ih fun transition member =>
      kept transition (List.mem_cons_of_mem _ member)
    have reached := run.append earlier
    obtain ⟨effect, is, storedIs, advances⟩ := life_step genesis reached storedWas taken
      (kept _ List.mem_cons_self)
    obtain ⟨creator, seed, rfl⟩ := run_poolsAtHome genesis reached storedWas
    have sound := (run_poolInvariant genesis reached creator seed).account was storedWas
    have tokens := step_tokenEffect (run_recordsAtHome genesis reached) taken
    exact ⟨is, storedIs, sofar.trans advances.continues, effect.vaultCovers tokens storedWas sound
      (sofar.leads.spent spent) storedIs coversWas⟩

/-- The history of a pool found bought or finalized holds its buy. -/
theorem bought_in_history {world : World} (genesis : Genesis start)
    (run : Run env start history world) (stored : world.pools pool = some account)
    (spent : account.status = .Bought ∨ account.status = .Finalized) :
    ∃ newer transition older, history = newer ++ transition :: older ∧
      buys pool transition = true := by
  -- Step by step backwards: the pool had bought before the newest step, or bought in it.
  induction run generalizing account with
  | nil =>
    rw [genesis.noPools] at stored
    cases stored
  | @cons past before after action earlier taken ih =>
    obtain ⟨creator, seed, rfl⟩ := run_poolsAtHome genesis (.cons earlier taken) stored
    have effect : Effect env (.pool creator seed) before action after :=
      step_effect (run_recordsAtHome genesis earlier) taken
    rcases effect.bought_before stored spent with ⟨was, storedWas, spentWas⟩ | buying
    · obtain ⟨newer, transition, older, cut, buying⟩ := ih storedWas spentWas
      exact ⟨⟨before, action, after⟩ :: newer, transition, older, by rw [cut]; rfl, buying⟩
    · exact ⟨[], ⟨before, action, after⟩, past, rfl, buying⟩

end Spent

/-! ### Custody -/

/-- The account a buy names as its user's belongs to the pool's buyer. -/
def NamesOwnAccount (pool : Pubkey) (transition : Transition) : Prop :=
  ∀ accounts minTokensOut, transition.action.instruction = .completeBuy accounts minTokensOut →
    ∃ credited, transition.pre.tokens.lookup accounts.associatedUser = some credited ∧
      credited.owner = .buyer pool

/-- The tokens a buy counts are in an account of the pool's buyer and of the pool's mint. -/
def CountedInCustody (pool : Pubkey) (transition : Transition) : Prop :=
  ∀ accounts minTokensOut, transition.action.instruction = .completeBuy accounts minTokensOut →
    ∃ is held, transition.post.pools pool = some is ∧
      transition.post.tokens.lookup accounts.associatedUser = some held ∧
      held.owner = .buyer pool ∧ held.mint = is.mint ∧ is.tokensBought ≤ held.amount

/-- A pool that has bought has at least the tokens it counts in its buyer's accounts. -/
def BoughtInCustody (pool : Pubkey) (world : World) : Prop :=
  ∀ account, world.pools pool = some account → account.status = .Bought →
    account.tokensBought.toNat ≤ world.tokens.holdings (.buyer pool) account.mint

/-- The history holds a buy of the pool that credited an account of the pool's own buyer. -/
def BoughtInto (pool vault : Pubkey) (history : List Transition) : Prop :=
  ∃ transition ∈ history, buys pool transition = true ∧ ∃ accounts minTokensOut credited,
    transition.action.instruction = .completeBuy accounts minTokensOut ∧
    accounts.associatedUser = vault ∧ transition.pre.tokens.lookup vault = some credited ∧
    credited.owner = .buyer pool

/-- A recorded buy of a pool spent its escrow. -/
theorem spent_of_recorded {env : Env} {start world : World} {pool : Pubkey}
    {newer older : List Transition} {transition : Transition} (genesis : Genesis start)
    (run : Run env start (newer ++ transition :: older) world)
    (buying : buys pool transition = true) :
    ∃ accounts minTokensOut account credited fill, Spent env pool transition.pre
      transition.action transition.post accounts minTokensOut account credited fill := by
  obtain ⟨before, -, -⟩ := run.split
  -- A buy found its pool stored, so the pool is at a derived address.
  have stored : ∃ account, transition.pre.pools pool = some account := by
    unfold buys at buying
    split at buying
    · simp only [Bool.and_eq_true, Option.any_eq_true] at buying
      obtain ⟨-, account, stored, -⟩ := buying
      exact ⟨account, stored⟩
    · cases buying
  obtain ⟨account, stored⟩ := stored
  obtain ⟨creator, seed, rfl⟩ := run_poolsAtHome genesis before stored
  exact (run_effect genesis run creator seed).spent_of_buys buying

section Recorded

variable {env : Env} {start world : World} {pool : Pubkey} {newer older : List Transition}
variable {transition : Transition} {accounts : CompleteBuyAccounts} {minTokensOut : UInt64}
variable {account was : Pool} {credited : TokenAccount} {fill : Fill}

/-- What follows a recorded buy is one life of the pool it left. -/
theorem Spent.life (spent : Spent env pool transition.pre transition.action transition.post accounts
      minTokensOut was credited fill) (genesis : Genesis start)
    (run : Run env start (newer ++ transition :: older) world) :
    Life env start pool (transition :: older) transition.post
      (was.bought fill.tokensOut (recordedReserves fill.curve)) newer world := by
  obtain ⟨before, taken, continued⟩ := run.split
  exact life_of_spent genesis (.cons before taken) spent.accountAfter (.inl rfl) continued

/-- After a recorded buy the pool stays bought or finalized. -/
theorem Spent.stays_spent (spent : Spent env pool transition.pre transition.action transition.post
      accounts minTokensOut was credited fill) (genesis : Genesis start)
    (run : Run env start (newer ++ transition :: older) world)
    (stored : world.pools pool = some account) :
    account.status = .Bought ∨ account.status = .Finalized := by
  obtain ⟨last, storedLast, continues⟩ := (spent.life genesis run).continues
  rw [stored, Option.some.injEq] at storedLast
  exact storedLast ▸ continues.leads.spent (.inl rfl)

end Recorded

/-- What a buy put into the buyer's own account stays there for the pool's contributors. -/
theorem covers_of_boughtInto {env : Env} {start world : World} {history : List Transition}
    {pool vault : Pubkey} (genesis : Genesis start) (run : Run env start history world)
    (into : BoughtInto pool vault history) :
    ∃ account, world.pools pool = some account ∧ account.VaultCovers pool vault world := by
  obtain ⟨transition, member, buying, named, minOut, credited, instruction, rfl, found, owned⟩ :=
    into
  obtain ⟨newer, older, rfl⟩ := List.append_of_mem member
  obtain ⟨accounts, minTokensOut, was, user, fill, spent⟩ := spent_of_recorded genesis run buying
  have same := spent.instruction.symm.trans instruction
  simp only [Instruction.completeBuy.injEq] at same
  obtain ⟨rfl, -⟩ := same
  have same := spent.user.symm.trans found
  simp only [Option.some.injEq] at same
  subst same
  -- The buy fills the vault, and the cover it gives lasts for the rest of the run.
  obtain ⟨last, stored, -, covers⟩ :=
    (spent.life genesis run).vaultCovers (.inl rfl) (spent.vaultCovers owned)
  exact ⟨last, stored, covers⟩

/-- A buy credits exactly the account it names, and leaves its owner as it was. -/
theorem Spent.countedInCustody_iff {env : Env} {pool : Pubkey} {before after : World}
    {action : Action} {accounts : CompleteBuyAccounts} {minTokensOut : UInt64} {account : Pool}
    {credited : TokenAccount} {fill : Fill}
    (effect : Spent env pool before action after accounts minTokensOut account credited fill) :
    CountedInCustody pool ⟨before, action, after⟩ ↔ NamesOwnAccount pool ⟨before, action, after⟩ := by
  obtain ⟨paying, paid, rest, sum, -, paidAt, -, -, -, reached, moved⟩ :=
    (Tokens.transfer_ok effect.distinct).mp effect.tokens
  rw [effect.user, Option.some.injEq] at paidAt
  subst paidAt
  -- The account credited is the one the call named, with its owner and mint as they were.
  have storedAfter : after.tokens.lookup accounts.associatedUser
      = some { credited with amount := sum } := by rw [moved, AList.lookup_insert]
  constructor
  · intro counted named minOut instruction
    obtain ⟨is, held, -, found, owned, -⟩ := counted named minOut instruction
    have same : accounts = named := by
      have both := effect.instruction.symm.trans instruction
      simp only [Instruction.completeBuy.injEq] at both
      exact both.1
    subst same
    rw [storedAfter, Option.some.injEq] at found
    subst found
    exact ⟨credited, effect.user, owned⟩
  · intro own named minOut instruction
    obtain ⟨account', found, owned⟩ := own named minOut instruction
    have same : accounts = named := by
      have both := effect.instruction.symm.trans instruction
      simp only [Instruction.completeBuy.injEq] at both
      exact both.1
    subst same
    have same : credited = account' := by
      have both := effect.user.symm.trans found
      simpa using both
    subst same
    refine ⟨_, _, effect.accountAfter, storedAfter, owned, effect.userMint, ?_⟩
    apply UInt64.le_iff_toNat_le.mpr
    simp only [Pool.bought]
    omega

/--
A pool's purchase is in its custody exactly as far as its buys name an account of its own buyer.

A single buy is in custody if and only if the account it names belongs to the buyer.
Where every buy of a run names such an account, every bought pool it reaches has its tokens.
-/
theorem custody_of_own_account {env : Env} {start world : World} {history : List Transition}
    (genesis : Genesis start) (run : Run env start history world) (pool : Pubkey) :
    (∀ transition ∈ history, buys pool transition = true →
      (CountedInCustody pool transition ↔ NamesOwnAccount pool transition)) ∧
    ((∀ transition ∈ history, buys pool transition = true → NamesOwnAccount pool transition) →
      BoughtInCustody pool world) := by
  constructor
  · intro transition member buying
    obtain ⟨newer, older, rfl⟩ := List.append_of_mem member
    obtain ⟨accounts, minTokensOut, account, credited, fill, spent⟩ :=
      spent_of_recorded genesis run buying
    exact spent.countedInCustody_iff
  · intro own account stored bought
    obtain ⟨newer, transition, older, rfl, buying⟩ :=
      bought_in_history genesis run stored (.inl bought)
    have member : transition ∈ newer ++ transition :: older := by simp
    obtain ⟨accounts, minTokensOut, was, credited, fill, spent⟩ :=
      spent_of_recorded genesis run buying
    obtain ⟨user, found, owned⟩ := own transition member buying accounts minTokensOut
      spent.instruction
    -- What the buy put into the buyer's account is still there.
    obtain ⟨last, storedLast, covers⟩ := covers_of_boughtInto genesis run
      ⟨transition, member, buying, accounts, minTokensOut, user, spent.instruction, rfl, found,
        owned⟩
    rw [stored, Option.some.injEq] at storedLast
    subst storedLast
    have least := Tokens.Holds.le_holdings covers
    simp only [Pool.vaulted, bought, reduceCtorEq, if_false] at least
    exact least

/-- In the sample launch the buy names the buyer's own account, and the pool has its tokens. -/
theorem custody_of_own_account_sample :
    BoughtInCustody Sample.pool (Sample.reach Sample.purchased) := by
  have named : (Sample.past Sample.purchased).all
      (fun transition => !buys Sample.pool transition ||
        (transition.pre.tokens.lookup Sample.vault).any (·.owner = .buyer Sample.pool) &&
          decide (transition.action = Sample.buy Sample.vault)) = true := by decide +kernel
  apply (custody_of_own_account Sample.genesis (Sample.run (by decide +kernel)) Sample.pool).2
  intro transition member buying accounts minTokensOut instruction
  -- The one buy of the history names the vault, as computed.
  have checked := List.all_eq_true.mp named transition member
  rw [buying] at checked
  simp only [Bool.not_true, Bool.false_or, Bool.and_eq_true, Option.any_eq_true,
    decide_eq_true_eq] at checked
  obtain ⟨⟨credited, found, owned⟩, same⟩ := checked
  rw [same] at instruction
  simp only [Sample.buy, Instruction.completeBuy.injEq] at instruction
  rw [← instruction.1]
  exact ⟨credited, found, owned⟩

namespace Sample

/-- A token account of the caller's own. -/
def stolen : Pubkey := .key 24

/-- A caller opens a token account of its own, and names it in the pool's buy. -/
def theft : List Action :=
  raise ++ market ++ [⟨105, .token (.initializeAccount stolen mint alice)⟩, buy stolen]

end Sample

/-- A caller can direct the pool's purchase to an account of its own. -/
theorem custody_fails :
    Run Sample.env Sample.start (Sample.past Sample.theft) (Sample.reach Sample.theft) ∧
      ¬ BoughtInCustody Sample.pool (Sample.reach Sample.theft) ∧
      (Sample.reach Sample.theft).tokens.balance Sample.stolen = 111109467379353 := by
  refine ⟨Sample.run (by decide +kernel), ?_, by decide +kernel⟩
  intro custody
  -- The pool counts what the caller's account received, and its buyer holds nothing.
  have counted : ((Sample.reach Sample.theft).pools Sample.pool).any (fun account =>
      account.status = .Bought ∧ account.tokensBought = 111109467379353 ∧
        account.mint = Sample.mint) = true := by decide +kernel
  have nothing : (Sample.reach Sample.theft).tokens.holdings (.buyer Sample.pool) Sample.mint = 0 :=
    by decide +kernel
  obtain ⟨account, stored, facts⟩ := (Option.any_eq_true _ _).mp counted
  simp only [decide_eq_true_eq] at facts
  obtain ⟨bought, tokens, mint⟩ := facts
  have held := custody account stored bought
  rw [mint, nothing, tokens] at held
  exact absurd held (by decide)

end Batchit
