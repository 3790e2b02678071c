import Batchit.Properties.Custody
import Batchit.Protocol.Market

/-! What may trade on a coin's curve before a pool buys there: nothing before the coin is created. -/

namespace Batchit

/-! ### The history of a curve -/

section Curve

variable {env : Env} {start world : World} {history newer older : List Transition}
variable {transition : Transition} {mint : Pubkey}

/-- A step that creates a coin finds no curve of it. -/
theorem CurveEffect.absent_of_creates (effect : CurveEffect mint transition)
    (creating : creates mint transition = true) : ¬ transition.pre.hasCurve mint := by
  -- Pump creates a curve only where there is none.
  cases effect with
  | kept other _ =>
    rw [other.1] at creating
    cases creating
  | created _ absent _ => exact absent
  | traded uncreated _ _ =>
    rw [uncreated] at creating
    cases creating

/-- No step both creates a coin and fills a buy on it. -/
theorem not_fills_of_creates {mint : Pubkey} {transition : Transition}
    (creating : creates mint transition = true) : fills mint transition = false := by
  unfold creates at creating
  unfold fills
  -- The two are read off different instructions.
  cases named : transition.action.instruction <;> simp_all

/-- A step that fills a buy finds the curve in place. -/
theorem CurveEffect.present_of_fills (effect : CurveEffect mint transition)
    (filling : fills mint transition = true) : transition.pre.hasCurve mint := by
  -- Only a curve that has landed is traded on.
  cases effect with
  | kept other _ =>
    rw [other.2] at filling
    cases filling
  | created creating _ _ =>
    rw [not_fills_of_creates creating] at filling
    cases filling
  | traded _ before _ => exact before

/-- A step that leaves a curve where there was none creates the coin. -/
theorem CurveEffect.creates_of_turn (effect : CurveEffect mint transition)
    (absent : ¬ transition.pre.hasCurve mint) (present : transition.post.hasCurve mint) :
    creates mint transition = true := by
  -- A trade needs the curve before it, so it does not bring one about.
  cases effect with
  | kept _ same => exact absurd (same.mpr present) absent
  | created creating _ _ => exact creating
  | traded _ before _ => exact absurd before absent

/-- A curve that is there stays. -/
theorem CurveEffect.stays (effect : CurveEffect mint transition)
    (present : transition.pre.hasCurve mint) : transition.post.hasCurve mint := by
  -- No effect takes a curve away.
  cases effect with
  | kept _ same => exact same.mp present
  | created _ _ after => exact after
  | traded _ _ after => exact after

/-- Along a run a curve that is there stays. -/
theorem run_hasCurve (keeps : env.KeepsCurve) (home : start.RecordsAtHome)
    (run : Run env start history world) (present : start.hasCurve mint) : world.hasCurve mint := by
  -- A step's effect on the curve is known where records are at home, so both are carried.
  have both : world.RecordsAtHome ∧ world.hasCurve mint := by
    apply run.invariant ⟨home, present⟩
    intro pre action post carried taken
    exact ⟨step_recordsAtHome carried.1 taken,
      (step_curveEffect keeps carried.1 taken mint).stays carried.2⟩
  exact both.2

/-- No buy is filled on a curve before the coin is created. -/
theorem no_fill_before_creation (genesis : Genesis start) (keeps : env.KeepsCurve)
    (run : Run env start (newer ++ transition :: older) world)
    (creating : creates mint transition = true) :
    ∀ earlier ∈ older, fills mint earlier = false := by
  intro earlier member
  by_contra filling
  rw [Bool.not_eq_false] at filling
  obtain ⟨before, taken, -⟩ := run.split
  have absent := (step_curveEffect keeps (run_recordsAtHome genesis before) taken
    mint).absent_of_creates creating
  -- The fill had a curve, which would still be there when the coin is created.
  obtain ⟨later, first, rfl⟩ := List.append_of_mem member
  obtain ⟨begun, filled, rest⟩ := before.split
  have home := run_recordsAtHome genesis begun
  have effect := step_curveEffect keeps home filled mint
  have present := effect.stays (effect.present_of_fills filling)
  exact absent (run_hasCurve keeps (step_recordsAtHome home filled) rest present)

/-- The fills of a history with the coin's creation in it are the fills since the creation. -/
theorem no_fill_iff_since (genesis : Genesis start) (keeps : env.KeepsCurve)
    (run : Run env start (newer ++ transition :: older) world)
    (creating : creates mint transition = true) :
    (∀ next ∈ newer ++ transition :: older, fills mint next = false) ↔
      ∀ next ∈ newer, fills mint next = false := by
  constructor
  · intro none next member
    exact none next (List.mem_append_left _ member)
  · intro none next member
    -- A step is newer than the creation, or the creation itself, or older.
    rcases List.mem_append.mp member with later | earlier
    · exact none next later
    · rcases List.mem_cons.mp earlier with same | earlier
      · rw [same]
        exact not_fills_of_creates creating
      · exact no_fill_before_creation genesis keeps run creating next earlier

/-- A curve that was not there at the start was created along the way. -/
theorem run_created (genesis : Genesis start) (keeps : env.KeepsCurve)
    (run : Run env start history world) (fresh : ¬ start.hasCurve mint)
    (present : world.hasCurve mint) :
    ∃ between creation before, history = between ++ creation :: before ∧
      creates mint creation = true := by
  obtain ⟨between, creation, before, rfl, absent, after, -⟩ :=
    run.last_turn (fun state => state.hasCurve mint) fresh present
  -- The turn from no curve to one is a step of the run.
  obtain ⟨begun, taken, -⟩ := run.split
  exact ⟨between, creation, before, rfl,
    (step_curveEffect keeps (run_recordsAtHome genesis begun) taken mint).creates_of_turn absent
      after⟩

end Curve

/-! ### The history of a pool's mint -/

/-- A pool's account carries a mint. -/
def World.hasMint (world : World) (pool mint : Pubkey) : Prop :=
  ∃ account, world.pools pool = some account ∧ account.mint = mint

section Mint

variable {env : Env} {start world : World} {history : List Transition} {pool mint : Pubkey}

/-- A step that leaves a pool with a mint it did not have begins its launch. -/
theorem Effect.commits_of_turn {before after : World} {action : Action}
    (effect : Effect env pool before action after) (named : mint ≠ .default)
    (unset : ¬ before.hasMint pool mint) (set : after.hasMint pool mint) :
    commits pool mint ⟨before, action, after⟩ = true := by
  obtain ⟨account, stored, rfl⟩ := set
  -- Every other effect leaves the account with the mint it had, or opens it with none.
  cases effect with
  | untouched _ frame => exact absurd ⟨account, frame.account ▸ stored, rfl⟩ unset
  | created _ _ _ effect =>
    rw [effect.account, Option.some.injEq] at stored
    subst stored
    exact absurd rfl named
  | contributed _ _ was _ _ _ effect =>
    rw [effect.accountAfter, Option.some.injEq] at stored
    subst stored
    exact absurd ⟨was, effect.stored, rfl⟩ unset
  | launched accounts committed _ effect =>
    rw [effect.accountAfter, Option.some.injEq] at stored
    subst stored
    simp [commits, effect.instruction, effect.target]
  | spent _ _ was _ _ effect =>
    rw [effect.accountAfter, Option.some.injEq] at stored
    subst stored
    exact absurd ⟨was, effect.stored, rfl⟩ unset
  | repeated _ _ _ effect => exact absurd ⟨account, effect.same ▸ stored, rfl⟩ unset
  | settled _ was _ _ _ _ _ effect =>
    rw [effect.accountAfter, Option.some.injEq] at stored
    subst stored
    exact absurd ⟨was, effect.stored, rfl⟩ unset
  | claimed _ was _ _ _ _ _ effect =>
    rw [effect.accountAfter, Option.some.injEq] at stored
    subst stored
    exact absurd ⟨was, effect.stored, rfl⟩ unset
  | refunded _ was _ _ _ effect =>
    rw [effect.accountAfter, Option.some.injEq] at stored
    subst stored
    exact absurd ⟨was, effect.stored, rfl⟩ unset
  | marked _ was effect =>
    rw [effect.accountAfter, Option.some.injEq] at stored
    subst stored
    exact absurd ⟨was, effect.stored, rfl⟩ unset
  | closed _ _ effect =>
    rw [effect.accountAfter] at stored
    cases stored
  | endowed _ _ effect => exact absurd ⟨account, effect.account ▸ stored, rfl⟩ unset

/-- A step after which a pool's account is still there did not close it. -/
theorem Effect.not_closes {before after : World} {action : Action}
    (effect : Effect env pool before action after) (live : after.hasMint pool mint) :
    closes pool ⟨before, action, after⟩ = false := by
  obtain ⟨account, stored, -⟩ := live
  by_contra closing
  rw [Bool.not_eq_false] at closing
  -- The closing itself would have left no account.
  obtain ⟨accounts, was, closed⟩ := effect.closed_of_closes closing
  rw [closed.accountAfter] at stored
  cases stored

/-- A pool's mint was committed by beginning its launch, in the same life of the pool. -/
theorem run_committed (genesis : Genesis start) (run : Run env start history world)
    (named : mint ≠ .default) (carries : world.hasMint pool mint) :
    ∃ later commit before, history = later ++ commit :: before ∧
      commits pool mint commit = true ∧ ∀ next ∈ later, closes pool next = false := by
  -- There was no pool at the start, so some step set the mint, and it was set ever since.
  have noMint : ¬ start.hasMint pool mint := by
    intro carried
    obtain ⟨account, stored, -⟩ := carried
    rw [genesis.noPools] at stored
    cases stored
  obtain ⟨creator, seed, rfl⟩ : ∃ creator seed, pool = .pool creator seed := by
    obtain ⟨account, stored, -⟩ := carries
    exact run_poolsAtHome genesis run stored
  obtain ⟨later, commit, before, rfl, unset, set, since⟩ :=
    run.last_turn (fun state => state.hasMint (.pool creator seed) mint) noMint carries
  have effect := run_effect genesis run creator seed
  refine ⟨later, commit, before, rfl, effect.commits_of_turn named unset set, ?_⟩
  -- From then on the account carries the mint, so no step removed it.
  intro next member
  obtain ⟨newer, older, rfl⟩ := List.append_of_mem member
  rw [List.append_assoc, List.cons_append] at run
  exact (run_effect genesis run creator seed).not_closes (since next member).2

end Mint

/-! ### The pool's buy -/

/-- What the history before a pool's buy holds of its coin. -/
structure FillsAfterCreation (pool mint : Pubkey) (earlier : List Transition) : Prop where
  /-- The coin was committed as the pool's, in the same life of the pool. -/
  committed : ∃ later commit before, earlier = later ++ commit :: before ∧
    commits pool mint commit = true ∧ ∀ next ∈ later, closes pool next = false
  /-- The coin was created; only after that can other buys have come first. -/
  created : ∃ between creation before, earlier = between ++ creation :: before ∧
    creates mint creation = true ∧ (∀ next ∈ before, fills mint next = false) ∧
    ((∀ next ∈ earlier, fills mint next = false) ↔ ∀ next ∈ between, fills mint next = false)
  /-- Directly after the coin's creation, the pool's buy is the first. -/
  bundled : ∀ creation before, earlier = creation :: before → creates mint creation = true →
    ∀ next ∈ earlier, fills mint next = false

section Buy

variable {env : Env} {start world : World} {newer older : List Transition}
variable {transition : Transition} {pool : Pubkey} {account : Pool}

/--
A pool buys only a coin that was committed and created before, and no buy precedes the creation.

The pool's buy is the first fill exactly when no buy lies between the creation and it.
-/
theorem fills_after_creation (genesis : Genesis start) (keeps : env.KeepsCurve)
    (run : Run env start (newer ++ transition :: older) world)
    (buying : buys pool transition = true) (stored : transition.pre.pools pool = some account)
    (fresh : ¬ start.hasCurve account.mint) : FillsAfterCreation pool account.mint older := by
  obtain ⟨accounts, minTokensOut, live, _, fill, spent⟩ := spent_of_recorded genesis run buying
  have same := spent.stored
  rw [stored, Option.some.injEq] at same
  subst same
  obtain ⟨reached, taken, -⟩ := run.split
  obtain ⟨creator, seed, rfl⟩ := run_poolsAtHome genesis reached stored
  -- The buy is itself a fill, so the curve was there, and it was created along the way.
  have filling : fills account.mint transition = true := by
    simp [fills, spent.instruction, spent.mint, spent.target, buying]
  have present := (step_curveEffect keeps (run_recordsAtHome genesis reached) taken
    account.mint).present_of_fills filling
  obtain ⟨between, creation, before, cut, creating⟩ := run_created genesis keeps reached fresh
    present
  -- A launching pool carries the mint it was committed.
  have named := ((run_poolInvariant genesis reached creator seed).account account
    stored).phase.named spent.status
  constructor
  · exact run_committed genesis reached named ⟨account, stored, rfl⟩
  · rw [cut] at reached ⊢
    exact ⟨between, creation, before, rfl, creating,
      no_fill_before_creation genesis keeps reached creating,
      no_fill_iff_since genesis keeps reached creating⟩
  · intro newest rest bundle created
    rw [bundle] at reached ⊢
    -- Nothing lies between the creation and the buy.
    have reached : Run env start ([] ++ newest :: rest) transition.pre := reached
    have since := no_fill_iff_since genesis keeps reached created
    exact since.mpr fun next member => absurd member List.not_mem_nil

end Buy

/-- Pump as documented writes the reserves back into the curve, which stays. -/
theorem documentedEnv_keepsCurve (encoding : Encoding)
    (protocolFeeBps creatorFeeBps accumulatorSpace : Nat) :
    (documentedEnv encoding protocolFeeBps creatorFeeBps accumulatorSpace).KeepsCurve := by
  intro world accounts spendable minTokensOut fill filled
  simp only [documentedEnv, documentedBuy, Option.bind_eq_bind, Option.bind_eq_some_iff] at filled
  obtain ⟨reserves, -, filled⟩ := filled
  split at filled
  · -- The four reserves alone are thirty-two bytes.
    simp only [Option.some.injEq] at filled
    subst filled
    simp [writeReserves, Borsh.u64, Bytes.ofNumber]
  · cases filled

/-- The sample pump is as documented. -/
theorem Sample.keepsCurve : Sample.env.KeepsCurve :=
  documentedEnv_keepsCurve Sample.encoding 95 5 137

/-- In the sample launch the coin is committed, then created, and bought by the pool first. -/
theorem fills_after_creation_sample : ∃ transition older,
    Sample.past Sample.purchased = transition :: older ∧
      FillsAfterCreation Sample.pool Sample.mint older ∧
      ∀ next ∈ older, fills Sample.mint next = false := by
  obtain ⟨transition, older, cut⟩ : ∃ transition older,
      Sample.past Sample.purchased = transition :: older :=
    List.exists_cons_of_length_pos (by decide +kernel)
  have run : Run Sample.env Sample.start (Sample.past Sample.purchased)
      (Sample.reach Sample.purchased) := Sample.run (by decide +kernel)
  -- What the newest step is, and what the older ones are not, is computed from the history.
  have newest : (Sample.past Sample.purchased).head?.any (fun next => buys Sample.pool next &&
      (next.pre.pools Sample.pool).any (·.mint = Sample.mint)) = true := by decide +kernel
  have unsold : (Sample.past Sample.purchased).tail.all
      (fun next => !fills Sample.mint next) = true := by decide +kernel
  rw [cut] at run newest unsold
  simp only [List.head?_cons, Option.any_some, Bool.and_eq_true, Option.any_eq_true,
    decide_eq_true_eq] at newest
  obtain ⟨buying, account, stored, named⟩ := newest
  refine ⟨transition, older, cut, ?_, ?_⟩
  · rw [← named]
    have run : Run Sample.env Sample.start ([] ++ transition :: older)
        (Sample.reach Sample.purchased) := run
    exact fills_after_creation Sample.genesis Sample.keepsCurve run buying stored
      (by simp [World.hasCurve, Sample.start])
  · intro next member
    simpa using List.all_eq_true.mp unsold next member

/-! ### A coin traded before the pool buys it -/

/-- No buy on the coin's curve comes before a pool's. -/
def BuysFirst (pool : Pubkey) (history : List Transition) : Prop :=
  ∀ newer transition older, history = newer ++ transition :: older →
    buys pool transition = true → ∀ account, transition.pre.pools pool = some account →
      ∀ earlier ∈ older, fills account.mint earlier = false

namespace Sample

/-- The sample curve after a third party has put three sol into it. -/
def tradedData : List UInt8 :=
  writeReserves curveData {
    virtualTokenReserves := 975454545454546
    virtualQuoteReserves := 33000000000
    realTokenReserves := 695554545454546
    realQuoteReserves := 3000000000 }

/-- Someone with no part in the pool. -/
def stranger : Pubkey := .key 4

/-- A coin is created and traded, and then someone with no part in the pool commits it there. -/
def sniped : List Action :=
  raise ++ [⟨40, .token (.initializeAccount curveAta mint curve)⟩,
    ⟨40, .token (.mintTo curveAta 1000000000000000)⟩,
    ⟨40, .pumpCreate mint curveData⟩,
    ⟨50, .pumpTrade .buy stranger mint 3000000000 tradedData⟩,
    ⟨100, .beginLaunch ⟨stranger, pool⟩ mint⟩,
    ⟨101, .token (.initializeAccount vault mint (.buyer pool))⟩,
    buy vault]

end Sample

/-- Anyone can have the escrow buy a coin that was created and traded before it was committed. -/
theorem first_fill_sniped :
    Genesis Sample.start ∧ ¬ Sample.start.hasCurve Sample.mint ∧
      Run Sample.env Sample.start (Sample.past Sample.sniped) (Sample.reach Sample.sniped) ∧
      ¬ BuysFirst Sample.pool (Sample.past Sample.sniped) := by
  refine ⟨Sample.genesis, by simp [World.hasCurve, Sample.start], Sample.run (by decide +kernel),
    ?_⟩
  intro first
  obtain ⟨transition, older, cut⟩ : ∃ transition older,
      Sample.past Sample.sniped = transition :: older :=
    List.exists_cons_of_length_pos (by decide +kernel)
  -- The newest step is the pool's buy, and an older one is the third party's.
  have newest : (Sample.past Sample.sniped).head?.any (fun next => buys Sample.pool next &&
      (next.pre.pools Sample.pool).any (·.mint = Sample.mint)) = true := by decide +kernel
  have sold : (Sample.past Sample.sniped).tail.any (fills Sample.mint) = true := by decide +kernel
  rw [cut] at newest sold
  simp only [List.head?_cons, Option.any_some, Bool.and_eq_true, Option.any_eq_true,
    decide_eq_true_eq] at newest
  obtain ⟨buying, account, stored, named⟩ := newest
  obtain ⟨earlier, member, filling⟩ := List.any_eq_true.mp sold
  have unfilled := first [] transition older cut buying account stored earlier member
  rw [named, filling] at unfilled
  cases unfilled

end Batchit
