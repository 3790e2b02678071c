import Batchit.Orchestrator.Launch

/-! What the orchestrator's file tells of a launch, however often it was started and crashed. -/

namespace Batchit

namespace Orchestrator

/-- The state records what came of the bundle. -/
inductive Answers : BundleResult → LaunchState → Prop
  | ok {state : LaunchState} {bundleId : String} (given : bundleId ≠ "")
      (stage : state.stage = .confirming) (recorded : state.lastBundleId = some bundleId) :
      Answers (.ok bundleId) state
  | error {state : LaunchState} {message : String} (stage : state.stage = .failed)
      (recorded : state.lastError = some message) : Answers (.error message) state

section Files

-- The root of the repository, below which every pool has its file.
variable {root : Path}

/-- A state that announces a bundle, on the file at a path. -/
structure LaunchState.Announces (root path : Path) (state : LaunchState) : Prop where
  own : statePath root state.pool = path
  stage : state.stage = .bundleSubmitted
  mode : state.submissionMode = .jito

/-! ### What one launch does to one file -/

/-- The effects of a launch on the file at a path, if nothing stops it. -/
inductive Plan (root path : Path) (file : File) : List Effect → Prop
  | nothing : Plan root path file []
  | build {state : LaunchState} (whole : file ≠ .torn) (own : statePath root state.pool = path)
      (stage : state.stage = .buildingBundle) : Plan root path file [.save state]
  | send {ahead state : LaunchState} {txs : List String} {result : BundleResult}
      (whole : file ≠ .torn) (written : ahead.Announces root path)
      (own : statePath root state.pool = path) (answers : Answers result state) :
      Plan root path file [.save ahead, .submit ahead.pool txs result, .save state]

/-- An answer that is taken for a bundle's id is one. -/
theorem sendJitoBundle_ok {reply : Except String JitoReply} {bundleId : String}
    (sent : sendJitoBundle reply = .ok bundleId) : bundleId ≠ "" := by
  unfold sendJitoBundle at sent
  -- An error, and an empty answer, are passed on as errors.
  split at sent
  · cases sent
  split at sent
  · cases sent
  split at sent
  · cases sent
  · rename_i given
    rwa [← BundleResult.ok.inj sent]

/-- A bundle in Jito's mode is sent between an announcement and a record of its answer. -/
theorem submitBundle_plan {found : Surroundings} {path : Path} {file : File}
    {state : LaunchState} (whole : file ≠ .torn) (own : statePath root state.pool = path)
    (jito : state.submissionMode = .jito) (all : List String) :
    Plan root path file (submitBundle found state all) := by
  -- The pool's name is not changed on the way, so all three effects are on one file.
  subst own
  unfold submitBundle
  refine .send whole { own := rfl, stage := rfl, mode := jito } ?_ ?_
  · split <;> rfl
  · cases sent : sendJitoBundle found.reply with
    | ok bundleId => exact .ok (sendJitoBundle_ok sent) rfl rfl
    | error message => exact .error rfl rfl

/-- A state is resumed from a file that is whole, and names a pool of that file. -/
theorem state_own {found : Surroundings} {pool : String} {file : File} {state : LaunchState}
    (own : ∀ state, file = .holds state → statePath root state.pool = statePath root pool)
    (resumed : found.state pool file = some state) :
    file ≠ .torn ∧ statePath root state.pool = statePath root pool := by
  cases file with
  | absent =>
    cases resumed
    exact ⟨nofun, rfl⟩
  | holds stored =>
    -- The file may hold another spelling of the pool's name.
    cases resumed
    exact ⟨nofun, own stored rfl⟩
  | torn => cases resumed

/-- Every state is on the file of the pool that it names. -/
def Deployment.Owned (root : Path) (world : Deployment) : Prop :=
  ∀ path state, world.files path = .holds state → statePath root state.pool = path

/-- A launch does nothing, or writes that it builds, or sends a bundle between two writes. -/
theorem main_plan {found : Surroundings} {world : Deployment} (own : world.Owned root) :
    Plan root (statePath root (found.batchitPool.getD ""))
      (world.files (statePath root (found.batchitPool.getD ""))) (main root found world.files) := by
  unfold main
  dsimp only
  split
  · exact .nothing
  split
  · exact .nothing
  rename_i state resumed
  obtain ⟨whole, same⟩ := state_own (own _) resumed
  split
  · exact .nothing
  split
  · exact .build whole same rfl
  · exact .nothing
  · -- Only in Jito's mode, and with a tip, is the bundle sent.
    split
    · exact .nothing
    · exact .nothing
    · rename_i jito _
      exact submitBundle_plan whole same jito _

/-! ### What a launch leaves, however far it gets -/

/-- The file at a path, and what was done under its pools, newest first. -/
abbrev Deployment.at (world : Deployment) (path : Path) : File × List Effect :=
  (world.files path, world.done path)

/-- What is written is what the file holds. -/
theorem perform_save (world : Deployment) {state : LaunchState} {path : Path}
    (own : statePath root state.pool = path) :
    (perform root world (.save state)).at path
      = (.holds state, .save state :: world.done path) := by
  subst own
  -- The state is both written and recorded as done at its own path.
  simp [perform, Effect.pool]

/-- A bundle that is sent is on no file. -/
theorem perform_submit (world : Deployment) {pool : String} {path : Path}
    (own : statePath root pool = path) (txs : List String) (result : BundleResult) :
    (perform root world (.submit pool txs result)).at path
      = (world.files path, .submit pool txs result :: world.done path) := by
  subst own
  -- Sending leaves the files alone and is recorded as done.
  simp [perform, Effect.pool]

/-- A write that is cut short leaves a torn file. -/
theorem tear_save (world : Deployment) {state : LaunchState} {path : Path}
    (own : statePath root state.pool = path) :
    (tear root world true (some (.save state))).at path = (.torn, world.done path) := by
  subst own
  -- A write that does not end is not recorded as done.
  simp [tear]

/-- An effect on another file is not seen. -/
theorem perform_other (world : Deployment) {effect : Effect} {path : Path}
    (other : path ≠ statePath root effect.pool) :
    (perform root world effect).at path = world.at path := by
  -- Whatever is updated is updated at the effect's own path.
  cases effect <;> simp_all [perform, Effect.pool]

/-- What a launch can leave of a file, and what it can have done. -/
inductive Moves (root path : Path) : File × List Effect → File × List Effect → Prop
  | idle (before : File × List Effect) : Moves root path before before
  /-- A crash while the first write is made. -/
  | cut {file : File} {done : List Effect} (whole : file ≠ .torn) :
      Moves root path (file, done) (.torn, done)
  | built {file : File} {done : List Effect} {state : LaunchState} (whole : file ≠ .torn)
      (own : statePath root state.pool = path) (stage : state.stage = .buildingBundle) :
      Moves root path (file, done) (.holds state, .save state :: done)
  /-- A crash before the bundle is sent. -/
  | ahead {file : File} {done : List Effect} {state : LaunchState} (whole : file ≠ .torn)
      (written : state.Announces root path) :
      Moves root path (file, done) (.holds state, .save state :: done)
  /-- A crash once it is sent, perhaps while its answer is written. -/
  | sent {file left : File} {done : List Effect} {state : LaunchState} {txs : List String}
      {result : BundleResult} (whole : file ≠ .torn) (written : state.Announces root path)
      (remains : left = .holds state ∨ left = .torn) :
      Moves root path (file, done) (left, .submit state.pool txs result :: .save state :: done)
  | answered {file : File} {done : List Effect} {ahead state : LaunchState} {txs : List String}
      {result : BundleResult} (whole : file ≠ .torn) (written : ahead.Announces root path)
      (own : statePath root state.pool = path) (answers : Answers result state) :
      Moves root path (file, done)
        (.holds state, .save state :: .submit ahead.pool txs result :: .save ahead :: done)

/-- All effects of a plan are on its file. -/
theorem Plan.path_of_mem {path : Path} {file : File} {effects : List Effect}
    (plan : Plan root path file effects) :
    ∀ effect ∈ effects, statePath root effect.pool = path := by
  cases plan with
  | nothing => exact nofun
  | build whole own stage =>
    simp only [List.mem_singleton, forall_eq]
    exact own
  | send whole written own answers =>
    -- The bundle is sent under the name that the announcement bears.
    simp only [List.forall_mem_cons, List.not_mem_nil, false_implies, implies_true, and_true]
    exact ⟨written.own, written.own, own⟩

/-- Effects on other files are not seen. -/
theorem foldl_perform_other {path : Path} {effects : List Effect}
    (other : ∀ effect ∈ effects, path ≠ statePath root effect.pool) (world : Deployment) :
    (effects.foldl (perform root) world).at path = world.at path := by
  -- None of the effects is seen, one after the other.
  induction effects generalizing world with
  | nil => rfl
  | cons effect rest ih =>
    rw [List.foldl_cons, ih fun later member => other later (List.mem_cons_of_mem _ member)]
    exact perform_other world (other effect List.mem_cons_self)

/-- A write to another file that is cut short is not seen. -/
theorem tear_other {path : Path} {next : Option Effect}
    (other : ∀ effect ∈ next, path ≠ statePath root effect.pool) (world : Deployment)
    (cut : Bool) : (tear root world cut next).at path = world.at path := by
  -- Only a write that is cut short tears anything, and it tears its own file.
  unfold tear
  split
  · exact Prod.ext (Function.update_of_ne (other _ rfl) _ _) rfl
  · rfl

/-- Where nothing is left to do, nothing is cut short. -/
theorem tear_none (world : Deployment) (cut : Bool) : tear root world cut none = world := by
  cases cut <;> rfl

section Moves

variable {world : Deployment} {attempt : Launch} {path : Path}

/-- A launch on another file is not seen. -/
theorem launch_other {file : File} {effects : List Effect} {named : Path}
    (plan : Plan root named file effects) (other : path ≠ named) (survives : Nat) (cut : Bool) :
    (tear root ((effects.take survives).foldl (perform root) world) cut
      (effects.drop survives).head?).at path = world.at path := by
  have unseen : ∀ effect ∈ effects, path ≠ statePath root effect.pool :=
    fun effect member => plan.path_of_mem effect member ▸ other
  -- Neither what is done nor the write that is cut short is on this file.
  rw [tear_other fun effect next => unseen effect (List.mem_of_mem_drop (List.mem_of_head? next))]
  exact foldl_perform_other (fun effect member => unseen effect (List.mem_of_mem_take member)) world

/-- A launch that only writes is done with it, or is cut short in it. -/
theorem build_moves {state : LaunchState} (whole : world.files path ≠ .torn)
    (own : statePath root state.pool = path) (stage : state.stage = .buildingBundle)
    (survives : Nat) (cut : Bool) :
    Moves root path (world.at path)
      ((tear root (([.save state].take survives).foldl (perform root) world) cut
        ([Effect.save state].drop survives).head?).at path) := by
  -- It gets as far as the one write, or is cut short in it.
  match survives, cut with
  | 0, false => exact .idle _
  | 0, true =>
    change Moves root path (world.at path) ((tear root world true (some _)).at path)
    rw [tear_save world own]
    exact .cut whole
  | gone + 1, _ =>
    simp only [List.take_succ_cons, List.take_nil, List.drop_succ_cons, List.drop_nil,
      List.head?_nil, tear_none, List.foldl_cons, List.foldl_nil, perform_save world own]
    exact .built whole own stage

/-- A launch that sends a bundle may end before or behind each of its three effects. -/
theorem send_moves {ahead state : LaunchState} {txs : List String} {result : BundleResult}
    (whole : world.files path ≠ .torn) (written : ahead.Announces root path)
    (own : statePath root state.pool = path) (answers : Answers result state) (survives : Nat)
    (cut : Bool) :
    Moves root path (world.at path)
      ((tear root (([.save ahead, .submit ahead.pool txs result, .save state].take survives).foldl
          (perform root) world) cut
        ([Effect.save ahead, .submit ahead.pool txs result, .save state].drop survives).head?).at
          path) := by
  have saved := perform_save world written.own
  have sent := perform_submit (perform root world (.save ahead)) written.own txs result
  rw [(Prod.mk.inj saved).1, (Prod.mk.inj saved).2] at sent
  -- Three effects may be reached, and two of them are writes that can be cut short.
  match survives, cut with
  | 0, false => exact .idle _
  | 0, true =>
    change Moves root path (world.at path) ((tear root world true (some _)).at path)
    rw [tear_save world written.own]
    exact .cut whole
  | 1, cut =>
    -- What is cut short here is no write.
    have untorn : ∀ other : Deployment,
        tear root other cut (some (.submit ahead.pool txs result)) = other := by
      intro other
      cases cut <;> rfl
    change Moves root path (world.at path)
      ((tear root _ cut (some (.submit ahead.pool txs result))).at path)
    rw [untorn]
    exact saved ▸ .ahead whole written
  | 2, false =>
    change Moves root path (world.at path) ((perform root (perform root world (.save ahead))
      (.submit ahead.pool txs result)).at path)
    rw [sent]
    exact .sent whole written (.inl rfl)
  | 2, true =>
    change Moves root path (world.at path) ((tear root (perform root
      (perform root world (.save ahead)) (.submit ahead.pool txs result)) true
        (some (.save state))).at path)
    rw [tear_save _ own, (Prod.mk.inj sent).2]
    exact .sent whole written (.inr rfl)
  | gone + 3, _ =>
    simp only [List.take_succ_cons, List.take_nil, List.drop_succ_cons, List.drop_nil,
      List.head?_nil, tear_none, List.foldl_cons, List.foldl_nil, perform_save _ own,
      (Prod.mk.inj sent).2]
    exact .answered whole written own answers

/-- A launch moves the file of its pool in one of these ways, by how far it gets. -/
theorem launch_own {effects : List Effect} (plan : Plan root path (world.files path) effects)
    (survives : Nat) (cut : Bool) :
    Moves root path (world.at path)
      ((tear root ((effects.take survives).foldl (perform root) world) cut
        (effects.drop survives).head?).at path) := by
  cases plan with
  | nothing =>
    -- Without an effect there is nothing to be cut short.
    rw [List.take_nil, List.drop_nil]
    cases cut <;> exact .idle _
  | build whole own stage => exact build_moves whole own stage survives cut
  | send whole written own answers => exact send_moves whole written own answers survives cut

/-- A launch moves each file in one of these ways. -/
theorem launch_moves (own : world.Owned root) (attempt : Launch) (path : Path) :
    Moves root path (world.at path) ((launch root world attempt).at path) := by
  have plan := @main_plan root attempt.found world own
  -- It touches the file that its pool's name leads to, and no other.
  by_cases same : path = statePath root (attempt.found.batchitPool.getD "")
  · subst same
    exact launch_own plan _ _
  · unfold launch
    rw [launch_other plan same]
    exact .idle _

end Moves

/-! ### What the file tells -/

/-- What a file says is what was last done under the pools that it is the file of, newest first. -/
inductive Tells (root path : Path) : File → List Effect → Prop
  /-- No file: nothing was done. -/
  | absent : Tells root path .absent []
  /-- A file that cannot be read says nothing. -/
  | torn (done : List Effect) : Tells root path .torn done
  | building {state : LaunchState} {done : List Effect}
      (own : statePath root state.pool = path) (stage : state.stage = .buildingBundle) :
      Tells root path (.holds state) (.save state :: done)
  /-- A bundle was announced; it may have been sent since, but no answer to it was written. -/
  | announced {state : LaunchState} {since done : List Effect}
      (written : state.Announces root path)
      (sent : since = [] ∨ ∃ txs result, since = [.submit state.pool txs result]) :
      Tells root path (.holds state) (since ++ .save state :: done)
  /-- It was sent, and this is what came of it. -/
  | answered {ahead state : LaunchState} {done : List Effect} {txs : List String}
      {result : BundleResult} (written : ahead.Announces root path)
      (own : statePath root state.pool = path) (answers : Answers result state) :
      Tells root path (.holds state)
        (.save state :: .submit ahead.pool txs result :: .save ahead :: done)

/-- Every bundle was sent right behind a write that announces it, and in Jito's mode. -/
inductive WrittenAhead (root path : Path) : List Effect → Prop
  | nil : WrittenAhead root path []
  | save {state : LaunchState} {done : List Effect} (earlier : WrittenAhead root path done) :
      WrittenAhead root path (.save state :: done)
  | submit {state : LaunchState} {done : List Effect} {txs : List String} {result : BundleResult}
      (written : state.Announces root path) (earlier : WrittenAhead root path done) :
      WrittenAhead root path (.submit state.pool txs result :: .save state :: done)

/-- What a file tells is true. -/
structure Told (root path : Path) (slot : File × List Effect) : Prop where
  tells : Tells root path slot.1 slot.2
  ahead : WrittenAhead root path slot.2

section Told

variable {path : Path} {before after : File × List Effect}

/-- A launch leaves a file that tells what it did. -/
theorem Moves.told (moves : Moves root path before after) (told : Told root path before) :
    Told root path after := by
  cases moves with
  | idle => exact told
  | cut whole => exact ⟨.torn _, told.ahead⟩
  | built whole own stage => exact ⟨.building own stage, .save told.ahead⟩
  | ahead whole written => exact ⟨.announced written (.inl rfl), .save told.ahead⟩
  | sent whole written remains =>
    refine ⟨?_, .submit written told.ahead⟩
    -- The announcement is all there is, unless the answer was being written.
    rcases remains with rfl | rfl
    · exact .announced written (.inr ⟨_, _, rfl⟩)
    · exact .torn _
  | answered whole written own answers =>
    exact ⟨.answered written own answers, .save (.submit written told.ahead)⟩

/-- Behind a torn file nothing is done any more. -/
theorem Moves.torn_stays (moves : Moves root path before after) (torn : before.1 = .torn) :
    after = before := by
  -- Every move but the idle one starts from a file that is whole.
  cases moves with
  | idle => rfl
  | cut whole | built whole | ahead whole | sent whole | answered whole => exact absurd torn whole

/-- A state that tells of a file names a pool of that file. -/
theorem Tells.own {state : LaunchState} {done : List Effect}
    (tells : Tells root path (.holds state) done) : statePath root state.pool = path := by
  -- Whatever it tells, the state was written to the file of its own pool.
  cases tells with
  | building own stage => exact own
  | announced written sent => exact written.own
  | answered written own answers => exact own

/-- Where all files are true, each is the file of the pool that it names. -/
theorem Deployment.owned_of_told {world : Deployment}
    (told : ∀ path, Told root path (world.at path)) : world.Owned root := by
  intro path state holds
  have tells := (told path).tells
  -- What the file holds is the state that it tells.
  rw [show (world.at path).1 = .holds state from holds] at tells
  exact tells.own

end Told

/-- Launches leave every file true, from a world in which it is. -/
theorem told_after (launches : List Launch) {world : Deployment}
    (told : ∀ path, Told root path (world.at path)) (path : Path) :
    Told root path ((launches.foldl (launch root) world).at path) := by
  -- Each launch starts from whatever files the one before it left.
  induction launches generalizing world with
  | nil => exact told path
  | cons attempt rest ih =>
    have own := Deployment.owned_of_told told
    exact ih fun path => (launch_moves own attempt path).told (told path)

/-- From a torn file on, launches do nothing on it. -/
theorem torn_stays (launches : List Launch) {world : Deployment}
    (told : ∀ path, Told root path (world.at path)) {path : Path}
    (torn : world.files path = .torn) :
    (launches.foldl (launch root) world).at path = world.at path := by
  -- The next launch leaves the file as it is, and so torn for those behind it.
  induction launches generalizing world with
  | nil => rfl
  | cons attempt rest ih =>
    have own := Deployment.owned_of_told told
    have moved := (launch_moves own attempt path).torn_stays torn
    rw [List.foldl_cons, ih (fun path => (launch_moves own attempt path).told (told path))
      ((Prod.mk.inj moved).1.trans torn), moved]

end Files

/--
Launches may be started as often as one likes and crash anywhere: each file tells what was last done under its pools.

No bundle is sent unless the file announced it before, and none outside Jito's mode.
Where a crash tears the file itself, no later launch does anything under its pools.
-/
theorem launches_told (root : Path) (launches : List Launch) (path : Path) :
    Tells root path ((launches.foldl (launch root) .start).files path)
        ((launches.foldl (launch root) .start).done path) ∧
      WrittenAhead root path ((launches.foldl (launch root) .start).done path) ∧
      ((launches.foldl (launch root) .start).files path = .torn → ∀ later : List Launch,
        (later.foldl (launch root) (launches.foldl (launch root) .start)).at path
          = (launches.foldl (launch root) .start).at path) := by
  have told := @told_after root launches .start fun path => ⟨.absent, .nil⟩
  -- What stands on a torn file stays, since it is true there too.
  exact ⟨(told path).tells, (told path).ahead, fun torn later => torn_stays later told torn⟩

end Orchestrator

end Batchit
