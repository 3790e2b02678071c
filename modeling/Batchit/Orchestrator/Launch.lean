import Batchit.Orchestrator.StateMachine
import Mathlib.Logic.Function.Basic

/-! The orchestrator's launch: what it writes and sends, and what a crash leaves of it. -/

namespace Batchit

namespace Orchestrator

/-- How bundles reach the chain: through Jito, or one after the other for debugging. -/
inductive SubmissionMode where
  | jito
  | sequentialDebug
  deriving DecidableEq, Repr

/-- What the orchestrator remembers of a pool's launch. -/
structure LaunchState where
  pool : String
  mint : String
  stage : Stage
  lastBundleId : Option String
  lastError : Option String
  updatedAt : String
  submissionMode : SubmissionMode
  deriving DecidableEq, Repr

/-- A file that a crash cut short while it was written is no longer read. -/
inductive File where
  | absent
  | holds (state : LaunchState)
  | torn
  deriving DecidableEq, Repr

/-- What the block engine answers; a message may be missing from its error. -/
structure JitoReply where
  result : Option String
  error : Option (Option String)
  deriving DecidableEq, Repr

/-- What came of a bundle: the id it was taken under, or why it was not. -/
inductive BundleResult where
  | ok (bundleId : String)
  | error (message : String)
  deriving DecidableEq, Repr

/-- What comes of a bundle that is sent, given the answer or what the network threw. -/
def sendJitoBundle : Except String JitoReply → BundleResult
  | .error thrown => .error thrown
  | .ok json =>
    match json.error with
    | some message => .error (message.getD "jito error")
    | none =>
      if json.result.getD "" = "" then .error "empty jito result"
      else .ok (json.result.getD "")

/-- What a launch finds around it: its variables, the files they name, the clock, and the network. -/
structure Surroundings where
  batchitPool : Option String
  batchitMint : Option String
  allowSequentialRpc : Bool
  /-- Whether the keypair is read. -/
  payer : Bool
  /-- The transactions of the bundle, if a file of them is named and if it is read. -/
  bundleTxs : Option (Option (List String))
  /-- The signed tip, unless building it throws. -/
  tip : Option String
  reply : Except String JitoReply
  /-- The time at each of the two writes. -/
  now : Fin 2 → String

/-! ### Where a pool's file lies -/

/-- The names of the directories that lead to a file, from the file system's root. -/
abbrev Path := List (List Char)

/-- Where a name leads from a directory: a dot stays in it, and two dots lead back out of it. -/
def Path.enter (directory : Path) (name : List Char) : Path :=
  if name = [] ∨ name = ['.'] then directory
  else if name = ['.', '.'] then directory.dropLast
  else directory ++ [name]

/-- Where a relative path leads from a directory. -/
def Path.join (directory : Path) (relative : String) : Path :=
  (relative.toList.splitOn '/').foldl Path.enter directory

/-- The file of a pool, below the root of the repository; another spelling may name it too. -/
def statePath (root : Path) (pool : String) : Path :=
  (root.join "apps/orchestrator/state").join (pool ++ ".json")

example (root : Path) : statePath root "./P" = statePath root "P" := rfl

/-! ### One launch -/

/-- What a launch does to the world: it writes its state, or sends a bundle for its pool. -/
inductive Effect where
  | save (state : LaunchState)
  | submit (pool : String) (txs : List String) (result : BundleResult)
  deriving DecidableEq, Repr

/-- The pool an effect is for. -/
def Effect.pool : Effect → String
  | .save state => state.pool
  | .submit pool _ _ => pool

/-- The state is stamped with the time as it is written. -/
def save (state : LaunchState) (now : String) : Effect := .save { state with updatedAt := now }

/-- How the launch is to submit: sequentially only for debugging. -/
def Surroundings.mode (found : Surroundings) : SubmissionMode :=
  if found.allowSequentialRpc then .sequentialDebug else .jito

/-- The state to resume from: what the file holds, or a new one if there is no file. -/
def Surroundings.state (found : Surroundings) (pool : String) : File → Option LaunchState
  | .torn => none
  | .holds state => some { state with submissionMode := found.mode }
  | .absent => some {
      pool
      mint := found.batchitMint.getD ""
      stage := .idle
      lastBundleId := none
      lastError := none
      updatedAt := found.now 0
      submissionMode := found.mode }

/-- A bundle is sent between two writes: that it is sent, and what came of it. -/
def submitBundle (found : Surroundings) (state : LaunchState) (all : List String) : List Effect :=
  -- The stage is written before the bundle is sent, so that a crash leaves a trace of it.
  let state := { state with stage := .bundleSubmitted }
  let res := sendJitoBundle found.reply
  let after := match res with
    | .error message => { state with stage := .failed, lastError := some message }
    | .ok bundleId => { state with lastBundleId := some bundleId, stage := .confirming }
  [save state (found.now 0), .submit state.pool all res, save after (found.now 1)]

/-- What a launch does, in order, if nothing stops it. -/
def main (root : Path) (found : Surroundings) (files : Path → File) : List Effect :=
  let pool := found.batchitPool.getD ""
  if pool = "" then []
  else match found.state pool (files (statePath root pool)) with
    | none => []
    | some state =>
      if ¬ found.payer then []
      else match found.bundleTxs with
        | none => [save { state with stage := .buildingBundle } (found.now 0)]
        -- The file that is named cannot be read.
        | some none => []
        | some (some txs) =>
          match state.submissionMode, found.tip with
          | .sequentialDebug, _ => []
          | .jito, none => []
          | .jito, some tip => submitBundle found state (txs ++ [tip])

/-! ### Launches that may crash -/

/-- The files, and all that was done under the pools of each, newest first. -/
structure Deployment where
  files : Path → File
  done : Path → List Effect

/-- No launch was started yet, and no pool has a file. -/
def Deployment.start : Deployment where
  files _ := .absent
  done _ := []

/-- A launch, and how far it gets: so many effects, and a crash may cut the next write short. -/
structure Launch where
  found : Surroundings
  survives : Nat
  cut : Bool

section Crashes

variable (root : Path)

/-- An effect is done; a state is written to the file of the pool that it names. -/
def perform (world : Deployment) (effect : Effect) : Deployment where
  files := match effect with
    | .save state => Function.update world.files (statePath root state.pool) (.holds state)
    | .submit _ _ _ => world.files
  done := Function.update world.done (statePath root effect.pool)
    (effect :: world.done (statePath root effect.pool))

/-- A crash may cut the next effect short, if that is a write. -/
def tear (world : Deployment) (cut : Bool) (next : Option Effect) : Deployment :=
  match cut, next with
  | true, some (.save state) =>
    { world with files := Function.update world.files (statePath root state.pool) .torn }
  | _, _ => world

/-- What a launch leaves, however far it gets. -/
def launch (world : Deployment) (attempt : Launch) : Deployment :=
  let effects := main root attempt.found world.files
  tear root ((effects.take attempt.survives).foldl (perform root) world) attempt.cut
    (effects.drop attempt.survives).head?

end Crashes

end Orchestrator

end Batchit
