import Batchit.Lib.Machine

/-! Logs of a machine's runs, and the replicas that follow the machine by its log alone. -/

namespace Machine

variable {σ α ε ρ ι : Type}

/-- The events a history logs, oldest first. -/
def logged (emit : Transition σ α → List ι) : List (Transition σ α) → List ι
  | [] => []
  | newest :: earlier => logged emit earlier ++ emit newest

/-- Replay a log on a replica, stopping at the first event it does not accept. -/
def replay (apply : ρ → ι → Option ρ) (replica : ρ) (log : List ι) : Option ρ :=
  log.foldlM apply replica

variable {step : σ → α → Except ε σ} {apply : ρ → ι → Option ρ} {emit : Transition σ α → List ι}

/-- Replaying a log in two parts is replaying it whole. -/
theorem replay_append {replica middle : ρ} {first second : List ι}
    (before : replay apply replica first = some middle) :
    replay apply replica (first ++ second) = replay apply middle second := by
  unfold replay at before ⊢
  rw [List.foldlM_append, before]
  rfl

/--
A replica that every step's events bring along follows every run.

Its log is accepted, and what the replica mirrors at the start it mirrors at the end.
-/
theorem run_replayed {mirrors : σ → ρ → Prop} {start state : σ} {origin : ρ}
    {history : List (Transition σ α)} (run : Run step start history state)
    (initial : mirrors start origin)
    (follows : ∀ history pre action post replica, Run step start history pre →
      mirrors pre replica → step pre action = .ok post →
      ∃ next, replay apply replica (emit ⟨pre, action, post⟩) = some next ∧ mirrors post next) :
    ∃ final, replay apply origin (logged emit history) = some final ∧ mirrors state final := by
  -- Each step's events come after the log so far.
  induction run with
  | nil => exact ⟨origin, rfl, initial⟩
  | @cons past pre post action before taken ih =>
    obtain ⟨replica, accepted, mirrored⟩ := ih
    obtain ⟨next, followed, mirroredNext⟩ := follows past pre action post replica before mirrored taken
    refine ⟨next, ?_, mirroredNext⟩
    rw [logged, replay_append accepted]
    exact followed

end Machine
