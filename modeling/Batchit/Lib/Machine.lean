import Mathlib.Data.List.Basic
import Mathlib.Data.List.Induction
import Mathlib.Order.Lattice

/-! Runs of a fallible labelled machine, their histories, and the rules that carry facts along them. -/

namespace Machine

variable {σ α ε : Type}

/-- One step that succeeded: the state it started from, the action taken, and the state it left. -/
structure Transition (σ α : Type) where
  pre : σ
  action : α
  post : σ

/--
The states reached from a start by successful steps, with the history of those steps.

The history lists the newest step first.
A refused step changes nothing and leaves no entry.
-/
inductive Run (step : σ → α → Except ε σ) (start : σ) : List (Transition σ α) → σ → Prop
  | nil : Run step start [] start
  | cons {history : List (Transition σ α)} {pre post : σ} {action : α}
      (before : Run step start history pre) (taken : step pre action = .ok post) :
      Run step start (⟨pre, action, post⟩ :: history) post

variable {step : σ → α → Except ε σ} {start : σ}

/-- A property every step preserves holds wherever a run ends, if it held at the start. -/
theorem Run.invariant {holds : σ → Prop} {history : List (Transition σ α)} {state : σ}
    (run : Run step start history state) (initial : holds start)
    (preserved : ∀ pre action post, holds pre → step pre action = .ok post → holds post) :
    holds state := by
  -- The newest step ends the run, and the property held before it.
  induction run with
  | nil => exact initial
  | cons _ taken ih => exact preserved _ _ _ ih taken

/-- A relation between history and state that every step extends holds of every run. -/
theorem Run.extends {holds : List (Transition σ α) → σ → Prop}
    {history : List (Transition σ α)} {state : σ}
    (run : Run step start history state) (initial : holds [] start)
    (extended : ∀ history pre action post, Run step start history pre → holds history pre →
      step pre action = .ok post → holds (⟨pre, action, post⟩ :: history) post) :
    holds history state := by
  -- Each step puts its own transition in front of the history it extends.
  induction run with
  | nil => exact initial
  | cons before taken ih => exact extended _ _ _ _ before ih taken

/-- Continuing one run by another gives a run through both histories. -/
theorem Run.append {first second : List (Transition σ α)} {middle state : σ}
    (before : Run step start first middle) (after : Run step middle second state) :
    Run step start (second ++ first) state := by
  -- The newer history is in front, so its steps are added one by one.
  induction after with
  | nil => exact before
  | cons _ taken ih => exact .cons ih taken

/-- A run can be cut at any entry of its history: before it, the step itself, and after it. -/
theorem Run.split {newer older : List (Transition σ α)} {entry : Transition σ α} {state : σ}
    (run : Run step start (newer ++ entry :: older) state) :
    Run step start older entry.pre ∧ step entry.pre entry.action = .ok entry.post ∧
      Run step entry.post newer state := by
  induction newer generalizing state with
  | nil =>
    -- The entry is the newest one.
    cases run with
    | cons before taken => exact ⟨before, taken, .nil⟩
  | cons newest rest ih =>
    cases run with
    | cons before taken =>
      obtain ⟨first, here, last⟩ := ih before
      exact ⟨first, here, .cons last taken⟩

/-- What fails at the start and holds at the end was made true by some step, and held ever since. -/
theorem Run.last_turn (holds : σ → Prop) {history : List (Transition σ α)} {state : σ}
    (run : Run step start history state) (initially : ¬ holds start) (ultimately : holds state) :
    ∃ newer entry older, history = newer ++ entry :: older ∧ ¬ holds entry.pre ∧
      holds entry.post ∧ ∀ later ∈ newer, holds later.pre ∧ holds later.post := by
  induction run with
  | nil => exact absurd ultimately initially
  | @cons past pre post action before taken ih =>
    by_cases already : holds pre
    · -- It held before the newest step, so the turn is further back.
      obtain ⟨newer, entry, older, cut, unheld, held, since⟩ := ih already
      refine ⟨⟨pre, action, post⟩ :: newer, entry, older, by rw [cut]; rfl, unheld, held, ?_⟩
      intro later member
      rcases List.mem_cons.mp member with newest | earlier
      · rw [newest]
        exact ⟨already, ultimately⟩
      · exact since later earlier
    · exact ⟨[], ⟨pre, action, post⟩, past, rfl, already, ultimately,
        fun later member => absurd member List.not_mem_nil⟩

/-- Running a list of actions in order, refusing as soon as one step is refused. -/
def exec (step : σ → α → Except ε σ) (state : σ) : List α → Except ε σ
  | [] => .ok state
  | action :: rest =>
    match step state action with
    | .ok next => exec step next rest
    | .error refusal => .error refusal

/-- The history recorded by running a list of actions, oldest action first. -/
def record (step : σ → α → Except ε σ) (state : σ) (past : List (Transition σ α)) :
    List α → List (Transition σ α)
  | [] => past
  | action :: rest =>
    match step state action with
    | .ok next => record step next (⟨state, action, next⟩ :: past) rest
    | .error _ => past

/-- A list of actions that executes is a run, recorded by its history. -/
theorem exec_run {actions : List α} {history : List (Transition σ α)} {state final : σ}
    (before : Run step start history state) (executed : exec step state actions = .ok final) :
    Run step start (record step state history actions) final := by
  -- The history so far grows by one entry for each action that succeeds.
  induction actions generalizing history state with
  | nil =>
    simp only [exec, Except.ok.injEq] at executed
    subst executed
    exact before
  | cons action rest ih =>
    cases taken : step state action with
    | error refusal => simp [exec, taken] at executed
    | ok next =>
      simp only [exec, taken] at executed
      simp only [record, taken]
      exact ih (.cons before taken) executed

/-- The state a list of actions ends in, or the start if one of them is refused. -/
def reached (step : σ → α → Except ε σ) (start : σ) (actions : List α) : σ :=
  match exec step start actions with
  | .ok final => final
  | .error _ => start

/-- A list of actions none of which is refused is a run to the state it ends in. -/
theorem run_reached {actions : List α} (executes : (exec step start actions).isOk = true) :
    Run step start (record step start [] actions) (reached step start actions) := by
  unfold reached
  -- Only an execution without refusals is asked about.
  cases executed : exec step start actions with
  | error refusal => simp [executed, Except.isOk, Except.toBool] at executes
  | ok final => exact exec_run .nil executed

/-- An outcome that is no error is a value. -/
theorem exists_of_isOk {β : Type} {outcome : Except ε β} (ok : outcome.isOk = true) :
    ∃ value, outcome = .ok value := by
  cases outcome with
  | error refusal => cases ok
  | ok value => exact ⟨value, rfl⟩

/-! ### Actions that may be refused -/

/-- The state after an action, which a refused action leaves as it was. -/
def attempt (step : σ → α → Except ε σ) (state : σ) (action : α) : σ :=
  match step state action with
  | .ok next => next
  | .error _ => state

/-- The state after a batch of actions, each attempted in turn. -/
def settle (step : σ → α → Except ε σ) (state : σ) (batch : List α) : σ :=
  batch.foldl (attempt step) state

section Tally

variable {τ : Type}

/-- The sum of a measure over the entries newer than the last one that begins a period. -/
def tally (begins : τ → Bool) (measure : τ → Nat) : List τ → Nat
  | [] => 0
  | entry :: earlier =>
    if begins entry then 0 else measure entry + tally begins measure earlier

/-- The values entries newer than the last period's beginning contribute, newest first. -/
def gather {ρ : Type} (begins : τ → Bool) (values : τ → List ρ) : List τ → List ρ
  | [] => []
  | entry :: earlier => if begins entry then [] else values entry ++ gather begins values earlier

variable (begins : τ → Bool) (measure : τ → Nat)

/-- An entry that begins a period leaves nothing of what came before. -/
theorem tally_begin {entry : τ} {earlier : List τ} (first : begins entry = true) :
    tally begins measure (entry :: earlier) = 0 := by
  rw [tally, if_pos first]

/-- An entry inside a period adds its own measure. -/
theorem tally_within {entry : τ} {earlier : List τ} (inside : begins entry = false) :
    tally begins measure (entry :: earlier) = measure entry + tally begins measure earlier := by
  rw [tally, if_neg (by simp [inside])]

/-- A measure that is zero throughout a history tallies nothing. -/
theorem tally_eq_zero {entries : List τ} (zero : ∀ entry ∈ entries, measure entry = 0) :
    tally begins measure entries = 0 := by
  induction entries with
  | nil => rfl
  | cons newest earlier ih =>
    rw [tally]
    -- Either a period begins here and counts nothing, or a zero is added to nothing.
    split
    · rfl
    · rw [zero newest List.mem_cons_self, ih fun entry member => zero entry (.tail _ member)]

/-- An entry counts in full as long as no period begins at it or after it. -/
theorem le_tally {newer older : List τ} {entry : τ} (inside : begins entry = false)
    (since : ∀ next ∈ newer, begins next = false) :
    measure entry ≤ tally begins measure (newer ++ entry :: older) := by
  -- Each newer entry only adds its own measure.
  induction newer with
  | nil =>
    rw [List.nil_append, tally_within begins measure inside]
    exact Nat.le_add_right _ _
  | cons next rest ih =>
    rw [List.cons_append, tally_within begins measure (since next List.mem_cons_self)]
    have counted := ih fun later member => since later (.tail _ member)
    omega

/-- An entry that begins a period leaves no values of what came before. -/
theorem gather_begin {ρ : Type} {values : τ → List ρ} {entry : τ} {earlier : List τ}
    (first : begins entry = true) : gather begins values (entry :: earlier) = [] := by
  rw [gather, if_pos first]

/-- An entry inside a period puts its own values in front. -/
theorem gather_within {ρ : Type} {values : τ → List ρ} {entry : τ} {earlier : List τ}
    (inside : begins entry = false) :
    gather begins values (entry :: earlier) = values entry ++ gather begins values earlier := by
  rw [gather, if_neg (by simp [inside])]

end Tally

/-! ### Clocks along a history -/

section Clock

variable {τ κ : Type} [LinearOrder κ] (clock : τ → κ)

/-- A history, newest entry first, along which the clock never goes back. -/
def Chronological (history : List τ) : Prop :=
  history.Pairwise fun newer older => clock older ≤ clock newer

/-- A time that no entry of a history is later than. -/
def NoneAfter (now : κ) (history : List τ) : Prop := ∀ entry ∈ history, clock entry ≤ now

/-- A time was reached, or passed, by some entry of a history. -/
def Reached (due : κ) (history : List τ) : Prop := ∃ entry ∈ history, due ≤ clock entry

variable {clock}

/-- Along a clock that never goes back, no entry is later than one that follows it. -/
theorem Chronological.noneAfter {newer older : List τ} {entry : τ}
    (chronological : Chronological clock (newer ++ entry :: older)) :
    NoneAfter clock (clock entry) older := by
  intro earlier member
  -- The entry and those before it are a chronological history of their own.
  have tail := (List.pairwise_append.mp chronological).2.1
  exact (List.pairwise_cons.mp tail).1 earlier member

/-- A time reached along a history is no later than any time after it. -/
theorem Reached.le {due now : κ} {history : List τ} (reached : Reached clock due history)
    (later : NoneAfter clock now history) : due ≤ now := by
  obtain ⟨entry, member, passed⟩ := reached
  exact passed.trans (later entry member)

/-- A time reached stays reached. -/
theorem Reached.older {due : κ} {history : List τ} {entry : τ}
    (reached : Reached clock due history) : Reached clock due (entry :: history) := by
  obtain ⟨witness, member, passed⟩ := reached
  exact ⟨witness, List.mem_cons_of_mem _ member, passed⟩

/-- The newest entry reaches every time up to its own. -/
theorem Reached.newest {due : κ} {history : List τ} {entry : τ} (passed : due ≤ clock entry) :
    Reached clock due (entry :: history) := ⟨entry, List.mem_cons_self, passed⟩

end Clock

end Machine
