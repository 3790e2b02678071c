import Batchit.Lib.Machine
import Mathlib.Data.List.Perm.Basic

/-! Actions that can be exchanged pairwise: a sequence of them succeeds in every order, to one end. -/

namespace Machine

variable {σ α ε : Type} {step : σ → α → Except ε σ}

/-- Running a list in two parts is running it whole. -/
theorem exec_append {state middle : σ} {first second : List α}
    (executed : exec step state first = .ok middle) :
    exec step state (first ++ second) = exec step middle second := by
  -- The first actions are executed one by one, and the second ones are left for the end.
  induction first generalizing state with
  | nil =>
    simp only [exec, Except.ok.injEq] at executed
    rw [executed]
    rfl
  | cons action rest ih =>
    simp only [exec, List.cons_append] at executed ⊢
    cases taken : step state action with
    | error refusal => simp [taken] at executed
    | ok next =>
      simp only [taken] at executed ⊢
      exact ih executed

/--
A kind of actions whose order does not matter, up to a notion of sameness of states.

Two of them that succeed in a row succeed in the other order too, and end the same.
-/
structure Commuting (step : σ → α → Except ε σ) (same : σ → σ → Prop) (holds : σ → Prop)
    (belongs : α → Prop) : Prop where
  equivalence : Equivalence same
  respects : ∀ {left right action next}, belongs action → same left right →
    step left action = .ok next → ∃ other, step right action = .ok other ∧ same next other
  kept : ∀ {state action next}, holds state → belongs action → step state action = .ok next →
    holds next
  exchange : ∀ {state first second middle last}, holds state → belongs first → belongs second →
    step state first = .ok middle → step middle second = .ok last →
    ∃ middle' last', step state second = .ok middle' ∧ step middle' first = .ok last' ∧
      same last last'

namespace Commuting

variable {same : σ → σ → Prop} {holds : σ → Prop} {belongs : α → Prop}

/-- From states that are the same, a list that succeeds ends in states that are the same. -/
theorem exec_respects (commuting : Commuting step same holds belongs) {actions : List α}
    (members : ∀ action ∈ actions, belongs action) {left right final : σ}
    (equal : same left right) (executed : exec step left actions = .ok final) :
    ∃ other, exec step right actions = .ok other ∧ same final other := by
  -- Each step keeps the two states the same for the next.
  induction actions generalizing left right with
  | nil =>
    simp only [exec, Except.ok.injEq] at executed
    subst executed
    exact ⟨right, rfl, equal⟩
  | cons action rest ih =>
    simp only [exec] at executed ⊢
    cases taken : step left action with
    | error refusal => simp [taken] at executed
    | ok next =>
      simp only [taken] at executed
      obtain ⟨other, also, still⟩ := commuting.respects (members action List.mem_cons_self) equal taken
      rw [also]
      exact ih (fun later member => members later (.tail _ member)) still executed

/-- A list that succeeds also succeeds in every other order, and ends in the same state. -/
theorem exec_perm (commuting : Commuting step same holds belongs) {first second : List α}
    (permuted : first.Perm second) (members : ∀ action ∈ first, belongs action) {state final : σ}
    (initially : holds state) (executed : exec step state first = .ok final) :
    ∃ other, exec step state second = .ok other ∧ same final other := by
  -- The induction follows the permutation, one exchange of neighbours at a time.
  induction permuted generalizing state final with
  | nil => exact ⟨final, executed, commuting.equivalence.refl final⟩
  | cons action permuted ih =>
    simp only [exec] at executed ⊢
    cases taken : step state action with
    | error refusal => simp [taken] at executed
    | ok next =>
      simp only [taken] at executed
      exact ih (fun later member => members later (.tail _ member))
        (commuting.kept initially (members action List.mem_cons_self) taken) executed
  | swap front back rest =>
    simp only [exec] at executed ⊢
    cases taken : step state back with
    | error refusal => simp [taken] at executed
    | ok middle =>
      simp only [taken] at executed
      cases next : step middle front with
      | error refusal => simp [next] at executed
      | ok last =>
        simp only [next] at executed
        obtain ⟨middle', last', one, two, equal⟩ := commuting.exchange initially
          (members back List.mem_cons_self) (members front (.tail _ List.mem_cons_self)) taken next
        simp only [one, two]
        exact commuting.exec_respects
          (fun later member => members later (.tail _ (.tail _ member))) equal executed
  | trans one _ ihOne ihTwo =>
    obtain ⟨middle, executedOne, sameOne⟩ := ihOne members initially executed
    obtain ⟨other, executedTwo, sameTwo⟩ := ihTwo
      (fun action member => members action (one.mem_iff.mpr member)) initially executedOne
    exact ⟨other, executedTwo, commuting.equivalence.trans sameOne sameTwo⟩

end Commuting

end Machine
