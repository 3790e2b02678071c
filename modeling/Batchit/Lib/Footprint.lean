import Batchit.Lib.Machine
import Mathlib.Data.List.Perm.Basic
import Mathlib.Data.List.Pairwise

/-! Machines whose actions declare the cells they read and write, and batches of them that do not conflict. -/

/-- Two computations end in the same refusal, or in results that are related. -/
def Except.Related {ε α β : Type} (related : α → β → Prop) : Except ε α → Except ε β → Prop
  | .ok left, .ok right => related left right
  | .error left, .error right => left = right
  | .ok _, .error _ | .error _, .ok _ => False

namespace Except.Related

variable {ε α β γ δ : Type} {related : α → β → Prop} {after : γ → δ → Prop}

/-- Results that are related make related computations. -/
theorem pure {left : α} {right : β} (result : related left right) :
    Related related (Pure.pure left : Except ε α) (Pure.pure right) := result

/-- A computation is related to itself when its results are. -/
theorem refl {same : α → α → Prop} (reflexive : ∀ value, same value value)
    (outcome : Except ε α) : Related same outcome outcome := by
  cases outcome with
  | error refusal => exact rfl
  | ok value => exact reflexive value

/-- Related computations continued by related ones are related. -/
theorem bind {left : Except ε α} {right : Except ε β} {nextLeft : α → Except ε γ}
    {nextRight : β → Except ε δ} (first : Related related left right)
    (next : ∀ leftValue rightValue, related leftValue rightValue →
      Related after (nextLeft leftValue) (nextRight rightValue)) :
    Related after (left >>= nextLeft) (right >>= nextRight) := by
  -- Two refusals are one refusal, and two results go on as related ones do.
  cases left with
  | error refusal =>
    cases right with
    | error other => exact first
    | ok value => exact first.elim
  | ok value =>
    cases right with
    | error other => exact first.elim
    | ok other => exact next value other first

/-- One computation continued by related ones gives related computations. -/
theorem same {first : Except ε α} {nextLeft : α → Except ε γ} {nextRight : α → Except ε δ}
    (next : ∀ value, Related after (nextLeft value) (nextRight value)) :
    Related after (first >>= nextLeft) (first >>= nextRight) := by
  cases first with
  | error refusal => exact rfl
  | ok value => exact next value

/-- A computation related to one that succeeds succeeds, with a related result. -/
theorem succeeds {value : α} {outcome : Except ε β} (succeeded : Related related (.ok value) outcome) :
    ∃ other, outcome = .ok other ∧ related value other := by
  cases outcome with
  | error refusal => exact succeeded.elim
  | ok other => exact ⟨other, rfl, succeeded⟩

end Except.Related

namespace Machine

variable {σ α ε ι : Type}

/--
A machine whose state is made of cells, and whose actions declare what they touch.

The outcome of an action depends on the cells it reads alone, and no cell changes that it does not write.
-/
structure Footprint (step : σ → α → Except ε σ) (agree : ι → σ → σ → Prop)
    (reads writes : α → ι → Prop) : Prop where
  equivalence : ∀ cell, Equivalence (agree cell)
  declared : ∀ {action cell}, writes action cell → reads action cell
  frame : ∀ {state action next}, step state action = .ok next →
    ∀ cell, ¬ writes action cell → agree cell state next
  dependence : ∀ {left right action}, (∀ cell, reads action cell → agree cell left right) →
    Except.Related (fun leftNext rightNext => ∀ cell, reads action cell →
      agree cell leftNext rightNext) (step left action) (step right action)

/-- Two actions conflict on no cell: neither writes what the other reads. -/
def Independent (reads writes : α → ι → Prop) (first second : α) : Prop :=
  ∀ cell, (writes first cell → ¬ reads second cell) ∧ (writes second cell → ¬ reads first cell)

/-- Having no conflict goes both ways. -/
theorem Independent.symm {reads writes : α → ι → Prop} {first second : α}
    (independent : Independent reads writes first second) :
    Independent reads writes second first := by
  intro cell
  exact ⟨(independent cell).2, (independent cell).1⟩

namespace Footprint

variable {step : σ → α → Except ε σ} {agree : ι → σ → σ → Prop} {reads writes : α → ι → Prop}

/-- Attempting an action leaves every cell alone that it does not write. -/
theorem attempt_frame (footprint : Footprint step agree reads writes) {action : α} (state : σ)
    {cell : ι} (unwritten : ¬ writes action cell) :
    agree cell state (attempt step state action) := by
  unfold attempt
  -- A refused action leaves everything as it was.
  cases taken : step state action with
  | error refusal => exact (footprint.equivalence cell).refl state
  | ok next => exact footprint.frame taken cell unwritten

/-- In states that agree on what it reads, an action has one verdict, and leaves them agreeing. -/
theorem attempt_reads (footprint : Footprint step agree reads writes) {left right : σ} {action : α}
    (same : ∀ cell, reads action cell → agree cell left right) :
    ∀ cell, reads action cell →
      agree cell (attempt step left action) (attempt step right action) := by
  have dependence := footprint.dependence same
  unfold attempt
  -- Either both are refused and nothing changes, or both succeed and still agree.
  cases leftTaken : step left action with
  | error refusal =>
    cases rightTaken : step right action with
    | error other => exact same
    | ok next =>
      rw [leftTaken, rightTaken] at dependence
      exact dependence.elim
  | ok leftNext =>
    cases rightTaken : step right action with
    | error other =>
      rw [leftTaken, rightTaken] at dependence
      exact dependence.elim
    | ok rightNext =>
      rw [leftTaken, rightTaken] at dependence
      exact dependence

/-- In states that agree everywhere, attempting one action gives states that agree everywhere. -/
theorem attempt_congr (footprint : Footprint step agree reads writes) {left right : σ}
    (same : ∀ cell, agree cell left right) (action : α) :
    ∀ cell, agree cell (attempt step left action) (attempt step right action) := by
  intro cell
  by_cases read : reads action cell
  · exact footprint.attempt_reads (fun other _ => same other) cell read
  · -- A cell that is not read is not written either, on both sides.
    have unwritten : ¬ writes action cell := fun written => read (footprint.declared written)
    have equivalence := footprint.equivalence cell
    exact equivalence.trans (equivalence.symm (footprint.attempt_frame left unwritten))
      (equivalence.trans (same cell) (footprint.attempt_frame right unwritten))

/-- Two actions without a conflict can be attempted in either order. -/
theorem attempt_comm (footprint : Footprint step agree reads writes) {first second : α}
    (independent : Independent reads writes first second) (state : σ) :
    ∀ cell, agree cell (attempt step (attempt step state first) second)
      (attempt step (attempt step state second) first) := by
  intro cell
  have equivalence := footprint.equivalence cell
  -- Each action reads cells the other has not written, so it does what it would have done alone.
  have secondSame : ∀ cell, reads second cell → agree cell
      (attempt step (attempt step state first) second) (attempt step state second) :=
    footprint.attempt_reads fun other read => (footprint.equivalence other).symm
      (footprint.attempt_frame state fun written => (independent other).1 written read)
  have firstSame : ∀ cell, reads first cell → agree cell
      (attempt step (attempt step state second) first) (attempt step state first) :=
    footprint.attempt_reads fun other read => (footprint.equivalence other).symm
      (footprint.attempt_frame state fun written => (independent other).2 written read)
  by_cases byFirst : writes first cell
  · -- The second action leaves what the first one wrote.
    have bySecond : ¬ writes second cell := by
      intro written
      exact (independent cell).2 written (footprint.declared byFirst)
    exact equivalence.trans (equivalence.symm (footprint.attempt_frame _ bySecond))
      (equivalence.symm (firstSame cell (footprint.declared byFirst)))
  · by_cases bySecond : writes second cell
    · exact equivalence.trans (secondSame cell (footprint.declared bySecond))
        (footprint.attempt_frame _ byFirst)
    · -- Neither writes the cell, so it is as it was at the start.
      have left := equivalence.trans (footprint.attempt_frame state byFirst)
        (footprint.attempt_frame (attempt step state first) bySecond)
      have right := equivalence.trans (footprint.attempt_frame state bySecond)
        (footprint.attempt_frame (attempt step state second) byFirst)
      exact equivalence.trans (equivalence.symm left) right

/-- In states that agree everywhere, one batch gives states that agree everywhere. -/
theorem settle_congr (footprint : Footprint step agree reads writes) {left right : σ}
    (same : ∀ cell, agree cell left right) (batch : List α) :
    ∀ cell, agree cell (settle step left batch) (settle step right batch) := by
  induction batch generalizing left right with
  | nil => exact same
  | cons action rest ih => exact ih (footprint.attempt_congr same action)

/-- A batch without conflicts leaves the same state in whatever order it is attempted. -/
theorem settle_perm (footprint : Footprint step agree reads writes) {first second : List α}
    (permuted : first.Perm second) (free : first.Pairwise (Independent reads writes)) (state : σ) :
    ∀ cell, agree cell (settle step state first) (settle step state second) := by
  -- The induction follows the permutation, one exchange of neighbours at a time.
  induction permuted generalizing state with
  | nil => exact fun cell => (footprint.equivalence cell).refl state
  | cons action _ ih => exact ih (List.pairwise_cons.mp free).2 _
  | swap front back rest =>
    have independent := (List.pairwise_cons.mp free).1 front List.mem_cons_self
    exact footprint.settle_congr (footprint.attempt_comm independent state) rest
  | trans one two ihOne ihTwo =>
    intro cell
    have stillFree := one.pairwise free Independent.symm
    exact (footprint.equivalence cell).trans (ihOne free state cell) (ihTwo stillFree state cell)

/-- What a batch leaves alone that no action in it writes. -/
theorem settle_frame (footprint : Footprint step agree reads writes) {batch : List α} {cell : ι}
    (unwritten : ∀ action ∈ batch, ¬ writes action cell) (state : σ) :
    agree cell state (settle step state batch) := by
  -- Each action in turn leaves the cell alone.
  induction batch generalizing state with
  | nil => exact (footprint.equivalence cell).refl state
  | cons action rest ih =>
    have here := footprint.attempt_frame state (unwritten action List.mem_cons_self)
    exact (footprint.equivalence cell).trans here
      (ih (fun other member => unwritten other (.tail _ member)) _)

/-- After any batch it has no conflict with, an action ends as it would have at the start. -/
theorem outcome_after (footprint : Footprint step agree reads writes) {batch : List α} {action : α}
    (free : ∀ other ∈ batch, Independent reads writes other action) (state : σ) :
    Except.Related (fun left right => ∀ cell, reads action cell → agree cell left right)
      (step state action) (step (settle step state batch) action) := by
  -- What the action reads is what none of the batch has written.
  apply footprint.dependence
  intro cell read
  exact footprint.settle_frame
    (fun other member written => (free other member cell).1 written read) state

end Footprint

end Machine
