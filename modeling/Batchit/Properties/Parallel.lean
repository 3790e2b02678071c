import Batchit.Properties.Solvency
import Batchit.Protocol.Isolation

/-! Calls that contend for no account: each ends as it would alone, and their order does not matter. -/

namespace Batchit

open World

/-- Whether two calls contend for an account: both declare it, and at least one as writable. -/
def Instruction.contends (first second : Instruction) : Bool :=
  first.metas.any fun own => second.metas.any fun other =>
    own.pubkey = other.pubkey && (own.isWritable || other.isWritable)

/-- Calls that contend for nothing write nothing the other reads. -/
theorem independent_of_contends {first second : Call}
    (apart : first.val.instruction.contends second.val.instruction = false) :
    Machine.Independent (fun call : Call => call.val.instruction.reads)
      (fun call : Call => call.val.instruction.writes) first second := by
  simp only [Instruction.contends, List.any_eq_false, Bool.not_eq_true, Bool.and_eq_false_iff,
    Bool.or_eq_false_iff, decide_eq_false_iff_not] at apart
  intro address
  -- An account that one writes and the other reads would be contended for.
  constructor
  · intro written read
    obtain ⟨own, member, rfl, writable⟩ := written
    obtain ⟨other, otherMember, same⟩ := read
    rcases apart own member other otherMember with differ | readonly
    · exact differ same.symm
    · rw [readonly.1] at writable
      cases writable
  · intro written read
    obtain ⟨other, otherMember, rfl, writable⟩ := written
    obtain ⟨own, member, same⟩ := read
    rcases apart own member other otherMember with differ | readonly
    · exact differ same
    · rw [readonly.2] at writable
      cases writable

/-- Computations related by what their results hold are refused alike. -/
theorem refusal_of_related {α β : Type} {related : α → β → Prop} {left : Except Error α}
    {right : Except Error β} (same : Except.Related related left right) :
    refusal left = refusal right := by
  -- Related computations fail together, and with one error.
  cases left with
  | error error =>
    cases right with
    | error other => exact congrArg some same
    | ok value => exact same.elim
  | ok value =>
    cases right with
    | error other => exact same.elim
    | ok other => rfl

section Isolation

variable {env : Env}

/--
A call is confined to the accounts it declares.

States that hold the same at those accounts give it one verdict and one result there, and everything it does not declare writable stays as it was.
-/
theorem call_isolated (confined : env.Confined) {world other : World} {action : Action}
    (call : action.instruction.isCall = true)
    (agree : Agree action.instruction.reads world other) :
    refusal (step env world action) = refusal (step env other action) ∧
      ∀ after, step env world action = .ok after →
        (∃ otherAfter, step env other action = .ok otherAfter ∧
          Agree action.instruction.reads after otherAfter) ∧
        ∀ address, ¬ action.instruction.writes address → AgreeAt address world after := by
  have dependence := call_dependence confined call agree
  refine ⟨refusal_of_related dependence, fun after taken => ⟨?_, fun address unwritten =>
    call_frame call taken unwritten⟩⟩
  rw [taken] at dependence
  -- A call that succeeds in one state is not refused in the other.
  cases otherTaken : step env other action with
  | error refusal =>
    rw [otherTaken] at dependence
    exact dependence.elim
  | ok otherAfter =>
    rw [otherTaken] at dependence
    exact ⟨otherAfter, rfl, dependence⟩

/--
The order of a batch without contention is irrelevant.

In every order the batch leaves every account the same, and every call in it ends as it would have alone.
-/
theorem batch_order_irrelevant (confined : env.Confined) {batch order : List Call}
    (free : batch.Pairwise fun first second =>
      first.val.instruction.contends second.val.instruction = false)
    (permuted : batch.Perm order) (world : World) :
    (∀ address, AgreeAt address (Machine.settle (callStep env) world batch)
      (Machine.settle (callStep env) world order)) ∧
    ∀ before call rest, order = before ++ call :: rest →
      refusal (callStep env (Machine.settle (callStep env) world before) call)
        = refusal (callStep env world call) := by
  have footprint := call_footprint confined
  have independent := free.imp fun {_ _} apart => independent_of_contends apart
  refine ⟨footprint.settle_perm permuted independent world, ?_⟩
  intro before call rest cut
  -- Contention is symmetric, so no reordering brings any about.
  have reordered := permuted.pairwise independent Machine.Independent.symm
  rw [cut] at reordered
  have apart := (List.pairwise_append.mp reordered).2.2
  exact (refusal_of_related (footprint.outcome_after
    (fun other member => apart other member call List.mem_cons_self) world)).symm

end Isolation

/-! ### Two raises of different creators -/

namespace Sample

/-- A pool of another creator, opened with the same terms. -/
def otherOpening : Action := ⟨0, .createPool ⟨bob, .pool bob 7, .buyer (.pool bob 7)⟩ {
  seed := 7
  launchAt := 100
  graceSecs := 50
  minRaiseLamports := 1000000000
  maxPoolLamports := 10000000000
  minContributionLamports := 100000000 }⟩

/-- A call that is refused, since its pool is not there. -/
def strayMark : Action := ⟨200, .markRefundable ⟨alice, .pool alice 1⟩⟩

/-- The sample environment sees no account outside those it is given. -/
theorem confined : env.Confined where
  pump := (documentedEnv_confined encoding 95 5 137).pump
  runtime := fun _ _ _ _ _ _ _ => rfl

/-- Three calls that contend for nothing. -/
def batch : List Call := [⟨opening, rfl⟩, ⟨otherOpening, rfl⟩, ⟨strayMark, rfl⟩]

end Sample

/-- Opening a pool ends alike in two states that differ in somebody else's balance. -/
theorem call_isolated_sample :
    refusal (step Sample.env Sample.start Sample.opening)
      = refusal (step Sample.env (Sample.start.setLamports Sample.bob 0) Sample.opening) := by
  refine (call_isolated Sample.confined rfl ?_).1
  intro address read
  -- The balance that differs is none of the accounts that the opening declares.
  apply agreeAt_setLamports
  rintro rfl
  exact absurd read (by decide)

/-- Two openings and a refused call leave the pool the same in reverse. -/
theorem batch_order_irrelevant_sample :
    AgreeAt Sample.pool (Machine.settle (callStep Sample.env) Sample.start Sample.batch)
      (Machine.settle (callStep Sample.env) Sample.start Sample.batch.reverse) :=
  (batch_order_irrelevant Sample.confined (by decide)
    (List.reverse_perm _).symm _).1 Sample.pool

end Batchit
