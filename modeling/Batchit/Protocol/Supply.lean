import Batchit.Properties.Lamports
import Mathlib.Algebra.Order.BigOperators.Group.Finset

/-! The supply of lamports: with one that fits in 64 bits at the start, no credit ever overflows. -/

namespace Batchit

/-- No accounts hold more lamports together than 64 bits can count. -/
def World.LamportsFit (world : World) : Prop :=
  ∀ accounts, totalLamports world.lamports accounts < 2 ^ 64

/-- More accounts hold no fewer lamports. -/
theorem totalLamports_mono (lamports : Pubkey → UInt64) {some more : List Pubkey}
    (within : some ⊆ more) :
    totalLamports lamports some ≤ totalLamports lamports more := by
  apply Finset.sum_le_sum_of_subset
  intro address member
  exact List.mem_toFinset.mpr (within (List.mem_toFinset.mp member))

section Supply

variable {env : Env} {start world after : World} {history : List Transition}

/-- No step adds to the supply. -/
theorem step_lamportsFit {action : Action} (fit : world.LamportsFit)
    (taken : step env world action = .ok after) : after.LamportsFit := by
  intro accounts
  -- The accounts asked about are counted along with those the step touches.
  have kept := step_total taken (List.subset_append_right accounts action.instruction.touches)
  have part := totalLamports_mono after.lamports
    (List.subset_append_left accounts action.instruction.touches)
  have whole := fit (accounts ++ action.instruction.touches)
  omega

/-- A supply that fits at the start fits for good. -/
theorem run_lamportsFit (fit : start.LamportsFit) (run : Run env start history world) :
    world.LamportsFit :=
  run.invariant fit fun _ _ _ before taken => step_lamportsFit before taken

/-- Two accounts hold together what 64 bits can count. -/
theorem World.LamportsFit.pair (fit : world.LamportsFit) {one other : Pubkey}
    (differ : one ≠ other) :
    (world.lamports one).toNat + (world.lamports other).toNat < 2 ^ 64 := by
  have both := fit [one, other]
  simpa [totalLamports, differ] using both

/-- Where the supply fits, a move of lamports that are there between two accounts succeeds. -/
theorem World.LamportsFit.moves (fit : world.LamportsFit) {source target : Pubkey}
    (differ : source ≠ target) (short full : Error) (amount : UInt64)
    (enough : amount.toNat ≤ (world.lamports source).toNat) :
    ∃ moved, world.moveLamports short full source target amount = .ok moved := by
  have both := fit.pair differ
  exact (World.moveLamports_succeeds differ).mpr ⟨enough, by omega⟩

end Supply

end Batchit
