import Batchit.Properties.Authority
import Batchit.Properties.Clients
import Batchit.Protocol.Isolation

/-! What bytes and other submissions can do: change what they were given to write, for who signed. -/

namespace Batchit

open World (AgreeAt)

/-- What reaches the chain: bytes for the program, or an instruction that is none of its own. -/
inductive Submission where
  | toProgram (now : Int64) (carrier : TransactionInstruction)
  | elsewhere (now : Int64) (instruction : Instruction) (outside : instruction.isCall = false)
  deriving DecidableEq, Repr

/-- Why a submission changes nothing. -/
inductive SubmissionError where
  | dispatch (error : DispatchError)
  | refused (error : Error)
  deriving DecidableEq, Repr

/-- What a submission does to the accounts. -/
def submit (env : Env) (platform : Platform) (addressing : Addressing) (world : World) :
    Submission → Except SubmissionError World
  | .toProgram now carrier => match dispatch platform addressing (platform.handed carrier) with
    | .error error => .error (.dispatch error)
    | .ok instruction => (step env world ⟨now, instruction⟩).mapError .refused
  | .elsewhere now instruction _ => (step env world ⟨now, instruction⟩).mapError .refused

namespace Submission

/-- The keys whose signatures a submission bears. -/
def signatures : Submission → List Pubkey
  | .toProgram _ carrier => (carrier.keys.filter AccountMeta.isSigner).map AccountMeta.pubkey
  | .elsewhere _ instruction _ => instruction.signers

/-- The accounts that a submission gives to be written, reserved ones aside. -/
def offers (platform : Platform) : Submission → List Pubkey
  | .toProgram _ carrier =>
    ((platform.handed carrier).keys.filter AccountMeta.isWritable).map AccountMeta.pubkey
  | .elsewhere _ instruction _ => instruction.changes

/-- A submission grants an action: it bears its signatures, and gives it all that it can change. -/
structure Grants (platform : Platform) (submission : Submission) (action : Action) : Prop where
  signatures : ∀ signer ∈ action.instruction.signers, signer ∈ submission.signatures
  offers : ∀ address ∈ action.instruction.changes, address ∈ submission.offers platform

end Submission

section Submissions

variable {env : Env} {platform : Platform} {addressing : Addressing}

/-- An instruction with a method is one of the program's calls. -/
theorem Instruction.isCall_of_method {instruction : Instruction} {method : Method}
    (asked : instruction.method = some method) : instruction.isCall = true := by
  cases instruction <;> first | rfl | cases asked

/-- The signers of a call are those among its accounts. -/
theorem Instruction.signers_of_call {instruction : Instruction} (call : instruction.isCall = true) :
    instruction.signers
      = (instruction.metas.filter AccountMeta.isSigner).map AccountMeta.pubkey := by
  cases instruction <;> first | rfl | cases call

/-- An instruction that carries a call, as it is handed on, grants the call. -/
theorem Carries.grants {carrier : TransactionInstruction} {method : Method}
    {instruction : Instruction}
    (carries : Carries addressing (platform.handed carrier) method instruction) (now : Int64) :
    (Submission.toProgram now carrier).Grants platform ⟨now, instruction⟩ := by
  -- Each account the call uses is one it declares, and so one that it was handed.
  have call := Instruction.isCall_of_method carries.asks
  constructor
  · intro signer member
    rw [Instruction.signers_of_call call] at member
    obtain ⟨asked, among, rfl⟩ := List.mem_map.mp member
    obtain ⟨declared, signs⟩ := List.mem_filter.mp among
    obtain ⟨key, handed, serves⟩ := AccountMeta.served_of_covers carries.keys declared
    obtain ⟨same, signed, -⟩ := AccountMeta.serves_iff.mp serves
    -- The runtime makes up no signature.
    obtain ⟨given, sent, serves⟩ := Platform.given_of_handed handed
    obtain ⟨again, kept, -⟩ := AccountMeta.serves_iff.mp serves
    exact List.mem_map.mpr
      ⟨given, List.mem_filter.mpr ⟨sent, kept (signed signs)⟩, again.trans same⟩
  · intro address member
    rw [Instruction.changes_of_call call] at member
    obtain ⟨asked, among, rfl⟩ := List.mem_map.mp member
    obtain ⟨declared, writable⟩ := List.mem_filter.mp among
    obtain ⟨key, handed, serves⟩ := AccountMeta.served_of_covers carries.keys declared
    obtain ⟨same, -, writes⟩ := AccountMeta.serves_iff.mp serves
    exact List.mem_map.mpr ⟨key, List.mem_filter.mpr ⟨handed, writes writable⟩, same⟩

/-- What the program accepts is accepted under the submission's own errors too. -/
theorem refused_eq_ok {outcome : Except Error World} {next : World}
    (accepted : outcome.mapError SubmissionError.refused = .ok next) : outcome = .ok next := by
  cases outcome with
  | error error => cases accepted
  | ok other => rw [Except.ok.inj accepted]

end Submissions

namespace Sample

end Sample

end Batchit
