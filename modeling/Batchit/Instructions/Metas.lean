import Batchit.Protocol.Step

/-! The accounts each instruction declares, in order, with the privileges it asks for. -/

namespace Batchit

/-- An account of an instruction, and the privileges asked for it. -/
structure AccountMeta where
  pubkey : Pubkey
  isSigner : Bool
  isWritable : Bool
  deriving DecidableEq, Repr

namespace AccountMeta

/-- An account that may be written. -/
def new (pubkey : Pubkey) (isSigner : Bool) : AccountMeta := ⟨pubkey, isSigner, true⟩

/-- An account that is only read. -/
def newReadonly (pubkey : Pubkey) (isSigner : Bool) : AccountMeta := ⟨pubkey, isSigner, false⟩

end AccountMeta

open AccountMeta

/-- The accounts of `create_pool` in order, as the program declares them. -/
def CreatePoolAccounts.metas (accounts : CreatePoolAccounts) : List AccountMeta :=
  [new accounts.creator true, new accounts.pool false, newReadonly accounts.buyer false,
    newReadonly SYSTEM_PROGRAM_ID false]

/-- The accounts of `contribute` in order, as the program declares them. -/
def ContributeAccounts.metas (accounts : ContributeAccounts) : List AccountMeta :=
  [new accounts.contributor true, new accounts.pool false, new accounts.contribution false,
    newReadonly SYSTEM_PROGRAM_ID false]

/-- The accounts of `begin_launch` in order, as the program declares them. -/
def BeginLaunchAccounts.metas (accounts : BeginLaunchAccounts) : List AccountMeta :=
  [newReadonly accounts.caller true, new accounts.pool false]

/-- The accounts of `complete_buy` in order, as the program declares them. -/
def CompleteBuyAccounts.metas (accounts : CompleteBuyAccounts) : List AccountMeta :=
  [newReadonly accounts.caller true, new accounts.pool false, new accounts.buyer false,
    newReadonly accounts.mint false, newReadonly accounts.global false,
    new accounts.feeRecipient false, new accounts.bondingCurve false,
    new accounts.associatedBondingCurve false, new accounts.associatedUser false,
    new accounts.creatorVault false, newReadonly accounts.eventAuthority false,
    newReadonly accounts.pumpProgram false, newReadonly accounts.globalVolumeAccumulator false,
    new accounts.userVolumeAccumulator false, newReadonly accounts.feeConfig false,
    newReadonly accounts.feeProgram false, newReadonly accounts.bondingCurveV2 false,
    new accounts.buybackFeeRecipient false, newReadonly TOKEN_PROGRAM_ID false,
    newReadonly SYSTEM_PROGRAM_ID false]

/-- The accounts of a buy are the ones it declares, in order. -/
theorem CompleteBuyAccounts.metas_pubkeys (accounts : CompleteBuyAccounts) :
    accounts.metas.map AccountMeta.pubkey = accounts.listed := rfl

/-- The accounts of `finalize` in order, as the program declares them. -/
def FinalizeAccounts.metas (accounts : FinalizeAccounts) : List AccountMeta :=
  [newReadonly accounts.caller true, new accounts.pool false, newReadonly accounts.buyer false,
    new accounts.mint false, new accounts.associatedUser false,
    newReadonly accounts.bondingCurve false, newReadonly TOKEN_PROGRAM_ID false]

/-- The accounts of `claim` in order, as the program declares them. -/
def ClaimAccounts.metas (accounts : ClaimAccounts) : List AccountMeta :=
  [new accounts.contributor true, new accounts.pool false, new accounts.contribution false,
    newReadonly accounts.buyer false, new accounts.vaultAta false,
    new accounts.contributorAta false, newReadonly TOKEN_PROGRAM_ID false]

/-- The accounts of `refund` in order, as the program declares them. -/
def RefundAccounts.metas (accounts : RefundAccounts) : List AccountMeta :=
  [new accounts.contributor true, new accounts.pool false, new accounts.contribution false]

/-- The accounts of `mark_refundable` in order, as the program declares them. -/
def MarkRefundableAccounts.metas (accounts : MarkRefundableAccounts) : List AccountMeta :=
  [newReadonly accounts.caller true, new accounts.pool false]

/-- The accounts of `close_pool` in order, as the program declares them. -/
def ClosePoolAccounts.metas (accounts : ClosePoolAccounts) : List AccountMeta :=
  [new accounts.creator true, new accounts.pool false]

namespace Instruction

/-- Whether an instruction is one of the program's nine. -/
def isCall : Instruction → Bool
  | .createPool _ _ | .contribute _ _ | .beginLaunch _ _ | .completeBuy _ _ | .finalize _
  | .claim _ | .refund _ | .markRefundable _ | .closePool _ => true
  | .systemTransfer _ _ _ | .token _ | .writeAccount _ _ | .pumpCreate _ _ | .pumpTrade .. =>
    false

/-- The accounts a call into the program declares. -/
def metas : Instruction → List AccountMeta
  | .createPool accounts _ => accounts.metas
  | .contribute accounts _ => accounts.metas
  | .beginLaunch accounts _ => accounts.metas
  | .completeBuy accounts _ => accounts.metas
  | .finalize accounts => accounts.metas
  | .claim accounts => accounts.metas
  | .refund accounts => accounts.metas
  | .markRefundable accounts => accounts.metas
  | .closePool accounts => accounts.metas
  | .systemTransfer _ _ _ | .token _ | .writeAccount _ _ | .pumpCreate _ _ | .pumpTrade .. => []

/-- The accounts whose signature an instruction needs. -/
def signers (instruction : Instruction) : List Pubkey :=
  match instruction with
  | .systemTransfer source _ _ => [source]
  | .token instruction => instruction.signers
  | .pumpTrade _ trader _ _ _ => [trader]
  | call => (call.metas.filter AccountMeta.isSigner).map AccountMeta.pubkey

/-- Whether a call declares an account, and so can read it. -/
def reads (instruction : Instruction) (address : Pubkey) : Prop :=
  ∃ declared ∈ instruction.metas, declared.pubkey = address

/-- Whether a call declares an account as one it may write. -/
def writes (instruction : Instruction) (address : Pubkey) : Prop :=
  ∃ declared ∈ instruction.metas, declared.pubkey = address ∧ declared.isWritable = true

instance (instruction : Instruction) (address : Pubkey) : Decidable (instruction.reads address) :=
  inferInstanceAs (Decidable (∃ declared ∈ instruction.metas, declared.pubkey = address))

instance (instruction : Instruction) (address : Pubkey) : Decidable (instruction.writes address) :=
  inferInstanceAs (Decidable
    (∃ declared ∈ instruction.metas, declared.pubkey = address ∧ declared.isWritable = true))

/-- An account that may be written may also be read. -/
theorem reads_of_writes {instruction : Instruction} {address : Pubkey}
    (written : instruction.writes address) : instruction.reads address := by
  obtain ⟨declared, member, named, -⟩ := written
  exact ⟨declared, member, named⟩

end Instruction

end Batchit
