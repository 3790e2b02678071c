import Batchit.Instructions.Metas
import Batchit.Layout
import Batchit.Lib.Sha256

/-! Calls as transactions carry them, and how the program reads them back. -/

namespace Batchit

open Bytes (Reader Reads)

/-- The program's own address. -/
def BATCHIT_PROGRAM_ID : Pubkey :=
  .key 0x3a9bd050369daf2e16eae4cc238a3d3199681acc0a7b495814c286dc1d9b5e99

/-- An instruction of a transaction: the program, the accounts handed to it, and its bytes. -/
structure TransactionInstruction where
  programId : Pubkey
  keys : List AccountMeta
  data : List UInt8
  deriving DecidableEq, Repr

/-- The first eight bytes of the digest of a method's name. -/
def disc (name : String) : List UInt8 :=
  (Sha256.digest ("global:" ++ name).toUTF8.toList).take 8

/--
The thirty-two bytes of every key, and the key that thirty-two bytes stand for.

Keys are named by their seeds here, so of the keys with the same bytes one is read back.
-/
structure Addressing where
  address : Pubkey → PublicKey
  resolve : PublicKey → Pubkey
  address_resolve : ∀ bytes, address (resolve bytes) = bytes

/-- The key is the one its bytes are read back as. -/
def Addressing.Knows (addressing : Addressing) (key : Pubkey) : Prop :=
  addressing.resolve (addressing.address key) = key

namespace Borsh

open Bytes

/-- A word out of eight bytes, the lowest first. -/
def readU64 : Reader UInt64 := (fun bytes => UInt64.ofNat (number bytes.toList)) <$> next 8

/-- A signed word out of the two's complement in eight bytes. -/
def readI64 : Reader Int64 := UInt64.toInt64 <$> readU64

/-- A key out of thirty-two bytes. -/
def readPubkey (addressing : Addressing) : Reader Pubkey := addressing.resolve <$> next 32

/-- A word is read where its eight bytes stand. -/
theorem readU64_reads : Reads readU64 (fun _ => True) u64 := by
  refine Reads.map (Reads.next (by decide)) (fun word => ?_) fun bytes _ => ?_
  · refine iff_of_true trivial ⟨⟨u64 word, length_u64 word⟩, trivial, ?_⟩
    rw [List.Vector.toList_mk, u64, number_ofNumber_of_lt word.toNat_lt, UInt64.ofNat_toNat]
  · -- Eight bytes hold a word, so nothing of their number is cut off.
    have small := number_lt bytes.toList
    have back := ofNumber_number bytes.toList
    rw [bytes.toList_length] at small back
    rw [u64, UInt64.toNat_ofNat_of_lt' small, back]

/-- A signed word is read where the bytes of its two's complement stand. -/
theorem readI64_reads : Reads readI64 (fun _ => True) i64 := by
  refine Reads.map readU64_reads (fun signed => ?_) fun word _ => ?_
  · exact iff_of_true trivial ⟨signed.toUInt64, trivial, Int64.toInt64_toUInt64 signed⟩
  · rw [i64, UInt64.toUInt64_toInt64]

/-- Any thirty-two bytes are read as a key, and one that they stand for. -/
theorem readPubkey_reads (addressing : Addressing) :
    Reads (readPubkey addressing) addressing.Knows fun key => pubkey (addressing.address key) := by
  refine Reads.map (Reads.next (by decide)) (fun key => ?_) fun bytes _ => ?_
  · -- A key is read if it is the one that its bytes stand for.
    constructor
    · intro known
      exact ⟨addressing.address key, trivial, known⟩
    · intro resolved
      obtain ⟨bytes, -, rfl⟩ := resolved
      rw [Addressing.Knows, addressing.address_resolve]
  · rw [pubkey, addressing.address_resolve]

/-- A word takes eight bytes. -/
theorem readU64_takes : Takes readU64 8 := (Takes.next 8).map _

/-- A signed word takes eight bytes. -/
theorem readI64_takes : Takes readI64 8 := readU64_takes.map _

/-- A key takes thirty-two bytes. -/
theorem readPubkey_takes (addressing : Addressing) : Takes (readPubkey addressing) 32 :=
  (Takes.next 32).map _

end Borsh

/-! ### Methods and their arguments -/

/-- The arguments of `create_pool` in the order they are written. -/
def CreatePoolArgs.bytes (args : CreatePoolArgs) : List UInt8 :=
  [Borsh.u64 args.seed, Borsh.i64 args.launchAt, Borsh.i64 args.graceSecs,
    Borsh.u64 args.minRaiseLamports, Borsh.u64 args.maxPoolLamports,
    Borsh.u64 args.minContributionLamports].flatten

/-- The arguments of `create_pool`, one behind the other. -/
def CreatePoolArgs.read : Reader CreatePoolArgs := do
  let seed ← Borsh.readU64
  let launchAt ← Borsh.readI64
  let graceSecs ← Borsh.readI64
  let minRaiseLamports ← Borsh.readU64
  let maxPoolLamports ← Borsh.readU64
  let minContributionLamports ← Borsh.readU64
  return {
    seed, launchAt, graceSecs, minRaiseLamports, maxPoolLamports, minContributionLamports }

/-- The arguments are read where their forty-eight bytes stand. -/
theorem CreatePoolArgs.read_reads : Reads read (fun _ => True) bytes := by
  refine Reads.field seed Borsh.readU64_reads fun seed => ?_
  refine Reads.field launchAt Borsh.readI64_reads fun launchAt => ?_
  refine Reads.field graceSecs Borsh.readI64_reads fun graceSecs => ?_
  refine Reads.field minRaiseLamports Borsh.readU64_reads fun minRaiseLamports => ?_
  refine Reads.field maxPoolLamports Borsh.readU64_reads fun maxPoolLamports => ?_
  refine Reads.field minContributionLamports Borsh.readU64_reads fun minContributionLamports => ?_
  -- The six fields leave one record.
  refine (Reads.pure _).congr (fun args => ?_) fun _ _ => rfl
  cases args
  simp only [mk.injEq, and_true]
  tauto

/-- The six arguments take forty-eight bytes, whatever they are. -/
theorem CreatePoolArgs.read_takes : Bytes.Takes read 48 := by
  -- Six words of eight bytes each, and then nothing.
  change Bytes.Takes read (8 + (8 + (8 + (8 + (8 + (8 + 0))))))
  refine Bytes.Takes.bind Borsh.readU64_takes fun seed => ?_
  refine Bytes.Takes.bind Borsh.readI64_takes fun launchAt => ?_
  refine Bytes.Takes.bind Borsh.readI64_takes fun graceSecs => ?_
  refine Bytes.Takes.bind Borsh.readU64_takes fun minRaiseLamports => ?_
  refine Bytes.Takes.bind Borsh.readU64_takes fun maxPoolLamports => ?_
  exact Bytes.Takes.bind Borsh.readU64_takes fun minContributionLamports => .pure _

/-- A method of the program and its arguments. -/
inductive Method where
  | createPool (args : CreatePoolArgs)
  | contribute (amount : UInt64)
  | beginLaunch (mint : Pubkey)
  | completeBuy (minTokensOut : UInt64)
  | finalize
  | claim
  | refund
  | markRefundable
  | closePool
  deriving DecidableEq, Repr

namespace Method

/-- The method's name in the program. -/
def name : Method → String
  | createPool _ => "create_pool"
  | contribute _ => "contribute"
  | beginLaunch _ => "begin_launch"
  | completeBuy _ => "complete_buy"
  | finalize => "finalize"
  | claim => "claim"
  | refund => "refund"
  | markRefundable => "mark_refundable"
  | closePool => "close_pool"

/-- How many bytes the arguments take. -/
def width : Method → Nat
  | createPool _ => 48
  | contribute _ | completeBuy _ => 8
  | beginLaunch _ => 32
  | finalize | claim | refund | markRefundable | closePool => 0

/-- The arguments as they are written behind the discriminator. -/
def args (addressing : Addressing) : Method → List UInt8
  | createPool args => args.bytes
  | contribute amount => Borsh.u64 amount
  | beginLaunch mint => Borsh.pubkey (addressing.address mint)
  | completeBuy minTokensOut => Borsh.u64 minTokensOut
  | finalize | claim | refund | markRefundable | closePool => []

/-- Every key among the arguments is read back as itself. -/
def Known (addressing : Addressing) : Method → Prop
  | beginLaunch mint => addressing.Knows mint
  | _ => True

/-- The bytes of a method and its arguments. -/
def data (addressing : Addressing) (method : Method) : List UInt8 :=
  disc method.name ++ method.args addressing

/-- The arguments take as many bytes as the width says. -/
theorem length_args (addressing : Addressing) (method : Method) :
    (method.args addressing).length = method.width := by
  -- Each kind of argument has its width.
  cases method with
  | createPool values => simp [args, width, CreatePoolArgs.bytes]
  | contribute amount => exact Borsh.length_u64 amount
  | beginLaunch mint => exact Borsh.length_pubkey _
  | completeBuy minTokensOut => exact Borsh.length_u64 minTokensOut
  | finalize | claim | refund | markRefundable | closePool => rfl

/-- The call of a method on accounts, taken in order from those handed to the program. -/
def withAccounts : Method → List Pubkey → Option Instruction
  | createPool args, creator :: pool :: buyer :: _ :: _ =>
    some (.createPool { creator, pool, buyer } args)
  | contribute amount, contributor :: pool :: contribution :: _ :: _ =>
    some (.contribute { contributor, pool, contribution } amount)
  | beginLaunch mint, caller :: pool :: _ => some (.beginLaunch { caller, pool } mint)
  | completeBuy minTokensOut, caller :: pool :: buyer :: mint :: global :: feeRecipient
      :: bondingCurve :: associatedBondingCurve :: associatedUser :: creatorVault
      :: eventAuthority :: pumpProgram :: globalVolumeAccumulator :: userVolumeAccumulator
      :: feeConfig :: feeProgram :: bondingCurveV2 :: buybackFeeRecipient :: _ :: _ :: _ =>
    some (.completeBuy {
      caller, pool, buyer, mint, global, feeRecipient, bondingCurve, associatedBondingCurve
      associatedUser, creatorVault, eventAuthority, pumpProgram, globalVolumeAccumulator
      userVolumeAccumulator, feeConfig, feeProgram, bondingCurveV2, buybackFeeRecipient
      } minTokensOut)
  | finalize, caller :: pool :: buyer :: mint :: associatedUser :: bondingCurve :: _ :: _ =>
    some (.finalize { caller, pool, buyer, mint, associatedUser, bondingCurve })
  | claim, contributor :: pool :: contribution :: buyer :: vaultAta :: contributorAta :: _ :: _ =>
    some (.claim { contributor, pool, contribution, buyer, vaultAta, contributorAta })
  | refund, contributor :: pool :: contribution :: _ =>
    some (.refund { contributor, pool, contribution })
  | markRefundable, caller :: pool :: _ => some (.markRefundable { caller, pool })
  | closePool, creator :: pool :: _ => some (.closePool { creator, pool })
  | _, _ => none

end Method

/-- The method and arguments of an instruction that calls the program. -/
def Instruction.method : Instruction → Option Method
  | .createPool _ args => some (.createPool args)
  | .contribute _ amount => some (.contribute amount)
  | .beginLaunch _ mint => some (.beginLaunch mint)
  | .completeBuy _ minTokensOut => some (.completeBuy minTokensOut)
  | .finalize _ => some .finalize
  | .claim _ => some .claim
  | .refund _ => some .refund
  | .markRefundable _ => some .markRefundable
  | .closePool _ => some .closePool
  | .systemTransfer _ _ _ | .token _ | .writeAccount _ _ | .pumpCreate _ _ | .pumpTrade .. =>
    none

end Batchit
