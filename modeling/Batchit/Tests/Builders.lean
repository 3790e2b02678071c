import Batchit.Wire.Dispatch

/-! How the tests build the program's instructions: in a buffer by offsets, and by appending. -/

namespace Batchit

/-! ### Buffers -/

namespace Buffer

/-- A buffer of zeros. -/
def alloc (size : Nat) : List UInt8 := List.replicate size 0

/-- Overwrite a buffer from a position on, as far as it reaches. -/
def copy (bytes buffer : List UInt8) (start : Nat) : List UInt8 :=
  buffer.take start ++ bytes.take (buffer.length - start) ++ buffer.drop (start + bytes.length)

/-- Write an unsigned word, or throw where the number or the position is out of range. -/
def writeBigUInt64LE (buffer : List UInt8) (value : Int) (start : Nat) : Option (List UInt8) :=
  if (0 ≤ value ∧ value < 2 ^ 64) ∧ start + 8 ≤ buffer.length then
    some (copy (Bytes.ofNumber 8 value.toNat) buffer start)
  else none

/-- Write a signed word in two's complement, or throw where something is out of range. -/
def writeBigInt64LE (buffer : List UInt8) (value : Int) (start : Nat) : Option (List UInt8) :=
  if (-2 ^ 63 ≤ value ∧ value < 2 ^ 63) ∧ start + 8 ≤ buffer.length then
    some (copy (Bytes.ofNumber 8 (value % 2 ^ 64).toNat) buffer start)
  else none

/-- What is copied behind the bytes already written stands right behind them. -/
theorem copy_behind {written : List UInt8} {start : Nat} (behind : written.length = start)
    (bytes : List UInt8) (room : Nat) :
    copy bytes (written ++ alloc (room + bytes.length)) start = (written ++ bytes) ++ alloc room := by
  subst behind
  simp [copy, alloc, List.take_of_length_le, List.drop_append]

/-- What is copied into a new buffer stands at its front. -/
theorem copy_front (bytes : List UInt8) (room : Nat) :
    copy bytes (alloc (room + bytes.length)) 0 = bytes ++ alloc room :=
  copy_behind List.length_nil bytes room

/-- One byte fills up a buffer that is written but for its last byte. -/
theorem copy_last {written : List UInt8} {start : Nat} (behind : written.length = start)
    (byte : UInt8) : copy [byte] (written ++ alloc 1) start = written ++ [byte] := by
  rw [← List.append_nil (written ++ [byte])]
  exact copy_behind behind [byte] 0

end Buffer

/-- An unsigned word out of a number, if it is one. -/
def wordOf (value : Int) : Option UInt64 :=
  if 0 ≤ value ∧ value < 2 ^ 64 then some (UInt64.ofNat value.toNat) else none

/-- A signed word out of a number, if it is one. -/
def signedOf (value : Int) : Option Int64 :=
  if -2 ^ 63 ≤ value ∧ value < 2 ^ 63 then some (Int64.ofInt value) else none

namespace Buffer

/-- A number written behind the bytes already there is written as its word, or thrown for. -/
theorem writeBigUInt64LE_behind {written : List UInt8} {start : Nat}
    (behind : written.length = start) (value : Int) (room : Nat) :
    writeBigUInt64LE (written ++ alloc (room + 8)) value start
      = (wordOf value).map fun word => (written ++ Borsh.u64 word) ++ alloc room := by
  have reach : start + 8 ≤ (written ++ alloc (room + 8)).length := by
    simp only [List.length_append, alloc, List.length_replicate]
    omega
  -- There is room, so only the range of the number can make it throw.
  unfold writeBigUInt64LE wordOf
  by_cases range : 0 ≤ value ∧ value < 2 ^ 64
  · have small : value.toNat < 2 ^ 64 := by omega
    have placed := copy_behind behind (Bytes.ofNumber 8 value.toNat) room
    rw [Bytes.length_ofNumber] at placed
    rw [if_pos ⟨range, reach⟩, if_pos range, Option.map_some, Borsh.u64,
      UInt64.toNat_ofNat_of_lt' small, placed]
  · rw [if_neg fun both => range both.1, if_neg range, Option.map_none]

/-- A number written into a new buffer is written as its word, or thrown for. -/
theorem writeBigUInt64LE_front (value : Int) (room : Nat) :
    writeBigUInt64LE (alloc (room + 8)) value 0
      = (wordOf value).map fun word => Borsh.u64 word ++ alloc room :=
  writeBigUInt64LE_behind List.length_nil value room

/-- A signed number written behind the bytes already there is written as its word, or thrown for. -/
theorem writeBigInt64LE_behind {written : List UInt8} {start : Nat}
    (behind : written.length = start) (value : Int) (room : Nat) :
    writeBigInt64LE (written ++ alloc (room + 8)) value start
      = (signedOf value).map fun word => (written ++ Borsh.i64 word) ++ alloc room := by
  have reach : start + 8 ≤ (written ++ alloc (room + 8)).length := by
    simp only [List.length_append, alloc, List.length_replicate]
    omega
  unfold writeBigInt64LE signedOf
  by_cases range : -2 ^ 63 ≤ value ∧ value < 2 ^ 63
  · have small : (value % 2 ^ 64).toNat < 2 ^ 64 := by omega
    have placed := copy_behind behind (Bytes.ofNumber 8 (value % 2 ^ 64).toNat) room
    rw [Bytes.length_ofNumber] at placed
    -- Two's complement is the remainder, for the signed word as for the bytes.
    rw [if_pos ⟨range, reach⟩, if_pos range, Option.map_some, Borsh.i64, Borsh.u64,
      Int64.toUInt64_ofInt, UInt64.ofInt, UInt64.toNat_ofNat_of_lt' small, placed]
  · rw [if_neg fun both => range both.1, if_neg range, Option.map_none]

section Bind

variable {β : Type} {written : List UInt8} {start : Nat} {value : Int} {room : Nat}
  {next : List UInt8 → Option β}

/-- Writing a number and going on is going on with its word. -/
theorem writeBigUInt64LE_bind {go : UInt64 → Option β} (behind : written.length = start)
    (same : ∀ word, next ((written ++ Borsh.u64 word) ++ alloc room) = go word) :
    (writeBigUInt64LE (written ++ alloc (room + 8)) value start).bind next
      = (wordOf value).bind go := by
  rw [writeBigUInt64LE_behind behind, Option.bind_map]
  exact Option.bind_congr fun word _ => same word

/-- Writing a signed number and going on is going on with its word. -/
theorem writeBigInt64LE_bind {go : Int64 → Option β} (behind : written.length = start)
    (same : ∀ word, next ((written ++ Borsh.i64 word) ++ alloc room) = go word) :
    (writeBigInt64LE (written ++ alloc (room + 8)) value start).bind next
      = (signedOf value).bind go := by
  rw [writeBigInt64LE_behind behind, Option.bind_map]
  exact Option.bind_congr fun word _ => same word

end Bind

end Buffer

namespace Localnet

open Buffer

/-! ### The builders in TypeScript, whose numbers have no width -/

/-- The pool's address, or throw where the seed is no unsigned word. -/
def poolPda (creator : Pubkey) (seed : Int) : Option Pubkey := do
  let seedBuf ← writeBigUInt64LE (alloc 8) seed 0
  return .pool creator (UInt64.ofNat (Bytes.number seedBuf))

/-- The buyer's address. -/
def buyerPda (pool : Pubkey) : Pubkey := .buyer pool

/-- A contribution's address. -/
def contributionPda (pool contributor : Pubkey) : Pubkey := .contribution pool contributor

/-- What is asked for in `create_pool`. -/
structure CreatePoolParams where
  creator : Pubkey
  seed : Int
  launchAt : Int
  graceSecs : Int
  minRaise : Int
  maxPool : Int
  minContribution : Int
  deriving DecidableEq, Repr

/-- The instruction of `create_pool`, its words written at their offsets. -/
def createPoolIx (params : CreatePoolParams) : Option TransactionInstruction := do
  let pool ← poolPda params.creator params.seed
  let buyer := buyerPda pool
  let data := alloc (8 + 8 + 8 + 8 + 8 + 8 + 8)
  let data := copy (disc "create_pool") data 0
  let data ← writeBigUInt64LE data params.seed 8
  let data ← writeBigInt64LE data params.launchAt 16
  let data ← writeBigInt64LE data params.graceSecs 24
  let data ← writeBigUInt64LE data params.minRaise 32
  let data ← writeBigUInt64LE data params.maxPool 40
  let data ← writeBigUInt64LE data params.minContribution 48
  return {
    programId := BATCHIT_PROGRAM_ID
    keys := [
      { pubkey := params.creator, isSigner := true, isWritable := true },
      { pubkey := pool, isSigner := false, isWritable := true },
      { pubkey := buyer, isSigner := false, isWritable := false },
      { pubkey := SYSTEM_PROGRAM_ID, isSigner := false, isWritable := false }]
    data }

/-- What is asked for in `contribute`. -/
structure ContributeParams where
  contributor : Pubkey
  creator : Pubkey
  seed : Int
  amount : Int
  deriving DecidableEq, Repr

/-- The instruction of `contribute`, its word written at its offset. -/
def contributeIx (params : ContributeParams) : Option TransactionInstruction := do
  let pool ← poolPda params.creator params.seed
  let contribution := contributionPda pool params.contributor
  let data := alloc (8 + 8)
  let data := copy (disc "contribute") data 0
  let data ← writeBigUInt64LE data params.amount 8
  return {
    programId := BATCHIT_PROGRAM_ID
    keys := [
      { pubkey := params.contributor, isSigner := true, isWritable := true },
      { pubkey := pool, isSigner := false, isWritable := true },
      { pubkey := contribution, isSigner := false, isWritable := true },
      { pubkey := SYSTEM_PROGRAM_ID, isSigner := false, isWritable := false }]
    data }

/-- What is asked for in `begin_launch`. -/
structure BeginLaunchParams where
  caller : Pubkey
  creator : Pubkey
  seed : Int
  mint : Pubkey
  deriving DecidableEq, Repr

/-- The instruction of `begin_launch`, its key copied to its offset. -/
def beginLaunchIx (addressing : Addressing) (params : BeginLaunchParams) :
    Option TransactionInstruction := do
  let pool ← poolPda params.creator params.seed
  let data := alloc (8 + 32)
  let data := copy (disc "begin_launch") data 0
  let data := copy (addressing.address params.mint).toList data 8
  return {
    programId := BATCHIT_PROGRAM_ID
    keys := [
      { pubkey := params.caller, isSigner := true, isWritable := false },
      { pubkey := pool, isSigner := false, isWritable := true }]
    data }

/-- What is asked for in `mark_refundable`. -/
structure MarkRefundableParams where
  caller : Pubkey
  creator : Pubkey
  seed : Int
  deriving DecidableEq, Repr

/-- The instruction of `mark_refundable`. -/
def markRefundableIx (params : MarkRefundableParams) : Option TransactionInstruction := do
  let pool ← poolPda params.creator params.seed
  return {
    programId := BATCHIT_PROGRAM_ID
    keys := [
      { pubkey := params.caller, isSigner := true, isWritable := false },
      { pubkey := pool, isSigner := false, isWritable := true }]
    data := disc "mark_refundable" }

/-- What is asked for in `refund`. -/
structure RefundParams where
  contributor : Pubkey
  creator : Pubkey
  seed : Int
  deriving DecidableEq, Repr

/-- The instruction of `refund`. -/
def refundIx (params : RefundParams) : Option TransactionInstruction := do
  let pool ← poolPda params.creator params.seed
  let contribution := contributionPda pool params.contributor
  return {
    programId := BATCHIT_PROGRAM_ID
    keys := [
      { pubkey := params.contributor, isSigner := true, isWritable := true },
      { pubkey := pool, isSigner := false, isWritable := true },
      { pubkey := contribution, isSigner := false, isWritable := true }]
    data := disc "refund" }

/-- What is asked for in `complete_buy`. -/
structure CompleteBuyParams where
  caller : Pubkey
  creator : Pubkey
  seed : Int
  mint : Pubkey
  feeRecipient : Pubkey
  buybackFeeRecipient : Pubkey
  minTokensOut : Option Int
  deriving DecidableEq, Repr

/-- Build the buy; the token accounts' addresses come from the token library. -/
def completeBuyIx (getAssociatedTokenAddressSync : (mint owner : Pubkey) → Pubkey)
    (params : CompleteBuyParams) : Option TransactionInstruction := do
  let pool ← poolPda params.creator params.seed
  let buyer := buyerPda pool
  let bondingCurve := bondingCurvePda params.mint
  let assocBc := getAssociatedTokenAddressSync params.mint bondingCurve
  let associatedUser := getAssociatedTokenAddressSync params.mint buyer
  let data := alloc (8 + 8)
  let data := copy (disc "complete_buy") data 0
  let data ← writeBigUInt64LE data (params.minTokensOut.getD 1) 8
  return {
    programId := BATCHIT_PROGRAM_ID
    keys := [
      { pubkey := params.caller, isSigner := true, isWritable := false },
      { pubkey := pool, isSigner := false, isWritable := true },
      { pubkey := buyer, isSigner := false, isWritable := true },
      { pubkey := params.mint, isSigner := false, isWritable := false },
      { pubkey := globalPda, isSigner := false, isWritable := false },
      { pubkey := params.feeRecipient, isSigner := false, isWritable := true },
      { pubkey := bondingCurve, isSigner := false, isWritable := true },
      { pubkey := assocBc, isSigner := false, isWritable := true },
      { pubkey := associatedUser, isSigner := false, isWritable := true },
      -- The curve's creator is the buyer, which nobody holds a key for.
      { pubkey := creatorVaultPda buyer, isSigner := false, isWritable := true },
      { pubkey := eventAuthorityPda, isSigner := false, isWritable := false },
      { pubkey := PUMP_PROGRAM_ID, isSigner := false, isWritable := false },
      { pubkey := globalVolumeAccumulatorPda, isSigner := false, isWritable := false },
      { pubkey := userVolumeAccumulatorPda buyer, isSigner := false, isWritable := true },
      { pubkey := feeConfigPda, isSigner := false, isWritable := false },
      { pubkey := PUMP_FEE_PROGRAM_ID, isSigner := false, isWritable := false },
      { pubkey := bondingCurveV2Pda params.mint, isSigner := false, isWritable := false },
      { pubkey := params.buybackFeeRecipient, isSigner := false, isWritable := true },
      { pubkey := TOKEN_PROGRAM_ID, isSigner := false, isWritable := false },
      { pubkey := SYSTEM_PROGRAM_ID, isSigner := false, isWritable := false }]
    data }

end Localnet

namespace PlMatrix

open AccountMeta

/-! ### The builders in Rust, which append words to the discriminator -/

/-- The program that the tests call. -/
def batchitId : Pubkey := BATCHIT_PROGRAM_ID

/-- The instruction of `create_pool`, its words appended one by one. -/
def createPoolIx (creator : Pubkey) (seed : UInt64) (launchAt graceSecs : Int64)
    (minRaise maxPool minC : UInt64) : TransactionInstruction :=
  let pool := Pubkey.pool creator seed
  let buyer := Pubkey.buyer pool
  let data := []
  let data := data ++ disc "create_pool"
  let data := data ++ Borsh.u64 seed
  let data := data ++ Borsh.i64 launchAt
  let data := data ++ Borsh.i64 graceSecs
  let data := data ++ Borsh.u64 minRaise
  let data := data ++ Borsh.u64 maxPool
  let data := data ++ Borsh.u64 minC
  { programId := batchitId
    keys := [new creator true, new pool false, newReadonly buyer false,
      newReadonly SYSTEM_PROGRAM_ID false]
    data }

/-- The instruction of `contribute`, its word appended. -/
def contributeIx (contributor creator : Pubkey) (seed amount : UInt64) : TransactionInstruction :=
  let pool := Pubkey.pool creator seed
  let contrib := Pubkey.contribution pool contributor
  let data := []
  let data := data ++ disc "contribute"
  let data := data ++ Borsh.u64 amount
  { programId := batchitId
    keys := [new contributor true, new pool false, new contrib false,
      newReadonly SYSTEM_PROGRAM_ID false]
    data }

/-- The instruction of `begin_launch`, its key appended. -/
def beginLaunchIx (addressing : Addressing) (caller creator : Pubkey) (seed : UInt64)
    (mint : Pubkey) : TransactionInstruction :=
  let pool := Pubkey.pool creator seed
  let data := []
  let data := data ++ disc "begin_launch"
  let data := data ++ (addressing.address mint).toList
  { programId := batchitId
    keys := [newReadonly caller true, new pool false]
    data }

/-- The buy that is to be refused, most of its accounts a dummy. -/
def completeBuyMinimalIx (caller creator : Pubkey) (seed : UInt64)
    (mint bondingCurve associatedUser : Pubkey) : TransactionInstruction :=
  let pool := Pubkey.pool creator seed
  let buyer := Pubkey.buyer pool
  let data := []
  let data := data ++ disc "complete_buy"
  let data := data ++ Borsh.u64 1
  let dummy := SYSTEM_PROGRAM_ID
  { programId := batchitId
    keys := [newReadonly caller true, new pool false, new buyer false, newReadonly mint false,
      newReadonly dummy false, new dummy false, new bondingCurve false, new dummy false,
      new associatedUser false, new dummy false, newReadonly dummy false,
      newReadonly PUMP_PROGRAM_ID false, newReadonly dummy false, new dummy false,
      newReadonly dummy false, newReadonly dummy false, newReadonly dummy false,
      new dummy false, newReadonly TOKEN_PROGRAM_ID false, newReadonly SYSTEM_PROGRAM_ID false]
    data }

/-- The refund that two of the tests write out in place. -/
def refundIx (contributor creator : Pubkey) (seed : UInt64) : TransactionInstruction :=
  let pool := Pubkey.pool creator seed
  let contrib := Pubkey.contribution pool contributor
  let data := []
  let data := data ++ disc "refund"
  { programId := batchitId
    keys := [new contributor true, new pool false, new contrib false]
    data }

end PlMatrix

end Batchit
