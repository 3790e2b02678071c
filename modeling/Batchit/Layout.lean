import Batchit.State
import Batchit.Lib.Bytes

/-! The bytes of the program's accounts: a discriminator, then the fields in declaration order. -/

namespace Batchit

/-- The thirty-two bytes of an address. -/
abbrev PublicKey : Type := List.Vector UInt8 32

/-- The byte a status is written as. -/
def PoolStatus.discriminant : PoolStatus → UInt8
  | Open => 0
  | Launching => 1
  | Bought => 2
  | Finalized => 3
  | Refundable => 4
  | Closed => 5

/-- A status as the enumeration spells it. -/
def PoolStatus.name : PoolStatus → String
  | Open => "Open"
  | Launching => "Launching"
  | Bought => "Bought"
  | Finalized => "Finalized"
  | Refundable => "Refundable"
  | Closed => "Closed"

namespace Borsh

/-- A byte is written as itself. -/
def u8 (value : UInt8) : List UInt8 := [value]

/-- A flag is written as one byte. -/
def bool (value : Bool) : List UInt8 := [if value then 1 else 0]

/-- A word of four bytes is written with its lowest byte first. -/
def u32 (value : UInt32) : List UInt8 := Bytes.ofNumber 4 value.toNat

/-- A word of eight bytes is written with its lowest byte first. -/
def u64 (value : UInt64) : List UInt8 := Bytes.ofNumber 8 value.toNat

/-- A signed word is written as the unsigned word of its two's complement. -/
def i64 (value : Int64) : List UInt8 := u64 value.toUInt64

/-- A key is written as its bytes. -/
def pubkey (value : PublicKey) : List UInt8 := value.toList

section Length

/-- A byte takes one byte. -/
@[simp] theorem length_u8 (value : UInt8) : (u8 value).length = 1 := rfl

/-- A flag takes one byte. -/
@[simp] theorem length_bool (value : Bool) : (bool value).length = 1 := rfl

/-- Half a word takes four bytes. -/
@[simp] theorem length_u32 (value : UInt32) : (u32 value).length = 4 := Bytes.length_ofNumber _ _

/-- A word takes eight bytes. -/
@[simp] theorem length_u64 (value : UInt64) : (u64 value).length = 8 := Bytes.length_ofNumber _ _

/-- A signed word takes eight bytes. -/
@[simp] theorem length_i64 (value : Int64) : (i64 value).length = 8 := length_u64 _

/-- A key takes thirty-two bytes. -/
@[simp] theorem length_pubkey (value : PublicKey) : (pubkey value).length = 32 :=
  value.toList_length

end Length

end Borsh

/-- What the encoding takes from outside the program: its discriminators, and the bytes of keys. -/
structure Encoding where
  /-- The eight bytes that mark an account as a pool. -/
  discriminator : List.Vector UInt8 8
  /-- The eight bytes that mark an account as a contribution. -/
  contributionDiscriminator : List.Vector UInt8 8
  /-- The address a key stands for. -/
  address : Pubkey → PublicKey

namespace Pool

variable (pool : Pool) (encoding : Encoding)

/-- The fields of a pool in declaration order, each as Borsh writes it. -/
def fields : List (List UInt8) := [
  Borsh.u8 pool.bump,
  Borsh.u8 pool.buyerBump,
  Borsh.u8 pool.status.discriminant,
  Borsh.pubkey (encoding.address pool.creator),
  Borsh.u64 pool.seed,
  Borsh.pubkey (encoding.address pool.mint),
  Borsh.i64 pool.launchAt,
  Borsh.i64 pool.graceEndsAt,
  Borsh.u64 pool.minRaiseLamports,
  Borsh.u64 pool.maxPoolLamports,
  Borsh.u64 pool.minContributionLamports,
  Borsh.u64 pool.totalContributed,
  Borsh.u32 pool.contributorCount,
  Borsh.u64 pool.tokensBought,
  Borsh.u64 pool.distributable,
  Borsh.u64 pool.burned,
  Borsh.u64 pool.postVirtualTokenReserves,
  Borsh.u64 pool.postVirtualQuoteReserves,
  Borsh.u64 pool.totalClaimed,
  Borsh.u64 pool.totalRefunded]

/-- The account's bytes: fields follow each other without padding. -/
def serialize : List UInt8 := encoding.discriminator.toList ++ (pool.fields encoding).flatten

/-- A serialized pool fills its account exactly. -/
theorem length_serialize : (pool.serialize encoding).length = LEN := by
  -- Every field has a fixed width, and the widths add up to the account's.
  simp [serialize, fields, LEN]

/-- A field stands behind the discriminator and the fields declared before it. -/
theorem field_stands (index : Nat) {bytes : List UInt8}
    (field : (pool.fields encoding)[index]? = some bytes) :
    bytes <+: (pool.serialize encoding).drop
      (8 + ((pool.fields encoding).take index).flatten.length) := by
  have eight : encoding.discriminator.toList.length = 8 := encoding.discriminator.toList_length
  -- The fields are those before it, the field itself, and those after it.
  obtain ⟨within, rfl⟩ := List.getElem?_eq_some_iff.mp field
  have split : (pool.fields encoding).flatten
      = ((pool.fields encoding).take index).flatten
        ++ ((pool.fields encoding).drop index).flatten := by
    rw [← List.flatten_append, List.take_append_drop]
  rw [serialize, ← List.drop_drop, List.drop_left' eight, split, List.drop_left,
    List.drop_eq_getElem_cons within, List.flatten_cons]
  exact List.prefix_append _ _

end Pool

/-- A contribution account's bytes. -/
def Contribution.serialize (contribution : Contribution) (encoding : Encoding) : List UInt8 :=
  encoding.contributionDiscriminator.toList ++ [
    Borsh.u8 contribution.bump,
    Borsh.pubkey (encoding.address contribution.pool),
    Borsh.pubkey (encoding.address contribution.contributor),
    Borsh.u64 contribution.amount,
    Borsh.bool contribution.claimed,
    Borsh.bool contribution.refunded].flatten

end Batchit
