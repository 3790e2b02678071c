import Batchit.Layout

/-! How the tests read a pool account: a cursor over the fields, and two fixed offsets. -/

namespace Batchit

namespace Localnet

open Bytes (Reader Decodes)

/-- A pool as the integration tests see it. -/
structure DecodedPool where
  status : Nat
  statusName : String
  creator : PublicKey
  seed : Int
  mint : PublicKey
  launchAt : Int
  graceEndsAt : Int
  minRaise : Int
  maxPool : Int
  minContribution : Int
  totalContributed : Int
  contributorCount : Nat
  tokensBought : Int
  distributable : Int
  burned : Int
  deriving DecidableEq

/-- The names of the statuses in the order of their bytes. -/
def STATUS_NAMES : List String :=
  ["Open", "Launching", "Bought", "Finalized", "Refundable", "Closed"]

/-- The number of the next byte. -/
def u8 : Reader Nat := Bytes.nextNumber 1

/-- The next thirty-two bytes. -/
def pubkey : Reader PublicKey := Bytes.next 32

/-- The number of the next eight bytes. -/
def u64 : Reader Int := (fun value : Nat => (value : Int)) <$> Bytes.nextNumber 8

/-- A signed word is read back from its two's complement. -/
def i64 : Reader Int := (fun value : Nat => Int.bmod value (2 ^ 64)) <$> Bytes.nextNumber 8

/-- The number of the next four bytes. -/
def u32 : Reader Nat := Bytes.nextNumber 4

/-- The fields as they are read, in order, from behind the discriminator. -/
def readPool : Reader DecodedPool := do
  let _ ← u8 -- bump
  let _ ← u8 -- buyer_bump
  let status ← u8
  let creator ← pubkey
  let seed ← u64
  let mint ← pubkey
  let launchAt ← i64
  let graceEndsAt ← i64
  let minRaise ← u64
  let maxPool ← u64
  let minContribution ← u64
  let totalContributed ← u64
  let contributorCount ← u32
  let tokensBought ← u64
  let distributable ← u64
  let burned ← u64
  return {
    status
    statusName := STATUS_NAMES[status]?.getD ("unknown(" ++ toString status ++ ")")
    creator
    seed
    mint
    launchAt
    graceEndsAt
    minRaise
    maxPool
    minContribution
    totalContributed
    contributorCount
    tokensBought
    distributable
    burned }

/--
Read a pool, or throw where the bytes end before the fields do.

A single byte past the end reads as undefined without throwing, but the words after it then throw.
-/
def decodePool (data : List UInt8) : Option DecodedPool :=
  (readPool.from data 8).map Prod.fst

/-! ### Each reader undoes its writer -/

/-- A byte that is written is read back as its number. -/
theorem decodes_u8 (value : UInt8) : Decodes u8 (Borsh.u8 value) value.toNat := by
  -- A single byte is its own number.
  have read : Decodes u8 (Bytes.ofNumber 1 value.toNat) value.toNat :=
    .nextNumber (by decide) value.toNat_lt
  rwa [Bytes.ofNumber, Bytes.ofNumber, UInt8.ofNat_toNat] at read

/-- A key that is written is read back. -/
theorem decodes_pubkey (value : PublicKey) : Decodes pubkey (Borsh.pubkey value) value :=
  .next value (by decide)

/-- A word that is written is read back as its number. -/
theorem decodes_u64 (value : UInt64) : Decodes u64 (Borsh.u64 value) value.toNat :=
  .map _ (.nextNumber (by decide) value.toNat_lt)

/-- Half a word that is written is read back as its number. -/
theorem decodes_u32 (value : UInt32) : Decodes u32 (Borsh.u32 value) value.toNat :=
  .nextNumber (by decide) value.toNat_lt

/-- The two's complement reads back as the signed number over its whole range. -/
theorem decodes_i64 (value : Int64) : Decodes i64 (Borsh.i64 value) value.toInt := by
  have read : Decodes i64 (Borsh.i64 value) (Int.bmod value.toUInt64.toNat (2 ^ 64)) :=
    .map _ (.nextNumber (by decide) value.toUInt64.toNat_lt)
  -- The balanced remainder of the word is the number it stands for.
  have signed : Int.bmod value.toUInt64.toNat (2 ^ 64) = value.toInt :=
    value.toBitVec.toInt_eq_toNat_bmod.symm
  rwa [signed] at read

/-- What a decoder should see of a pool. -/
def DecodedPool.of (encoding : Encoding) (pool : Pool) : DecodedPool where
  status := pool.status.discriminant.toNat
  statusName := pool.status.name
  creator := encoding.address pool.creator
  seed := pool.seed.toNat
  mint := encoding.address pool.mint
  launchAt := pool.launchAt.toInt
  graceEndsAt := pool.graceEndsAt.toInt
  minRaise := pool.minRaiseLamports.toNat
  maxPool := pool.maxPoolLamports.toNat
  minContribution := pool.minContributionLamports.toNat
  totalContributed := pool.totalContributed.toNat
  contributorCount := pool.contributorCount.toNat
  tokensBought := pool.tokensBought.toNat
  distributable := pool.distributable.toNat
  burned := pool.burned.toNat

/-- The names are listed in the order of the bytes statuses are written as. -/
theorem statusNames_discriminant (status : PoolStatus) :
    STATUS_NAMES[status.discriminant.toNat]? = some status.name := by
  cases status <;> rfl

/-- The decoder undoes the encoding. -/
theorem decodePool_serialize (encoding : Encoding) (pool : Pool) :
    decodePool (pool.serialize encoding) = some (.of encoding pool) := by
  -- Field by field the reader meets the bytes of its own width, up to the last field it reads.
  have fields : Decodes readPool ((pool.fields encoding).take 16).flatten (.of encoding pool) := by
    apply (decodes_u8 pool.bump).bind
    apply (decodes_u8 pool.buyerBump).bind
    apply (decodes_u8 pool.status.discriminant).bind
    apply (decodes_pubkey (encoding.address pool.creator)).bind
    apply (decodes_u64 pool.seed).bind
    apply (decodes_pubkey (encoding.address pool.mint)).bind
    apply (decodes_i64 pool.launchAt).bind
    apply (decodes_i64 pool.graceEndsAt).bind
    apply (decodes_u64 pool.minRaiseLamports).bind
    apply (decodes_u64 pool.maxPoolLamports).bind
    apply (decodes_u64 pool.minContributionLamports).bind
    apply (decodes_u64 pool.totalContributed).bind
    apply (decodes_u32 pool.contributorCount).bind
    apply (decodes_u64 pool.tokensBought).bind
    apply (decodes_u64 pool.distributable).bind
    apply (decodes_u64 pool.burned).bind
    rw [statusNames_discriminant, Option.getD_some]
    exact .pure _
  -- They stand right behind the discriminator.
  have stands : ((pool.fields encoding).take 16).flatten
      <+: (pool.serialize encoding).drop 8 := by
    have eight : encoding.discriminator.toList.length = 8 := encoding.discriminator.toList_length
    rw [Pool.serialize, List.drop_left' eight]
    exact ⟨((pool.fields encoding).drop 16).flatten, by
      rw [← List.flatten_append, List.take_append_drop]⟩
  rw [decodePool, fields _ _ stands, Option.map_some]

end Localnet

namespace PlMatrix

/-- The byte after the discriminator and the two bumps, past the end of which the index panics. -/
def poolStatus (data : List UInt8) : Option UInt8 := data[10]?

/-- The word at the fixed offset of the contributed total, a slice that panics past the end. -/
def poolTotal (data : List UInt8) : Option UInt64 :=
  if 131 ≤ data.length then
    some (.ofNat (Bytes.number ((data.drop 123).take 8)))
  else none

/-- The fixed offset of the status is where it stands. -/
theorem poolStatus_serialize (encoding : Encoding) (pool : Pool) :
    poolStatus (pool.serialize encoding) = some pool.status.discriminant := by
  obtain ⟨rest, stands⟩ := pool.field_stands encoding 2 rfl
  -- Two one-byte fields come before it.
  rw [poolStatus, ← Nat.add_zero 10, ← List.getElem?_drop]
  change _ = (pool.serialize encoding).drop 10 at stands
  rw [← stands]
  rfl

/-- The fixed offset of the contributed total is where it stands. -/
theorem poolTotal_serialize (encoding : Encoding) (pool : Pool) :
    poolTotal (pool.serialize encoding) = some pool.totalContributed := by
  have stands := pool.field_stands encoding 11 rfl
  -- The widths of the eleven fields before it add up to the offset.
  have offset : 8 + ((pool.fields encoding).take 11).flatten.length = 123 := by
    simp [Pool.fields]
  rw [offset] at stands
  have room := Bytes.room_of_prefix (by simp) stands
  have taken := List.prefix_iff_eq_take.mp stands
  rw [Borsh.length_u64] at room taken
  rw [poolTotal, if_pos room, ← taken, Borsh.u64,
    Bytes.number_ofNumber_of_lt pool.totalContributed.toNat_lt, UInt64.ofNat_toNat]

end PlMatrix

/-- What every reader of a serialized pool gives back. -/
structure ReadsBack (encoding : Encoding) (pool : Pool) (data : List UInt8) : Prop where
  length : data.length = 191
  account : data.length = Pool.LEN
  decoded : Localnet.decodePool data = some (.of encoding pool)
  status : PlMatrix.poolStatus data = some pool.status.discriminant
  total : PlMatrix.poolTotal data = some pool.totalContributed

/-- A serialized pool fills its account, and every reader of it sees the fields that were written. -/
theorem serialize_reads_back (encoding : Encoding) (pool : Pool) :
    ReadsBack encoding pool (pool.serialize encoding) where
  -- Each reader has a lemma of its own.
  length := pool.length_serialize encoding
  account := pool.length_serialize encoding
  decoded := Localnet.decodePool_serialize encoding pool
  status := PlMatrix.poolStatus_serialize encoding pool
  total := PlMatrix.poolTotal_serialize encoding pool

end Batchit
