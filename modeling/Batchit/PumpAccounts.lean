import Batchit.Layout
import Batchit.Pump

/-! Pump's accounts as its interface file lays them out, and how the program and a client read them. -/

namespace Batchit

/-- A coin's curve. -/
structure BondingCurve where
  virtualTokenReserves : UInt64
  virtualQuoteReserves : UInt64
  realTokenReserves : UInt64
  realQuoteReserves : UInt64
  tokenTotalSupply : UInt64
  complete : Bool
  creator : PublicKey
  isMayhemMode : Bool
  isCashbackCoin : Bool
  quoteMint : PublicKey
  deriving DecidableEq

/-- The fields of a curve in declaration order. -/
def BondingCurve.fields (curve : BondingCurve) : List (List UInt8) := [
  Borsh.u64 curve.virtualTokenReserves,
  Borsh.u64 curve.virtualQuoteReserves,
  Borsh.u64 curve.realTokenReserves,
  Borsh.u64 curve.realQuoteReserves,
  Borsh.u64 curve.tokenTotalSupply,
  Borsh.bool curve.complete,
  Borsh.pubkey curve.creator,
  Borsh.bool curve.isMayhemMode,
  Borsh.bool curve.isCashbackCoin,
  Borsh.pubkey curve.quoteMint]

/-! ### The program's reader -/

/-- The word at a position is the one whose eight bytes stand there. -/
theorem wordAt_eq_iff {data : List UInt8} {start : Nat} {word : UInt64}
    (room : start + 8 ≤ data.length) :
    wordAt data start = word ↔ Borsh.u64 word <+: data.drop start := by
  have long : ((data.drop start).take 8).length = 8 := by
    rw [List.length_take, List.length_drop]
    omega
  rw [wordAt]
  -- Eight bytes and their word determine each other.
  constructor
  · intro read
    subst read
    have small := Bytes.number_lt ((data.drop start).take 8)
    have back := Bytes.ofNumber_number ((data.drop start).take 8)
    rw [long] at small back
    rw [Borsh.u64, UInt64.toNat_ofNat_of_lt' small, back]
    exact List.take_prefix _ _
  · intro stands
    have taken := List.prefix_iff_eq_take.mp stands
    rw [Borsh.length_u64] at taken
    rw [← taken, Borsh.u64, Bytes.number_ofNumber_of_lt word.toNat_lt, UInt64.ofNat_toNat]

/-- The four words of the reserves, as they follow each other. -/
def BondingCurveReserves.bytes (reserves : BondingCurveReserves) : List UInt8 :=
  Borsh.u64 reserves.virtualTokenReserves ++ (Borsh.u64 reserves.virtualQuoteReserves ++
    (Borsh.u64 reserves.realTokenReserves ++ Borsh.u64 reserves.realQuoteReserves))

/-- The four words take thirty-two bytes. -/
@[simp] theorem BondingCurveReserves.length_bytes (reserves : BondingCurveReserves) :
    reserves.bytes.length = 32 := by
  simp [bytes]

/-- Four words are read as the reserves whose bytes they are. -/
theorem BondingCurveReserves.bytes_prefix_iff {data : List UInt8} {reserves : BondingCurveReserves}
    (room : 32 ≤ data.length) : reserves.bytes <+: data ↔
      wordAt data 0 = reserves.virtualTokenReserves ∧ wordAt data 8 = reserves.virtualQuoteReserves ∧
      wordAt data 16 = reserves.realTokenReserves ∧ wordAt data 24 = reserves.realQuoteReserves := by
  -- Each word stands where the ones before it end.
  simp only [bytes, Bytes.append_prefix_iff, Borsh.length_u64, List.drop_drop]
  rw [wordAt_eq_iff (by omega), wordAt_eq_iff (by omega), wordAt_eq_iff (by omega),
    wordAt_eq_iff (by omega), List.drop_zero]

/-- The reserves are read where their words stand behind the discriminator, and nowhere else. -/
theorem decodeBondingCurveReserves_ok {data : List UInt8} {reserves : BondingCurveReserves} :
    decodeBondingCurveReserves data = .ok reserves ↔ reserves.bytes <+: data.drop 8 := by
  simp only [decodeBondingCurveReserves, bind_eq_ok, require_eq_ok, pure_eq_ok, exists_const]
  constructor
  · intro facts
    obtain ⟨long, rfl⟩ := facts
    refine (BondingCurveReserves.bytes_prefix_iff ?_).mpr ⟨rfl, rfl, rfl, rfl⟩
    rw [List.length_drop]
    omega
  · intro stands
    -- Where the four words stand, the bytes are long enough for the check.
    have room := stands.length_le
    rw [BondingCurveReserves.length_bytes] at room
    obtain ⟨first, second, third, fourth⟩ :=
      (BondingCurveReserves.bytes_prefix_iff room).mp stands
    rw [List.length_drop] at room
    exact ⟨by omega, by rw [first, second, third, fourth]⟩

/-! ### The client's reader -/

/-- Pump's settings. -/
structure Global where
  initialized : Bool
  authority : PublicKey
  feeRecipient : PublicKey
  initialVirtualTokenReserves : UInt64
  initialVirtualSolReserves : UInt64
  initialRealTokenReserves : UInt64
  tokenTotalSupply : UInt64
  feeBasisPoints : UInt64
  withdrawAuthority : PublicKey
  enableMigrate : Bool
  poolMigrationFee : UInt64
  creatorFeeBasisPoints : UInt64
  feeRecipients : List.Vector PublicKey 7
  setCreatorAuthority : PublicKey
  adminSetCreatorAuthority : PublicKey
  createV2Enabled : Bool
  whitelistPda : PublicKey
  reservedFeeRecipient : PublicKey
  mayhemModeEnabled : Bool
  reservedFeeRecipients : List.Vector PublicKey 7
  isCashbackEnabled : Bool
  buybackFeeRecipients : List.Vector PublicKey 8
  buybackBasisPoints : UInt64
  initialVirtualQuoteReserves : UInt64
  whitelistedQuoteMints : List.Vector PublicKey 1
  deriving DecidableEq

/-- The fields of the settings in declaration order. -/
def Global.fields (settings : Global) : List (List UInt8) := [
  Borsh.bool settings.initialized,
  Borsh.pubkey settings.authority,
  Borsh.pubkey settings.feeRecipient,
  Borsh.u64 settings.initialVirtualTokenReserves,
  Borsh.u64 settings.initialVirtualSolReserves,
  Borsh.u64 settings.initialRealTokenReserves,
  Borsh.u64 settings.tokenTotalSupply,
  Borsh.u64 settings.feeBasisPoints,
  Borsh.pubkey settings.withdrawAuthority,
  Borsh.bool settings.enableMigrate,
  Borsh.u64 settings.poolMigrationFee,
  Borsh.u64 settings.creatorFeeBasisPoints,
  settings.feeRecipients.toList.flatMap Borsh.pubkey,
  Borsh.pubkey settings.setCreatorAuthority,
  Borsh.pubkey settings.adminSetCreatorAuthority,
  Borsh.bool settings.createV2Enabled,
  Borsh.pubkey settings.whitelistPda,
  Borsh.pubkey settings.reservedFeeRecipient,
  Borsh.bool settings.mayhemModeEnabled,
  settings.reservedFeeRecipients.toList.flatMap Borsh.pubkey,
  Borsh.bool settings.isCashbackEnabled,
  settings.buybackFeeRecipients.toList.flatMap Borsh.pubkey,
  Borsh.u64 settings.buybackBasisPoints,
  Borsh.u64 settings.initialVirtualQuoteReserves,
  settings.whitelistedQuoteMints.toList.flatMap Borsh.pubkey]

namespace SpikeClient

open Bytes (Reader)

/-- The recipients and rates of pump's fees. -/
structure PumpGlobalFees where
  feeRecipient : PublicKey
  feeRecipients : List PublicKey
  reservedFeeRecipient : PublicKey
  reservedFeeRecipients : List PublicKey
  buybackFeeRecipients : List PublicKey
  feeBasisPoints : Int
  creatorFeeBasisPoints : Int
  deriving DecidableEq

/-- Any byte but zero is true, and so is one past the end. -/
def readBool : Reader Bool := fun data start => some (data[start]? ≠ some 0, start + 1)

/-- A key out of the next bytes, which are fewer than it has where the account ends. -/
def readPubkey (publicKey : List UInt8 → Option PublicKey) : Reader PublicKey :=
  fun data start => (publicKey ((data.drop start).take 32)).map fun key => (key, start + 32)

/-- A word out of eight bytes, the lowest first. -/
def readU64 : Reader Int := (fun value : Nat => (value : Int)) <$> Bytes.nextNumber 8

/-- The fields as they are read, in order, from behind the discriminator. -/
def readGlobalFees (publicKey : List UInt8 → Option PublicKey) : Reader PumpGlobalFees := do
  let readPubkey := readPubkey publicKey
  let _ ← readBool -- initialized
  let _ ← readPubkey -- authority
  let feeRecipient ← readPubkey
  let _ ← readU64 -- initial_virtual_token_reserves
  let _ ← readU64 -- initial_virtual_sol_reserves
  let _ ← readU64 -- initial_real_token_reserves
  let _ ← readU64 -- token_total_supply
  let feeBasisPoints ← readU64
  let _ ← readPubkey -- withdraw_authority
  let _ ← readBool -- enable_migrate
  let _ ← readU64 -- pool_migration_fee
  let creatorFeeBasisPoints ← readU64
  let feeRecipients ← Bytes.repeated 7 readPubkey
  let _ ← readPubkey -- set_creator_authority
  let _ ← readPubkey -- admin_set_creator_authority
  let _ ← readBool -- create_v2_enabled
  let _ ← readPubkey -- whitelist_pda
  let reservedFeeRecipient ← readPubkey
  let _ ← readBool -- mayhem_mode_enabled
  let reservedFeeRecipients ← Bytes.repeated 7 readPubkey
  let _ ← readBool -- is_cashback_enabled
  let buybackFeeRecipients ← Bytes.repeated 8 readPubkey
  return {
    feeRecipient
    feeRecipients
    reservedFeeRecipient
    reservedFeeRecipients
    buybackFeeRecipients
    feeBasisPoints
    creatorFeeBasisPoints }

/-- Read the fees, or throw where the library refuses a key or the bytes end before a word does. -/
def decodeGlobalFees (publicKey : List UInt8 → Option PublicKey) (data : List UInt8) :
    Option PumpGlobalFees :=
  ((readGlobalFees publicKey).from data 8).map Prod.fst

end SpikeClient

/-! ### What is read is what pump wrote -/

namespace SpikeClient

open Bytes (Decodes)

/-- A flag that is written is read back. -/
theorem decodes_bool (value : Bool) : Decodes readBool (Borsh.bool value) value := by
  intro data start stands
  -- The flag is the one byte at the position.
  have byte : data[start]? = some (if value then 1 else 0) := by
    obtain ⟨rest, whole⟩ := stands
    rw [← Nat.add_zero start, ← List.getElem?_drop, ← whole]
    rfl
  change some (decide (data[start]? ≠ some 0), start + 1) = some (value, start + 1)
  rw [byte]
  cases value <;> rfl

/-- A word that is written is read back as its number. -/
theorem decodes_u64 (value : UInt64) : Decodes readU64 (Borsh.u64 value) value.toNat :=
  .map _ (.nextNumber (by decide) value.toNat_lt)

section Keys

variable {publicKey : List UInt8 → Option PublicKey}

/-- A key that is written is read back, if the library knows it by its bytes. -/
theorem decodes_pubkey (known : ∀ key : PublicKey, publicKey key.toList = some key)
    (value : PublicKey) : Decodes (readPubkey publicKey) (Borsh.pubkey value) value := by
  intro data start stands
  -- The slice the library is given is the whole key.
  have taken := List.prefix_iff_eq_take.mp stands
  rw [Borsh.length_pubkey] at taken ⊢
  change ((publicKey ((data.drop start).take 32)).map fun key => (key, start + 32)) = _
  rw [← taken, Borsh.pubkey, known]
  rfl

/-- Keys in a row are read in a row. -/
theorem decodes_pubkeys (known : ∀ key : PublicKey, publicKey key.toList = some key) {count : Nat}
    (values : List.Vector PublicKey count) :
    Decodes (Bytes.repeated count (readPubkey publicKey)) (values.toList.flatMap Borsh.pubkey)
      values.toList := by
  have read := Decodes.repeated (decodes_pubkey known) values.toList
  rwa [values.toList_length] at read

/-- The fees that a client should see in pump's settings. -/
def PumpGlobalFees.of (settings : Global) : PumpGlobalFees where
  feeRecipient := settings.feeRecipient
  feeRecipients := settings.feeRecipients.toList
  reservedFeeRecipient := settings.reservedFeeRecipient
  reservedFeeRecipients := settings.reservedFeeRecipients.toList
  buybackFeeRecipients := settings.buybackFeeRecipients.toList
  feeBasisPoints := settings.feeBasisPoints.toNat
  creatorFeeBasisPoints := settings.creatorFeeBasisPoints.toNat

/-- The settings are read field by field, up to the last recipients. -/
theorem decodes_globalFees (known : ∀ key : PublicKey, publicKey key.toList = some key)
    (settings : Global) :
    Decodes (readGlobalFees publicKey) (settings.fields.take 22).flatten (.of settings) := by
  -- One reader for each field; what is skipped is read all the same.
  apply (decodes_bool settings.initialized).bind
  apply (decodes_pubkey known settings.authority).bind
  apply (decodes_pubkey known settings.feeRecipient).bind
  apply (decodes_u64 settings.initialVirtualTokenReserves).bind
  apply (decodes_u64 settings.initialVirtualSolReserves).bind
  apply (decodes_u64 settings.initialRealTokenReserves).bind
  apply (decodes_u64 settings.tokenTotalSupply).bind
  apply (decodes_u64 settings.feeBasisPoints).bind
  apply (decodes_pubkey known settings.withdrawAuthority).bind
  apply (decodes_bool settings.enableMigrate).bind
  apply (decodes_u64 settings.poolMigrationFee).bind
  apply (decodes_u64 settings.creatorFeeBasisPoints).bind
  apply (decodes_pubkeys known settings.feeRecipients).bind
  apply (decodes_pubkey known settings.setCreatorAuthority).bind
  apply (decodes_pubkey known settings.adminSetCreatorAuthority).bind
  apply (decodes_bool settings.createV2Enabled).bind
  apply (decodes_pubkey known settings.whitelistPda).bind
  apply (decodes_pubkey known settings.reservedFeeRecipient).bind
  apply (decodes_bool settings.mayhemModeEnabled).bind
  apply (decodes_pubkeys known settings.reservedFeeRecipients).bind
  apply (decodes_bool settings.isCashbackEnabled).bind
  apply (decodes_pubkeys known settings.buybackFeeRecipients).bind
  exact .pure _

end Keys

end SpikeClient

/-- An account of pump: its discriminator, its fields, and whatever the account has behind them. -/
def pumpAccount (discriminator : List.Vector UInt8 8) (fields : List (List UInt8))
    (rest : List UInt8) : List UInt8 :=
  discriminator.toList ++ (fields.flatten ++ rest)

/--
The accounts of pump are read as they are laid out, the curve by the program and the settings by the client.

The program finds some reserves in any bytes that are long enough, whatever account they are of.
-/
theorem pump_accounts_read {publicKey : List UInt8 → Option PublicKey}
    (known : ∀ key : PublicKey, publicKey key.toList = some key)
    (discriminator : List.Vector UInt8 8) (rest : List UInt8) :
    (∀ curve : BondingCurve,
      decodeBondingCurveReserves (pumpAccount discriminator curve.fields rest) = .ok {
        virtualTokenReserves := curve.virtualTokenReserves
        virtualQuoteReserves := curve.virtualQuoteReserves
        realTokenReserves := curve.realTokenReserves
        realQuoteReserves := curve.realQuoteReserves }) ∧
    (∀ settings : Global,
      SpikeClient.decodeGlobalFees publicKey (pumpAccount discriminator settings.fields rest)
        = some (.of settings)) ∧
    ∀ data reserves, decodeBondingCurveReserves data = .ok reserves ↔
      reserves.bytes <+: data.drop 8 := by
  have eight : discriminator.toList.length = 8 := discriminator.toList_length
  refine ⟨fun curve => ?_, fun settings => ?_, fun _ _ => decodeBondingCurveReserves_ok⟩
  · -- The reserves are the curve's first four fields.
    rw [decodeBondingCurveReserves_ok, pumpAccount, List.drop_left' eight]
    exact ⟨(curve.fields.drop 4).flatten ++ rest, by
      simp [BondingCurveReserves.bytes, BondingCurve.fields]⟩
  · have stands : (settings.fields.take 22).flatten
        <+: (pumpAccount discriminator settings.fields rest).drop 8 := by
      rw [pumpAccount, List.drop_left' eight]
      exact ⟨(settings.fields.drop 22).flatten ++ rest, by
        rw [← List.append_assoc, ← List.flatten_append, List.take_append_drop]⟩
    rw [SpikeClient.decodeGlobalFees, SpikeClient.decodes_globalFees known settings _ _ stands,
      Option.map_some]

namespace Sample

/-- A key out of at most thirty-two bytes, the first of them the highest. -/
def publicKey (bytes : List UInt8) : Option PublicKey :=
  if short : bytes.length ≤ 32 then
    some ⟨List.replicate (32 - bytes.length) 0 ++ bytes, by simp; omega⟩
  else none

/-- Every key is known by its own thirty-two bytes. -/
theorem publicKey_known (key : PublicKey) : publicKey key.toList = some key := by
  have long := key.toList_length
  rw [publicKey, dif_pos (by omega)]
  -- A key has all its bytes, so none is added in front.
  refine congrArg some (List.Vector.eq _ _ ?_)
  rw [List.Vector.toList_mk, long]
  rfl

/-- A key whose bytes are all the same. -/
def keyOf (byte : UInt8) : PublicKey := List.Vector.replicate 32 byte

/-- Pump's settings as of the sample. -/
def settings : Global where
  initialized := true
  authority := keyOf 1
  feeRecipient := keyOf 2
  initialVirtualTokenReserves := 1073000000000000
  initialVirtualSolReserves := 30000000000
  initialRealTokenReserves := 793100000000000
  tokenTotalSupply := 1000000000000000
  feeBasisPoints := 95
  withdrawAuthority := keyOf 3
  enableMigrate := true
  poolMigrationFee := 15000001
  creatorFeeBasisPoints := 5
  feeRecipients := .replicate 7 (keyOf 4)
  setCreatorAuthority := keyOf 5
  adminSetCreatorAuthority := keyOf 6
  createV2Enabled := true
  whitelistPda := keyOf 7
  reservedFeeRecipient := keyOf 8
  mayhemModeEnabled := false
  reservedFeeRecipients := .replicate 7 (keyOf 9)
  isCashbackEnabled := false
  buybackFeeRecipients := .replicate 8 (keyOf 10)
  buybackBasisPoints := 0
  initialVirtualQuoteReserves := 30000000000
  whitelistedQuoteMints := .replicate 1 (keyOf 11)

end Sample

/-- The sample settings are read, whatever the account has behind them. -/
theorem pump_accounts_read_sample :
    SpikeClient.decodeGlobalFees Sample.publicKey
      (pumpAccount (.replicate 8 167) Sample.settings.fields [0, 0]) = some (.of Sample.settings) :=
  (pump_accounts_read Sample.publicKey_known _ _).2.1 Sample.settings

end Batchit
