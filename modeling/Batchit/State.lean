import Batchit.Error

/-! Addresses, and the two account types the program owns. -/

namespace Batchit

/-- The seed prefixes of the pump program's own derived addresses. -/
inductive PumpSeed where
  | global
  | bondingCurve
  | bondingCurveV2
  | creatorVault
  | eventAuthority
  | globalVolumeAccumulator
  | userVolumeAccumulator
  | feeConfig
  deriving DecidableEq, Repr

/--
Account addresses.

An address derived from seeds is named by its seeds, so two seed lists never share an address and a derived address is never a plain one.
-/
inductive Pubkey where
  /-- An address not derived by this program or by pump, as its 32-byte number. -/
  | key (number : Nat)
  /-- `["pool", creator, seed]`. -/
  | pool (creator : Pubkey) (seed : UInt64)
  /-- `["buyer", pool]`. -/
  | buyer (pool : Pubkey)
  /-- `["contribution", pool, contributor]`. -/
  | contribution (pool contributor : Pubkey)
  /-- A pump address: one prefix, and the key it is derived for. -/
  | pump (seed : PumpSeed) (of : Pubkey)
  deriving DecidableEq, Repr

namespace Pubkey

/-- `Pubkey::default()`, thirty-two zero bytes. -/
def default : Pubkey := key 0

/-- Whether only this program can sign for the address. -/
def isProgramDerived : Pubkey → Bool
  | pool _ _ | buyer _ | contribution _ _ => true
  | key _ | pump _ _ => false

/-- Whether the address is derived neither by this program nor by pump. -/
def isPlain : Pubkey → Bool
  | key _ => true
  | pool _ _ | buyer _ | contribution _ _ | pump _ _ => false

/-- Whether someone outside this program can sign for the address. -/
def canSign (address : Pubkey) : Bool :=
  !address.isProgramDerived && address != default

end Pubkey

/-- Pool lifecycle. -/
inductive PoolStatus where
  | Open
  | Launching
  | Bought
  | Finalized
  | Refundable
  | Closed
  deriving DecidableEq, Repr

/-- The account of one pool. -/
structure Pool where
  bump : UInt8
  buyerBump : UInt8
  status : PoolStatus
  creator : Pubkey
  seed : UInt64
  mint : Pubkey
  launchAt : Int64
  graceEndsAt : Int64
  minRaiseLamports : UInt64
  maxPoolLamports : UInt64
  minContributionLamports : UInt64
  totalContributed : UInt64
  contributorCount : UInt32
  tokensBought : UInt64
  distributable : UInt64
  burned : UInt64
  postVirtualTokenReserves : UInt64
  postVirtualQuoteReserves : UInt64
  totalClaimed : UInt64
  totalRefunded : UInt64
  deriving DecidableEq, Repr

/-- The bytes a pool account takes, discriminator included. -/
def Pool.LEN : Nat :=
  8 + 1 + 1 + 1 + 32 + 8 + 32 + 8 + 8 + 8 + 8 + 8 + 8 + 4 + 8 + 8 + 8 + 8 + 8 + 8 + 8

/-- The account of one contributor's stake in one pool. -/
structure Contribution where
  bump : UInt8
  pool : Pubkey
  contributor : Pubkey
  amount : UInt64
  claimed : Bool
  refunded : Bool
  deriving DecidableEq, Repr

/-- The bytes a contribution account takes, discriminator included. -/
def Contribution.LEN : Nat := 8 + 1 + 32 + 32 + 8 + 1 + 1

/-- A freshly allocated contribution account, every byte zero. -/
def Contribution.zeroed : Contribution where
  bump := 0
  pool := .default
  contributor := .default
  amount := 0
  claimed := false
  refunded := false

end Batchit
