import DriveMap.Spelling
/-!
# Handles and identifiers

Firmware names its entities by opaque handles, addresses that are never null, and its protocols by 128-bit identifiers.
-/
namespace DriveMap

/-- What firmware calls an entity of its own: a disk, a partition, an image. -/
structure Handle where
  address : UInt64
  nonzero : address ≠ 0
deriving DecidableEq

namespace Handle

/-- The null address is no handle. -/
def ofAddress? (address : UInt64) : Option Handle :=
  if h : address = 0 then none else some ⟨address, h⟩

def text (h : Handle) : String := Text.tagged "Handle" ("0x" ++ Hex.ofNat h.address.toNat)

/-- How an address that may be null is written. -/
def addressText (address : UInt64) : String := (ofAddress? address).elim "None" text

end Handle

/-- A 128-bit identifier. -/
structure Guid where
  bits : BitVec 128
deriving DecidableEq

namespace Guid

/-- The canonical text: lower-case digits in groups of 8, 4, 4, 4 and 12. -/
def text (g : Guid) : String :=
  let digits := Hex.padded 32 g.bits.toNat
  let group (start size : Nat) := String.ofList ((digits.drop start).take size)
  "-".intercalate [group 0 8, group 8 4, group 12 4, group 16 4, group 20 12]

/-- The protocol that every disk handle supports. -/
def diskIo : Guid := ⟨0xce345171ba0b11d28e4f00a0c969723b⟩

end Guid
end DriveMap
