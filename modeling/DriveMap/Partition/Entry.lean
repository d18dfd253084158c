import DriveMap.Node.Media
/-!
# Partitions

Firmware describes a partition by the hard drive node in its path, old boot code by a number.  What ties the two
together is the partition's extent, which the node and the partition table both tell.
-/
namespace DriveMap

/-- The partition number that means the whole disk and no partition. -/
def wholeDisk : UInt32 := 0x00ffffff

/-- A run of blocks of a disk. -/
structure Extent where
  /-- The first block. -/
  start : UInt64
  /-- How many blocks. -/
  length : UInt64
deriving DecidableEq

namespace Extent

/-- The extent that a hard drive node tells; other nodes tell none. -/
def ofNode? (n : Node) : Option Extent := (Node.HardDrive.ofNode? n).map fun h => ⟨h.start, h.size⟩

def text (x : Extent) : String :=
  Text.record "PartitionDescriptor" [("start", toString x.start.toNat), ("length", toString x.length.toNat)]

end Extent

/-- One line of a partition table. -/
structure PartitionEntry where
  index : UInt32
  /-- Zero marks a line that is not in use. -/
  kind : UInt32
  extent : Extent
deriving DecidableEq

namespace PartitionEntry

def isUsed (e : PartitionEntry) : Bool := e.kind != 0

/-- Whether the entry is in use and numbered `index`. -/
def hasIndex (e : PartitionEntry) (index : UInt32) : Bool := e.isUsed && e.index == index

/-- Whether the entry is in use and describes the blocks of `x`. -/
def describes (e : PartitionEntry) (x : Extent) : Bool := e.isUsed && e.extent == x

end PartitionEntry
end DriveMap
