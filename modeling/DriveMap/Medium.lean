/-!
# Media

What firmware says about the medium in a device, as it was when the device was found, and the geometry that is made up
for it.
-/
namespace DriveMap

structure Medium where
  /-- Names the medium that is in; a request made for another one is refused. -/
  mediaId : UInt32
  readOnly : Bool
  /-- Bytes in a block. -/
  blockSize : UInt32
  /-- The highest block number, not how many there are. -/
  lastBlock : UInt64
deriving DecidableEq

/-- How many blocks there are.  With the largest last block the count wraps to zero. -/
def Medium.totalBlocks (m : Medium) : UInt64 := m.lastBlock + 1

/-! ## Geometry

Old boot code asks for cylinders, heads and sectors.  Only the sector count and the sector size are real; the rest is
made up from the count, with a fixed number of sectors in a track, so that the three never multiply to more sectors than
there are.
-/

structure Geometry where
  totalSectors : UInt64
  /-- Bytes in a sector. -/
  sectorSize : UInt32
  cylinders : UInt64
  /-- Heads in a cylinder. -/
  heads : UInt32
  /-- Sectors in a track. -/
  sectors : UInt32
  /-- What the drive can do, one bit each. -/
  flags : UInt32
deriving DecidableEq

namespace Geometry

def sectorsPerTrack : UInt32 := 63

/-- The head count of any disk but a small one. -/
def maxHeads : UInt32 := 255

/-- Marks a drive that is addressed by block number. -/
def lbaFlag : UInt32 := 1

/-- Marks an optical drive. -/
def opticalFlag : UInt32 := 2

/-- The geometry of a drive with the given medium: one head as long as there are fewer tracks than heads to share. -/
def ofMedium (m : Medium) (flags : UInt32) : Geometry :=
  let tracks := m.totalBlocks / sectorsPerTrack.toUInt64
  let heads := if tracks < maxHeads.toUInt64 then 1 else maxHeads
  { totalSectors := m.totalBlocks
    sectorSize := m.blockSize
    cylinders := tracks / heads.toUInt64
    heads := heads
    sectors := sectorsPerTrack
    flags := flags }

end Geometry

end DriveMap
