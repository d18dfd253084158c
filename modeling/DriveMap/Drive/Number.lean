import DriveMap.Device.Basic
/-!
# Drive numbers

Old boot code names a drive by a number.  Floppies count from 0 and hard disks from `hardDiskBase`; one number, set in
the configuration, names the first optical drive.  Two numbers never name a drive.

A number stands for a `Slot`, a kind of drive and a place in its roster.  Numbers are read by their hard disk bit and
not by range, and the configured number goes before the bit: a number chosen inside the range of another kind hides the
drive that would have it.
-/
namespace DriveMap

/-! ## Kinds of drives

What kind of drive a device is, guessed from its leaf.  A messaging leaf names a transport, so the device is a disk:
an optical one if the medium is read-only and has blocks larger than a sector.  An ACPI leaf names a floppy drive.  Any
other leaf is no drive; partitions are reached through their disk.
-/

inductive DriveKind where
  | floppy
  | hardDisk
  | optical
deriving DecidableEq

namespace DriveKind

def text : DriveKind → String
  | floppy => "Floppy"
  | hardDisk => "HardDisk"
  | optical => "Cdrom"

/-- The usual number of bytes in a sector. -/
def sectorSize : UInt32 := 512

/-- The kind of drive that has the given leaf and medium. -/
def ofLeaf? (leaf : Node) (m : Medium) : Option DriveKind :=
  if leaf.nodeType.category = .messaging then
    some (if m.readOnly ∧ sectorSize < m.blockSize then optical else hardDisk)
  else if leaf.nodeType.category = .acpi then some floppy
  else none

end DriveKind

/-- The kind of drive that a device is. -/
def Device.kind? {α : Type} (d : Device α) : Option DriveKind := DriveKind.ofLeaf? d.leaf d.medium

/-! ## Numbers -/

/-- Names no drive. -/
def invalidDrive : UInt32 := 0xffffffff

/-- Kept for booting from a network; names no disk. -/
def networkDrive : UInt32 := 0x20

/-- The number of the first hard disk, and the bit that every number of a hard disk has. -/
def hardDiskBase : UInt32 := 0x80

/-- What is settled before the drives are numbered. -/
structure Config where
  /-- The number of the first optical drive. -/
  opticalDrive : UInt32 := 0xe0
deriving DecidableEq

def Config.text (c : Config) : String := Text.record "Config" [("cdrom_drive", toString c.opticalDrive.toNat)]

/-- A kind of drive and a place in its roster. -/
structure Slot where
  kind : DriveKind
  index : Nat
deriving DecidableEq

namespace Slot

/-- The slot that a drive number stands for. -/
def ofNumber? (config : Config) (drive : UInt32) : Option Slot :=
  if drive = invalidDrive ∨ drive = networkDrive then none
  else if drive = config.opticalDrive then some ⟨.optical, 0⟩
  else if drive &&& hardDiskBase ≠ 0 then some ⟨.hardDisk, (drive - hardDiskBase).toNat⟩
  else some ⟨.floppy, drive.toNat⟩

/-- The drive number of a slot.  Floppies past the hard disk range have none, nor have optical drives but the first. -/
def number? (config : Config) (s : Slot) : Option UInt32 :=
  match s.kind with
  | .floppy => if s.index < hardDiskBase.toNat then some (UInt32.ofNat s.index) else none
  | .hardDisk =>
    if hardDiskBase.toNat + s.index < UInt32.size then some (UInt32.ofNat (hardDiskBase.toNat + s.index)) else none
  | .optical => if s.index = 0 then some config.opticalDrive else none

end Slot
end DriveMap
