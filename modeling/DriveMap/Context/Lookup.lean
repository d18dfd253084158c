import DriveMap.Context.Basic
import DriveMap.Context.Resolution
/-!
# Handles and pairs

Old boot code names a partition by a pair of a drive and a partition number, firmware by a handle.  A whole drive is
looked up in the rosters.  A partition is no drive and is in no roster: it is found by surveying the firmware again for
a child of a listed hard disk, whose leaf tells the extent by which the walker knows the partition too.
-/
namespace DriveMap
namespace Context

variable {α : Type}

/-- Asks for the handle of a partition of a drive.  A hard disk answers for the whole disk with its own handle; a floppy
and the optical drive do whatever the partition is. -/
def handleInquiry (ctx : Context α) (fw : Firmware α) (drive partition : UInt32) : Inquiry Handle := do
  let slot ← .require (Slot.ofNumber? ctx.config drive)
  let disk ← .require (ctx.deviceAt? slot)
  if slot.kind ≠ .hardDisk ∨ partition = wholeDisk then
    return disk.handle
  let entry ← .entry drive fun e => e.hasIndex partition
  let devices ← .devicesOf fw.survey
  let child ← .require (disk.findChild? devices fun d => Extent.ofNode? d.leaf == some entry.extent)
  return child.handle

def handleFor (ctx : Context α) (fw : Firmware α) (w : Walker) (drive partition : UInt32) : Resolution Handle :=
  (ctx.handleInquiry fw drive partition).answer w

/-- The slot of the drive with a path: the first optical drive if it is that, else a hard disk, else a floppy. -/
def slotOf? (ctx : Context α) (path : DevicePath) : Option Slot :=
  if (ctx.drives.opticals.get? 0).any fun d => d.path.same path then some ⟨.optical, 0⟩
  else ((ctx.drives.hardDisks.positionOf? path).map (Slot.mk .hardDisk)).or
    ((ctx.drives.floppies.positionOf? path).map (Slot.mk .floppy))

/-- The place of the first hard disk that has the given path as a partition among some devices, and the extent of that
partition. -/
def partitionAmong? (ctx : Context α) (devices : List (Device α)) (path : DevicePath) : Option (Nat × Extent) :=
  ctx.drives.hardDisks.devices.zipIdx.findSome? fun (disk, i) => do
    let child ← disk.findChild? devices fun d => d.path.same path && (Node.HardDrive.ofNode? d.leaf).isSome
    let extent ← Extent.ofNode? child.leaf
    return (i, extent)

/-- Asks for the pair that names the device with a path.  The path is cut at its first CD-ROM node, so a boot image
stands for the optical drive it is on. -/
def pathInquiry (ctx : Context α) (fw : Firmware α) (path : DevicePath) : Inquiry (UInt32 × UInt32) := do
  let target := path.truncateAt .cdRom
  match ctx.slotOf? target with
  | some slot =>
    let drive ← .require (slot.number? ctx.config)
    return (drive, wholeDisk)
  | none =>
    let devices ← .devicesOf fw.survey
    let (index, extent) ← .require (ctx.partitionAmong? devices target)
    let drive ← .require (Slot.number? ctx.config ⟨.hardDisk, index⟩)
    let entry ← .entry drive fun e => e.describes extent
    .say (.partitionFound extent entry.index drive)
    return (drive, entry.index)

def pairForPath (ctx : Context α) (fw : Firmware α) (w : Walker) (path : DevicePath) : Resolution (UInt32 × UInt32) :=
  (ctx.pathInquiry fw path).answer w

/-- Asks for the pair that names a handle. -/
def pairInquiry (ctx : Context α) (fw : Firmware α) (h : Handle) : Inquiry (UInt32 × UInt32) := do
  let bytes ← .require (fw.pathBytes? h)
  let path ← .ends ((DevicePath.ofBytes bytes).mapError PathError.failure)
  ctx.pathInquiry fw path

def pairForHandle (ctx : Context α) (fw : Firmware α) (w : Walker) (h : Handle) : Resolution (UInt32 × UInt32) :=
  (ctx.pairInquiry fw h).answer w

end Context
end DriveMap
