import DriveMap.DevicePath.Builder
/-!
# Nodes that name a part of a medium

A hard drive node is the leaf of every partition's path and carries the partition's place and size; a CD-ROM node names
a boot image on an optical disk.  Both have a fixed length, and a node of the right type with any other length is
neither.

A node is read field by field at fixed offsets into its bytes, and written field after field.
-/
namespace DriveMap
namespace Node

/-- The little-endian number in `w` bytes from byte `offset` of a node. -/
def field (n : Node) (offset w : Nat) : Nat := LittleEndian.decode ((n.bytes.drop offset).take w)

/-- One byte of a node; zero past its end. -/
def byteAt (n : Node) (offset : Nat) : UInt8 := UInt8.ofNat (n.field offset 1)

/-- A partition of a hard disk. -/
structure HardDrive where
  /-- Counted from 1. -/
  number : UInt32
  /-- The first block. -/
  start : UInt64
  /-- How many blocks. -/
  size : UInt64
  signature : { bytes : Bytes // bytes.length = 16 }
  /-- 1 for a master boot record, 2 for a GUID partition table. -/
  format : UInt8
  /-- 0 for no signature, 1 for that of a master boot record, 2 for a GUID. -/
  signatureType : UInt8
deriving DecidableEq

namespace HardDrive

/-- The only length of a hard drive node, header included. -/
def length : Nat := 42

def spec (h : HardDrive) : Spec :=
  ⟨.hardDrive, LittleEndian.encode 4 h.number.toNat ++ LittleEndian.encode 8 h.start.toNat ++
    LittleEndian.encode 8 h.size.toNat ++ h.signature.val ++ [h.format, h.signatureType]⟩

/-- A node as a hard drive node, if it is one. -/
def ofNode? (n : Node) : Option HardDrive :=
  if is : n.nodeType = .hardDrive ∧ n.size = length then
    some
      { number := UInt32.ofNat (n.field 4 4)
        start := UInt64.ofNat (n.field 8 8)
        size := UInt64.ofNat (n.field 16 8)
        signature := ⟨(n.bytes.drop 24).take 16, by
          have h42 : length = 42 := rfl
          rw [List.length_take, List.length_drop, n.length_bytes]
          omega⟩
        format := n.byteAt 40
        signatureType := n.byteAt 41 }
  else none

end HardDrive

/-- A boot image on an optical disk. -/
structure CdRom where
  /-- Its number in the boot catalogue. -/
  bootEntry : UInt32
  /-- The first block. -/
  start : UInt64
  /-- How many blocks. -/
  size : UInt64
deriving DecidableEq

namespace CdRom

/-- The only length of a CD-ROM node, header included. -/
def length : Nat := 24

def spec (c : CdRom) : Spec :=
  ⟨.cdRom, LittleEndian.encode 4 c.bootEntry.toNat ++ LittleEndian.encode 8 c.start.toNat ++
    LittleEndian.encode 8 c.size.toNat⟩

/-- A node as a CD-ROM node, if it is one. -/
def ofNode? (n : Node) : Option CdRom :=
  if n.nodeType = .cdRom ∧ n.size = length then
    some ⟨UInt32.ofNat (n.field 4 4), UInt64.ofNat (n.field 8 8), UInt64.ofNat (n.field 16 8)⟩
  else none

end CdRom
end Node
end DriveMap
