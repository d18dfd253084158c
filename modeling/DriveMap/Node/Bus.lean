import DriveMap.DevicePath.Builder
/-!
# Nodes that name a bus or a controller

What to push for the steps that lead to a disk: an ACPI device, a PCI function, an ATAPI or a SATA unit.  Fields are
written in the order given, little-endian.
-/
namespace DriveMap
namespace Node

/-- A device of the ACPI name space. -/
structure Acpi where
  /-- The hardware identifier, a compressed seven-character name. -/
  hid : UInt32
  /-- Tells devices with one hardware identifier apart. -/
  uid : UInt32

def Acpi.spec (a : Acpi) : Spec :=
  ⟨.acpi, LittleEndian.encode 4 a.hid.toNat ++ LittleEndian.encode 4 a.uid.toNat⟩

/-- A function of a PCI device. -/
structure Pci where
  function : UInt8
  device : UInt8

def Pci.spec (p : Pci) : Spec := ⟨.pci, [p.function, p.device]⟩

/-- A unit on a parallel ATA channel. -/
structure Atapi where
  /-- 0 for the primary channel, 1 for the secondary. -/
  channel : UInt8
  /-- 0 for the master, 1 for the slave. -/
  position : UInt8
  unit : UInt16

def Atapi.spec (a : Atapi) : Spec := ⟨.atapi, [a.channel, a.position] ++ LittleEndian.encode 2 a.unit.toNat⟩

/-- A unit on a serial ATA link. -/
structure Sata where
  link : UInt16
  /-- 0xffff where no multiplier stands between. -/
  multiplier : UInt16
  unit : UInt16

def Sata.spec (s : Sata) : Spec :=
  ⟨.sata, LittleEndian.encode 2 s.link.toNat ++ LittleEndian.encode 2 s.multiplier.toNat ++
    LittleEndian.encode 2 s.unit.toNat⟩

end Node
end DriveMap
