import DriveMap.Spelling
/-!
# Device path nodes

A node is one step of a device path: a four-byte header that gives its type and its total length, then a payload.  The
length is a 16-bit word, so a payload has a largest size, and a `Node` is a node that fits.

One type is set apart: the end-entire node closes a path and never stands inside one.
-/
namespace DriveMap

/-- The broad kind of thing a node names.  The set is open. -/
structure Category where
  code : UInt8
deriving DecidableEq

namespace Category

def hardware : Category := ⟨1⟩
def acpi : Category := ⟨2⟩
def messaging : Category := ⟨3⟩
def media : Category := ⟨4⟩
def biosBoot : Category := ⟨5⟩
def ending : Category := ⟨0x7f⟩

def names : List (Category × String) :=
  [(hardware, "HARDWARE"), (acpi, "ACPI"), (messaging, "MESSAGING"), (media, "MEDIA"), (biosBoot, "BIOS_BOOT_SPEC"),
   (ending, "END")]

/-- A category is written by its name, and by its code in hexadecimal if it has none. -/
def text (c : Category) : String :=
  (names.lookup c).getD (Text.tagged "DeviceType" ("0x" ++ Hex.ofNat c.code.toNat))

end Category

/-- The type of a node: its category, and a number that has a meaning only within it. -/
structure NodeType where
  category : Category
  subtype : UInt8
deriving DecidableEq

namespace NodeType

def pci : NodeType := ⟨.hardware, 1⟩
def acpi : NodeType := ⟨.acpi, 1⟩
def atapi : NodeType := ⟨.messaging, 1⟩
def sata : NodeType := ⟨.messaging, 18⟩
def hardDrive : NodeType := ⟨.media, 1⟩
def cdRom : NodeType := ⟨.media, 2⟩
def endEntire : NodeType := ⟨.ending, 0xff⟩

/-- A subtype has no name of its own and is written as a decimal number. -/
def subtypeText (subtype : UInt8) : String := Text.tagged "DeviceSubType" (toString subtype.toNat)

def text (t : NodeType) : String := "(" ++ Text.separated [t.category.text, subtypeText t.subtype] ++ ")"

end NodeType

/-- The four bytes in front of every payload. -/
structure Header where
  nodeType : NodeType
  length : UInt16
deriving DecidableEq

namespace Header

/-- How many bytes a header takes. -/
def size : Nat := 4

def bytes (h : Header) : Bytes :=
  h.nodeType.category.code :: h.nodeType.subtype :: LittleEndian.encode 2 h.length.toNat

/-- The header at the start of `bs`, if there is room for one. -/
def read? : Bytes → Option Header
  | category :: subtype :: lo :: hi :: _ =>
    some ⟨⟨⟨category⟩, subtype⟩, UInt16.ofNat (LittleEndian.decode [lo, hi])⟩
  | _ => none

def text (h : Header) : String :=
  Text.record "DevicePathHeader"
    [("device_type", h.nodeType.category.text), ("sub_type", NodeType.subtypeText h.nodeType.subtype),
     ("length", toString h.length.toNat)]

end Header

/-- One step of a device path. -/
structure Node where
  nodeType : NodeType
  payload : Bytes
  fits : Header.size + payload.length < UInt16.size
deriving DecidableEq

namespace Node

/-- The node that closes a path. -/
def endEntire : Node := ⟨.endEntire, [], by decide⟩

def isEndEntire (n : Node) : Bool := n.nodeType == .endEntire

/-- The node's total size in bytes. -/
def size (n : Node) : Nat := Header.size + n.payload.length

/-- The size as its header states it. -/
def length (n : Node) : UInt16 := UInt16.ofNat n.size

def header (n : Node) : Header := ⟨n.nodeType, n.length⟩

def bytes (n : Node) : Bytes := n.header.bytes ++ n.payload

/-- The size of several nodes, one after another. -/
def totalSize : List Node → Nat
  | [] => 0
  | n :: rest => n.size + totalSize rest

def text (n : Node) : String :=
  Text.record "DevicePathNode"
    [("header", n.header.text), ("data", Text.list (n.payload.map fun b => toString b.toNat))]

theorem length_toNat (n : Node) : n.length.toNat = n.size := by
  have h := n.fits
  rw [length, UInt16.toNat_ofNat']
  exact Nat.mod_eq_of_lt h

theorem size_pos (n : Node) : 0 < n.size := Nat.lt_of_lt_of_le (by decide) (Nat.le_add_right Header.size _)

/-- **A node takes exactly the bytes its header states.** -/
theorem length_bytes (n : Node) : n.bytes.length = n.size := by
  simp only [bytes, header, Header.bytes, size, Header.size, List.cons_append, List.length_cons, List.length_append,
    LittleEndian.length_encode]
  omega

end Node
end DriveMap
