import DriveMap.DevicePath.Order
import DriveMap.Handle
import DriveMap.Medium
/-!
# Devices

A device is a handle that can transfer bytes, with all that is known of it: a copy of its path, where the leaf of the
path starts, its medium, and the interface `io` to transfer through.

A path with no node names no device, so every device has a leaf.
-/
namespace DriveMap

theorem DevicePath.nodes_ne_nil {p : DevicePath} {o : Nat} (h : p.leafOffset? = some o) : p.nodes ≠ [] := by
  intro hn
  rw [leafOffset?, offsets, hn] at h
  cases h

structure Device (α : Type) where
  handle : Handle
  path : DevicePath
  leafOffset : Nat
  leaf_at : path.leafOffset? = some leafOffset
  medium : Medium
  io : α

namespace Device

variable {α β : Type}

/-- A device, unless its path is empty. -/
def new? (handle : Handle) (path : DevicePath) (medium : Medium) (io : α) : Option (Device α) :=
  match h : path.leafOffset? with
  | none => none
  | some o => some ⟨handle, path, o, h, medium, io⟩

def leaf (d : Device α) : Node := d.path.nodes.getLast (DevicePath.nodes_ne_nil d.leaf_at)

/-- The leaf as a path of its own. -/
def leafPath (d : Device α) : DevicePath :=
  d.path.ofSubset [d.leaf] fun _ h => List.mem_singleton.1 h ▸ List.getLast_mem _

/-- The same device behind another interface. -/
def withIo (d : Device α) (io : β) : Device β := ⟨d.handle, d.path, d.leafOffset, d.leaf_at, d.medium, io⟩

/-- Devices are ordered by their leaves, and by their whole paths where the leaves agree. -/
def order : Device α → Device α → Ordering := compareLex (compareOn leafPath) (compareOn path)

instance : Ord (Device α) := ⟨order⟩

/-! ## Children

A partition's path is its disk's path and one node more.  Whether a device is a child of another is read off the bytes:
what comes before the candidate's leaf is what comes before the parent's end-entire node.
-/

/-- Whether the candidate's path is the parent's path and exactly one node more. -/
def isChildOf (candidate : Device β) (parent : Device α) : Bool :=
  candidate.path.bytes.take candidate.leafOffset == parent.path.bytes.take (parent.path.size - Header.size)

/-- The children of a device among others. -/
def children (parent : Device α) (devices : List (Device β)) : List (Device β) :=
  devices.filter fun d => d.isChildOf parent

/-- The first child that a test holds for. -/
def findChild? (parent : Device α) (devices : List (Device β)) (test : Device β → Bool) : Option (Device β) :=
  (parent.children devices).find? test

/-- The first child that a test with effects holds for; the test runs on children only, and on none past the first. -/
def findChildM? {m : Type → Type} [Monad m] (parent : Device α) (devices : List (Device β))
    (test : Device β → m Bool) : m (Option (Device β)) :=
  (parent.children devices).findM? test

end Device

/-! ## Devices and the bytes of their paths

A device keeps the bytes of its path and the place where the leaf starts, found once.  The leaf, the leaf as a path of
its own and the test for a child are slices of the bytes at that place, and devices are compared by such slices.
-/

structure RawDevice where
  path : RawPath
  leafOffset : Nat
deriving DecidableEq

namespace RawDevice

def ofPath (r : RawPath) : Attempt RawDevice := do return ⟨r, ← r.leafOffset⟩

/-- The leaf is all there is between its place and the end. -/
def leaf (d : RawDevice) : Attempt Bytes := do slice d.path.bytes d.leafOffset (← d.path.endOffset)

def leafPath (d : RawDevice) : Attempt RawPath := do
  return ⟨← slice d.path.bytes d.leafOffset d.path.bytes.length⟩

def isChildOf (candidate parent : RawDevice) : Attempt Bool := do
  let before ← slice candidate.path.bytes 0 candidate.leafOffset
  let all ← slice parent.path.bytes 0 (← parent.path.endOffset)
  return before == all

/-- The order of the leaves, and that of the whole paths where the leaves agree. -/
def order (a b : RawDevice) : Attempt Ordering := do
  let byLeaf ← (← a.leafPath).order (← b.leafPath)
  if byLeaf ≠ .eq then return byLeaf else a.path.order b.path

end RawDevice

/-- A device as the bytes of its path and the place of its leaf. -/
def Device.raw {α : Type} (d : Device α) : RawDevice := ⟨d.path.raw, d.leafOffset⟩

end DriveMap
