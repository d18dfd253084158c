import DriveMap.DevicePath.Basic
/-!
# Scanning the bytes of a path

The nodes of a path as its bytes show them.  A scan stands at a byte; a step takes the node that starts there, as long
as its header says it is, and goes on behind it.  The end-entire node is handed out or not, and nothing is behind it.

A scan checks nothing that reading the path has checked already.  On other bytes it may reach past the end of them, and
a step then has no answer.
-/
namespace DriveMap
namespace DevicePath

/-- Where a scan stands. -/
structure Scan where
  bytes : Bytes
  offset : Nat
  /-- Whether the end-entire node is handed out as well. -/
  withEnd : Bool
deriving DecidableEq

namespace Scan

/-- What a step comes to. -/
inductive Step where
  | node (found : Bytes) (next : Scan)
  | finished (next : Scan)
  /-- The step reached for bytes that are not there. -/
  | outOfRange
deriving DecidableEq

def step (s : Scan) : Step :=
  if s.bytes.length < s.offset then .outOfRange
  else
    let rest := s.bytes.drop s.offset
    match Header.read? rest with
    | none => .finished s
    | some h =>
      -- a node that is too short to have a type cannot be asked for it
      if h.length.toNat < 2 ∨ rest.length < h.length.toNat then .outOfRange
      else
        let found := rest.take h.length.toNat
        let spent : Scan := { s with offset := s.bytes.length }
        if h.nodeType ≠ .endEntire then .node found { s with offset := s.offset + found.length }
        else if s.withEnd then .node found spent
        else .finished spent

/-- The nodes that a scan hands out up to its end, each with the byte where it starts. -/
inductive Yields : Scan → List (Nat × Bytes) → Prop where
  | finished {s next : Scan} (h : s.step = .finished next) : Yields s []
  | node {s next : Scan} {found : Bytes} {rest : List (Nat × Bytes)} (h : s.step = .node found next)
    (hrest : Yields next rest) : Yields s ((s.offset, found) :: rest)

end Scan

/-- The scan that starts at a path's first node. -/
def scan (p : DevicePath) (withEnd : Bool) : Scan := ⟨p.bytes, 0, withEnd⟩

end DevicePath
end DriveMap
