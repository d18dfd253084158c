import DriveMap.DevicePath.Builder
import DriveMap.DevicePath.Read
import DriveMap.DevicePath.Scan
/-!
# Paths as bytes

A path that has been read once is kept as its bytes and not read again.  Its nodes are found by a scan, a tail of it is
a slice of the bytes, and a copy is made of what a scan hands out, pushed onto a builder that is a string of bytes too.

Nothing here checks what it works on: on bytes that are no path a scan, a slice or a payload may be out of range.
Memory for a copy is always had.
-/
namespace DriveMap

/-- Why an operation on bytes answers nothing. -/
inductive Stop where
  /-- It reached for bytes that are not there. -/
  | outOfRange
  /-- What it looked for is not there. -/
  | absent
  | refused (fault : PathError)
deriving DecidableEq

/-- What an operation on bytes answers. -/
abbrev Attempt (α : Type) := Except Stop α

namespace Attempt

variable {α : Type}

def ofOption : Option α → Attempt α
  | none => .error .absent
  | some a => .ok a

/-- What is not there was reached for. -/
def inRange : Option α → Attempt α
  | none => .error .outOfRange
  | some a => .ok a

def ofPathError (x : Except PathError α) : Attempt α := x.mapError .refused

end Attempt

/-- The bytes from `start` up to `stop`. -/
def slice (bs : Bytes) (start stop : Nat) : Attempt Bytes :=
  if start ≤ stop ∧ stop ≤ bs.length then .ok ((bs.take stop).drop start) else .error .outOfRange

namespace DevicePath.Scan

/-- A step that hands out a node leaves fewer bytes to go. -/
theorem left_lt_of_step {s next : Scan} {found : Bytes} (h : s.step = .node found next) :
    next.bytes.length - next.offset < s.bytes.length - s.offset := by
  unfold step at h
  split at h
  · cases h
  simp only at h
  split at h
  · cases h
  rename_i hd _
  split at h
  · cases h
  rename_i hroom
  rw [not_or, Nat.not_lt, Nat.not_lt, List.length_drop] at hroom
  split at h
  · cases h
    simp only [List.length_take, List.length_drop]
    omega
  split at h
  · cases h
    simp only
    omega
  · cases h

/-- All that a scan hands out up to its end. -/
def collect (s : Scan) : Attempt (List (Nat × Bytes)) :=
  match taken : s.step with
  | .outOfRange => .error .outOfRange
  | .finished _ => .ok []
  | .node found next =>
    have : next.bytes.length - next.offset < s.bytes.length - s.offset := left_lt_of_step taken
    next.collect.map ((s.offset, found) :: ·)
termination_by s.bytes.length - s.offset

end DevicePath.Scan

/-- Bytes that are taken for a path. -/
structure RawPath where
  bytes : Bytes
deriving DecidableEq

/-- A path as its bytes. -/
def DevicePath.raw (p : DevicePath) : RawPath := ⟨p.bytes⟩

/-- The bytes of the nodes pushed so far. -/
structure RawBuilder where
  data : Bytes

namespace RawBuilder

def empty : RawBuilder := ⟨[]⟩

/-- Adds a node of any type. -/
def append (b : RawBuilder) (s : Node.Spec) : Attempt RawBuilder :=
  if Header.size + s.payload.length < UInt16.size then
    let header : Header := ⟨s.nodeType, UInt16.ofNat (Header.size + s.payload.length)⟩
    .ok ⟨b.data ++ (header.bytes ++ s.payload)⟩
  else .error (.refused .nodeTooLarge)

def push (b : RawBuilder) (s : Node.Spec) : Attempt RawBuilder :=
  if s.nodeType = .endEntire then .error (.refused .unexpectedEnd) else b.append s

def pushAll (b : RawBuilder) (specs : List Node.Spec) : Attempt RawBuilder := specs.foldlM push b

/-- Pushes a copy of a node that is given by its bytes. -/
def pushCopy (b : RawBuilder) (piece : Bytes) : Attempt RawBuilder :=
  match Header.read? piece with
  | none => .error .outOfRange
  | some h => b.push ⟨h.nodeType, piece.drop Header.size⟩

def pushCopies (b : RawBuilder) (pieces : List Bytes) : Attempt RawBuilder := pieces.foldlM pushCopy b

def finalize (b : RawBuilder) : Attempt RawPath := (b.append ⟨.endEntire, []⟩).map fun b => ⟨b.data⟩

end RawBuilder

namespace RawPath

/-- The path at the start of some bytes: the one place where bytes are read as a path. -/
def ofBytes (bs : Bytes) : Attempt RawPath := do
  let p ← Attempt.ofPathError (DevicePath.ofBytes bs)
  return ⟨← slice bs 0 p.size⟩

def scan (r : RawPath) (withEnd : Bool) : DevicePath.Scan := ⟨r.bytes, 0, withEnd⟩

/-- Whether the path is nothing but its end, as its length tells. -/
def isEmpty (r : RawPath) : Bool := r.bytes.length == Header.size

/-- The bytes of each node but the one that ends the path. -/
def pieces (r : RawPath) : Attempt (List Bytes) := (r.scan false).collect.map fun found => found.map Prod.snd

def leaf (r : RawPath) : Attempt Bytes := do Attempt.ofOption (← r.pieces).getLast?

def leafOffset (r : RawPath) : Attempt Nat := do
  let found ← (r.scan false).collect
  Attempt.ofOption (found.map Prod.fst).getLast?

def suffix (r : RawPath) (offset : Nat) : Attempt RawPath := do
  let found ← (r.scan true).collect
  let start ← Attempt.ofOption ((found.map Prod.fst).find? (· == offset))
  return ⟨← slice r.bytes start r.bytes.length⟩

/-- The path of some nodes that are given by their bytes. -/
def ofPieces (pieces : List Bytes) : Attempt RawPath := do (← RawBuilder.empty.pushCopies pieces).finalize

def truncateLeaf (r : RawPath) : Attempt RawPath := do
  let pieces ← r.pieces
  if pieces.length = 0 then .error .absent else ofPieces (pieces.take (pieces.length - 1))

/-- The type that the bytes of a node begin with. -/
def typeOf? : Bytes → Option NodeType
  | category :: subtype :: _ => some ⟨⟨category⟩, subtype⟩
  | _ => none

/-- The length that the bytes of a node state. -/
def lengthOf? (piece : Bytes) : Option UInt16 := (Header.read? piece).map Header.length

def truncateAt (r : RawPath) (t : NodeType) : Attempt RawPath := do
  ofPieces ((← r.pieces).takeWhile fun piece => typeOf? piece != some t)

/-- The path with more nodes pushed behind its own. -/
def extend (r : RawPath) (specs : List Node.Spec) : Attempt RawPath := do
  let b ← RawBuilder.empty.pushCopies (← r.pieces)
  (← b.pushAll specs).finalize

/-- The path with a copy of a node pushed behind its own, the node given by its bytes. -/
def extendCopy (r : RawPath) (piece : Bytes) : Attempt RawPath := do
  let b ← RawBuilder.empty.pushCopies (← r.pieces)
  (← b.pushCopy piece).finalize

/-- Where the node that ends the path starts, if the path has room for one. -/
def endOffset (r : RawPath) : Attempt Nat :=
  if Header.size ≤ r.bytes.length then .ok (r.bytes.length - Header.size) else .error .outOfRange

end RawPath
end DriveMap
