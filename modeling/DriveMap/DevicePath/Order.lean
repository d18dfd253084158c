import DriveMap.DevicePath.Raw
/-!
# The order of device paths

Paths are compared node by node, the end-entire node included.  Of two nodes that differ the one with the larger
category comes first, then the one with the smaller subtype, then the shorter one, then the one whose bytes come first.
The end-entire node has a larger category than any hardware, messaging or media node, so a disk comes before its
partitions.

Drive numbers are places in lists sorted by this order, and two devices are the same when their paths are equal in it.
-/
namespace DriveMap

/-- The larger category comes first. -/
instance : Ord Category := ⟨fun a b => compareOn Category.code b a⟩

/-- The order of nodes: category, subtype, length, bytes. -/
def Node.order : Node → Node → Ordering :=
  compareLex (compareOn fun n => n.nodeType.category) <|
  compareLex (compareOn fun n => n.nodeType.subtype) <|
  compareLex (compareOn length) (compareOn bytes)

instance : Ord Node := ⟨Node.order⟩

/-- In step, as long as both lists last: the first difference decides. -/
def Node.orderInStep : List Node → List Node → Ordering
  | a :: as, b :: bs => (compare a b).then (orderInStep as bs)
  | _, _ => .eq

namespace DevicePath

def order (a b : DevicePath) : Ordering := Node.orderInStep a.allNodes b.allNodes

instance : Ord DevicePath := ⟨order⟩

/-- Whether two paths are the same path. -/
def same (a b : DevicePath) : Bool := compare a b == .eq

/-- A path that is missing has no place in the order, not even beside another that is. -/
def order? : Option DevicePath → Option DevicePath → Option Ordering
  | some a, some b => some (compare a b)
  | _, _ => none

end DevicePath

/-! ## Comparing paths as bytes

Two scans go side by side, and the end-entire nodes are handed out as well.  The first pair of nodes that differ
decides.  Where there is none the paths are equal, as soon as one scan has nothing more to hand out or the end-entire
nodes have been compared.
-/

/-- The order of two nodes that are given by their bytes.  Their lengths are looked at only if their types agree. -/
def RawPath.orderPieces (a b : Bytes) : Attempt Ordering := do
  let ta ← .inRange (typeOf? a)
  let tb ← .inRange (typeOf? b)
  let byType := (compare ta.category tb.category).then (compare ta.subtype tb.subtype)
  if byType ≠ .eq then return byType
  else
    let la ← .inRange (lengthOf? a)
    let lb ← .inRange (lengthOf? b)
    return (compare la lb).then (compare a b)

/-- The order of what two scans hand out from where they stand. -/
def DevicePath.Scan.order (s t : Scan) : Attempt Ordering :=
  match taken : s.step with
  | .outOfRange => .error .outOfRange
  | .finished _ => .ok .eq
  | .node a s' =>
    have : s'.bytes.length - s'.offset < s.bytes.length - s.offset := left_lt_of_step taken
    match t.step with
    | .outOfRange => .error .outOfRange
    | .finished _ => .ok .eq
    | .node b t' =>
      match RawPath.orderPieces a b with
      | .error stop => .error stop
      | .ok .eq => if RawPath.typeOf? a = some .endEntire then .ok .eq else s'.order t'
      | .ok decided => .ok decided
termination_by s.bytes.length - s.offset

def RawPath.order (a b : RawPath) : Attempt Ordering := (a.scan true).order (b.scan true)

end DriveMap
