import DriveMap.Survey
/-!
# The board of a machine

The handles of a machine as firmware keeps them: each with a path, a medium and a disk, where it has them, and with
switches that hide the handle or one of the three.  A handle may be entered more than once; only its first entry is
asked.
-/
namespace DriveMap
namespace Machine

structure HandleEntry where
  handle : Handle
  path : Option Bytes
  medium : Option Medium
  /-- The place of its disk in the bank. -/
  disk : Option Nat
  /-- Whether the handle is reported at all. -/
  visible : Bool := true
  hasPath : Bool := true
  blockIo : Bool := true
  diskIo : Bool := true

/-- What to change about an entry; what is missing stays. -/
structure HandleChange where
  visible : Option Bool := none
  hasPath : Option Bool := none
  blockIo : Option Bool := none
  diskIo : Option Bool := none
  medium : Option Medium := none

def HandleEntry.change (e : HandleEntry) (c : HandleChange) : HandleEntry :=
  { e with
    visible := c.visible.getD e.visible
    hasPath := c.hasPath.getD e.hasPath
    blockIo := c.blockIo.getD e.blockIo
    diskIo := c.diskIo.getD e.diskIo
    medium := c.medium.or e.medium }

structure Board where
  entries : List HandleEntry
  /-- What asking for the handles answers; success lets it go on. -/
  locate : Status

namespace Board

def entry? (b : Board) (h : Handle) : Option HandleEntry := b.entries.find? fun e => e.handle == h

/-- Changes the first entry of a handle. -/
def changeEntry (h : Handle) (c : HandleChange) : List HandleEntry → List HandleEntry
  | [] => []
  | e :: rest => if e.handle = h then e.change c :: rest else e :: changeEntry h c rest

/-- The board without the entries of some handles, and with others after the rest. -/
def replug (b : Board) (remove : List Handle) (add : List HandleEntry) : Board :=
  { b with entries := (b.entries.filter fun e => !remove.contains e.handle) ++ add }

/-- The handles that are reported.  To have none is a failure. -/
def handles (b : Board) : Outcome (List Handle) := do
  b.locate.toOutcome ()
  match (b.entries.filter (·.visible)).map (·.handle) with
  | [] => .error .notFound
  | hs => .ok hs

/-- What the board answers as a firmware. -/
def firmware (b : Board) : Firmware Nat where
  locate _ := b.handles
  pathBytes? h := (b.entry? h).bind fun e => if e.hasPath then e.path else none
  medium? h := (b.entry? h).bind fun e => if e.blockIo then e.medium else none
  io? h := (b.entry? h).bind fun e => if e.diskIo then e.disk else none

end Board
end Machine
end DriveMap
