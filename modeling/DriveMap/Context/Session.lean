import DriveMap.Context.Lookup
import DriveMap.Context.Transfer
/-!
# Sessions

A context in use.  Requests come one after another, and between them anything around the context may change: what the
firmware answers, the partition tables, the disks.  A write goes through the interface of a listed device and may change
that interface, so the context itself is written to.
-/
namespace DriveMap

/-- How to move bytes through the interface of a device that a write may change. -/
structure Port (α σ : Type) where
  read : α → UInt32 → UInt64 → Nat → σ → Outcome Bytes × σ
  write : α → UInt32 → UInt64 → Bytes → σ → Outcome Unit × α × σ
  read_length : ∀ {io mediaId offset length world bs world'},
    read io mediaId offset length world = (.ok bs, world') → bs.length = length

namespace Port

variable {α σ : Type}

/-- What is seen of a port from outside the interface. -/
def outside (port : Port α σ) : DiskIo α σ where
  read := port.read
  write io mediaId offset bs world :=
    let (outcome, _, world') := port.write io mediaId offset bs world
    (outcome, world')
  read_length := port.read_length

/-- The port through which no interface changes. -/
def steady (disks : DiskIo α σ) : Port α σ where
  read := disks.read
  write io mediaId offset bs world :=
    let (outcome, world') := disks.write io mediaId offset bs world
    (outcome, io, world')
  read_length := disks.read_length

end Port

namespace Context

variable {α σ : Type}

/-- The context with another interface for the device in a slot. -/
def setIo (ctx : Context α) (s : Slot) (io : α) : Context α :=
  { ctx with drives := ctx.drives.setRoster s.kind ((ctx.drives.roster s.kind).setIo s.index io) }

/-- Writes sectors, and keeps what becomes of the interface. -/
def writeThrough (ctx : Context α) (port : Port α σ) (drive : UInt32) (sector : UInt64) (count : UInt32)
    (buffer : Bytes) (world : σ) : Context α × Served σ :=
  match Slot.ofNumber? ctx.config drive with
  | none => (ctx, ⟨.error .notFound, buffer, world, []⟩)
  | some slot =>
    match ctx.deviceAt? slot with
    | none => (ctx, ⟨.error .notFound, buffer, world, []⟩)
    | some d =>
      match d.medium.byteRange sector count buffer.length with
      | .error f => (ctx, ⟨.error f, buffer, world, []⟩)
      | .ok range =>
        let (outcome, io, world') := port.write d.io d.medium.mediaId range.offset (buffer.take range.length) world
        (ctx.setIo slot io, ⟨outcome, buffer, world', [.writing count sector]⟩)

def dispatchThrough (ctx : Context α) (port : Port α σ) (code : OperationCode) (drive : UInt32) (sector : UInt64)
    (count : UInt32) (buffer : Bytes) (world : σ) : Context α × Served σ :=
  if code = .read then (ctx, ctx.read port.outside drive sector count buffer world)
  else if code = .write then ctx.writeThrough port drive sector count buffer world
  else (ctx, ⟨.error .invalidParameter, buffer, world, []⟩)

end Context

/-- What is around a context. -/
structure Surroundings (α σ : Type) where
  firmware : Firmware α
  walker : Walker
  port : Port α σ
  world : σ

structure Session (α σ : Type) where
  context : Context α
  around : Surroundings α σ

namespace Session

variable {α σ : Type}

inductive Request (α σ : Type) where
  | device (drive : UInt32)
  | geometry (drive : UInt32)
  | read (drive : UInt32) (sector : UInt64) (count : UInt32) (buffer : Bytes)
  | write (drive : UInt32) (sector : UInt64) (count : UInt32) (buffer : Bytes)
  | dispatch (code : OperationCode) (drive : UInt32) (sector : UInt64) (count : UInt32) (buffer : Bytes)
  | handleFor (drive partition : UInt32)
  | pairFor (handle : Handle)
  /-- Anything around the context changes, in any way. -/
  | change (around : Surroundings α σ)

inductive Answer (α : Type) where
  | device (device : Option (Device α))
  | geometry (outcome : Outcome Geometry)
  | transfer (outcome : Outcome Unit) (buffer : Bytes)
  | handle (outcome : Outcome Handle)
  | pair (outcome : Outcome (UInt32 × UInt32))
  | changed

/-- A session after a request, what was answered, and what was logged. -/
structure Reply (α σ : Type) where
  session : Session α σ
  answer : Answer α
  log : List Event

/-- The reply to a transfer that may have changed the context. -/
def afterTransfer (s : Session α σ) (done : Context α × Served σ) : Reply α σ :=
  ⟨⟨done.1, { s.around with world := done.2.world }⟩, .transfer done.2.outcome done.2.buffer, done.2.log⟩

def step (s : Session α σ) : Request α σ → Reply α σ
  | .device drive => ⟨s, .device (s.context.device? drive), []⟩
  | .geometry drive => ⟨s, .geometry (s.context.geometry drive), []⟩
  | .read drive sector count buffer =>
    s.afterTransfer (s.context, s.context.read s.around.port.outside drive sector count buffer s.around.world)
  | .write drive sector count buffer =>
    s.afterTransfer (s.context.writeThrough s.around.port drive sector count buffer s.around.world)
  | .dispatch code drive sector count buffer =>
    s.afterTransfer (s.context.dispatchThrough s.around.port code drive sector count buffer s.around.world)
  | .handleFor drive partition =>
    let r := s.context.handleFor s.around.firmware s.around.walker drive partition
    ⟨s, .handle r.outcome, r.log⟩
  | .pairFor handle =>
    let r := s.context.pairForHandle s.around.firmware s.around.walker handle
    ⟨s, .pair r.outcome, r.log⟩
  | .change around => ⟨{ s with around := around }, .changed, []⟩

/-- A session after requests, and what they were answered. -/
def run (s : Session α σ) : List (Request α σ) → Session α σ × List (Answer α)
  | [] => (s, [])
  | r :: rest =>
    let reply := s.step r
    let (s', answers) := run reply.session rest
    (s', reply.answer :: answers)

end Session
end DriveMap
