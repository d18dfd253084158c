import DriveMap.Context.Basic
/-!
# Moving sectors

A request to read or write names a drive, its first sector and how many sectors, in blocks of the drive itself.  It is
planned before anything moves: the drive has to exist, the first byte has to have a 64-bit offset, and the buffer has to
be long enough.  Only a request that passes reaches a disk, and it reaches it once.

Disks are reached through a `DiskIo`, whose transfers change a world `σ`.
-/
namespace DriveMap

/-- How to move bytes through the interface of a device: which medium is meant, from which byte of it, and how many
bytes or which.  A read that succeeds gives as many bytes as were asked for. -/
structure DiskIo (α σ : Type) where
  read : α → UInt32 → UInt64 → Nat → σ → Outcome Bytes × σ
  write : α → UInt32 → UInt64 → Bytes → σ → Outcome Unit × σ
  read_length : ∀ {io mediaId offset length world bs world'},
    read io mediaId offset length world = (.ok bs, world') → bs.length = length

/-- A run of bytes of a disk. -/
structure ByteRange where
  offset : UInt64
  length : Nat
deriving DecidableEq

/-- The bytes of `count` blocks from block `sector`, which have to fit into `room` bytes.  The length of a run always
fits 64 bits; its offset may not. -/
def Medium.byteRange (m : Medium) (sector : UInt64) (count : UInt32) (room : Nat) : Outcome ByteRange :=
  let offset := sector.toNat * m.blockSize.toNat
  let length := count.toNat * m.blockSize.toNat
  if UInt64.size ≤ offset then .error .invalidParameter
  else if room < length then .error .badBufferSize
  else .ok ⟨UInt64.ofNat offset, length⟩

/-- The number by which old boot code asks for an operation.  The set is open. -/
structure OperationCode where
  code : UInt32
deriving DecidableEq

namespace OperationCode

def read : OperationCode := ⟨0⟩
def write : OperationCode := ⟨1⟩

def text (c : OperationCode) : String :=
  if c = read then "READ"
  else if c = write then "WRITE"
  else Text.tagged "BiosDiskOp" ("0x" ++ Hex.ofNat c.code.toNat)

end OperationCode

/-- What became of a request: its outcome, the buffer and the world afterwards, and what was logged. -/
structure Served (σ : Type) where
  outcome : Outcome Unit
  buffer : Bytes
  world : σ
  log : List Event

namespace Context

variable {α σ : Type}

/-- The device and the bytes that a request is about. -/
def plan (ctx : Context α) (drive : UInt32) (sector : UInt64) (count : UInt32) (room : Nat) :
    Outcome (Device α × ByteRange) :=
  match ctx.device? drive with
  | none => .error .notFound
  | some d => (d.medium.byteRange sector count room).map fun range => (d, range)

/-- Reads sectors into the start of the buffer; what is behind them stays. -/
def read (ctx : Context α) (disks : DiskIo α σ) (drive : UInt32) (sector : UInt64) (count : UInt32) (buffer : Bytes)
    (world : σ) : Served σ :=
  match ctx.plan drive sector count buffer.length with
  | .error f => ⟨.error f, buffer, world, []⟩
  | .ok (d, range) =>
    match disks.read d.io d.medium.mediaId range.offset range.length world with
    | (.error f, world') => ⟨.error f, buffer, world', []⟩
    | (.ok bs, world') => ⟨.ok (), bs ++ buffer.drop range.length, world', []⟩

/-- Writes sectors from the start of the buffer. -/
def write (ctx : Context α) (disks : DiskIo α σ) (drive : UInt32) (sector : UInt64) (count : UInt32) (buffer : Bytes)
    (world : σ) : Served σ :=
  match ctx.plan drive sector count buffer.length with
  | .error f => ⟨.error f, buffer, world, []⟩
  | .ok (d, range) =>
    let (outcome, world') := disks.write d.io d.medium.mediaId range.offset (buffer.take range.length) world
    ⟨outcome, buffer, world', [.writing count sector]⟩

/-- Serves a request given by its code.  A code that is neither is refused before the drive is looked at. -/
def dispatch (ctx : Context α) (disks : DiskIo α σ) (code : OperationCode) (drive : UInt32) (sector : UInt64)
    (count : UInt32) (buffer : Bytes) (world : σ) : Served σ :=
  if code = .read then ctx.read disks drive sector count buffer world
  else if code = .write then ctx.write disks drive sector count buffer world
  else ⟨.error .invalidParameter, buffer, world, []⟩

end Context
end DriveMap
