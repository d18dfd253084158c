import DriveMap.Context.Lookup
import DriveMap.Machine.Board
import DriveMap.Machine.Disk
import DriveMap.Machine.Table
/-!
# A machine, step by step

A machine has a board of handles, a bank of disks, partition tables, and the context that was made when it started.
Requests are answered from the context; changes of board, disks or tables leave the context as it is, until the machine
is started again.
-/
namespace DriveMap

structure Machine where
  board : Machine.Board
  bank : Machine.Bank
  tables : List Machine.Table
  context : Context Nat

namespace Machine

/-- What can be asked of a machine or done to it. -/
inductive Request where
  | state
  | device (drive : UInt32)
  | geometry (drive : UInt32)
  | read (drive : UInt32) (sector : UInt64) (count : UInt32) (buffer : Bytes)
  | write (drive : UInt32) (sector : UInt64) (count : UInt32) (buffer : Bytes)
  | dispatch (code : OperationCode) (drive : UInt32) (sector : UInt64) (count : UInt32) (buffer : Bytes)
  | handleFor (drive partition : UInt32)
  | pairFor (handle : Handle)
  /-- Start again with another configuration, some handles taken off the board and others put on. -/
  | restart (config : Config) (remove : List Handle) (add : List HandleEntry)
  | setTables (tables : List Table)
  | setDisk (index : Nat) (failure : Option Status) (mediaId : Option UInt32)
  | setLocate (status : Status)
  | setHandle (handle : Handle) (change : HandleChange)
  /-- The bytes of a disk, as far as it has them. -/
  | dump (index offset length : Nat)

inductive Answer where
  | state (context : Context Nat)
  | device (device : Option (Device Nat))
  | geometry (outcome : Outcome Geometry)
  /-- With the buffer afterwards, and the disks with their counts. -/
  | transfer (outcome : Outcome Unit) (buffer : Bytes) (bank : Bank)
  | handle (outcome : Outcome Handle) (calls : Nat)
  | pair (outcome : Outcome (UInt32 × UInt32)) (calls : Nat)
  | done
  | bytes (bytes : Bytes)

/-- A machine after a request, what it answers, and what it logged. -/
structure Reply where
  machine : Machine
  answer : Answer
  log : List Event

/-- Makes a context for a board. -/
def start (board : Board) (bank : Bank) (tables : List Table) (config : Config) : Reply :=
  let context := Context.init board.firmware config
  ⟨⟨board, bank, tables, context⟩, .state context, Context.initLog board.firmware config⟩

/-- The reply to a transfer. -/
def afterTransfer (m : Machine) (s : Served Bank) : Reply :=
  ⟨{ m with bank := s.world }, .transfer s.outcome s.buffer s.world, s.log⟩

/-- Changes what a disk answers, or which medium is in it. -/
def changeDisk (failure : Option Status) (mediaId : Option UInt32) (d : Disk) : Disk :=
  { d with failure := failure.getD d.failure, mediaId := mediaId.getD d.mediaId }

def step (m : Machine) : Request → Reply
  | .state => ⟨m, .state m.context, []⟩
  | .device drive => ⟨m, .device (m.context.device? drive), []⟩
  | .geometry drive => ⟨m, .geometry (m.context.geometry drive), []⟩
  | .read drive sector count buffer => m.afterTransfer (m.context.read Bank.io drive sector count buffer m.bank)
  | .write drive sector count buffer => m.afterTransfer (m.context.write Bank.io drive sector count buffer m.bank)
  | .dispatch code drive sector count buffer =>
    m.afterTransfer (m.context.dispatch Bank.io code drive sector count buffer m.bank)
  | .handleFor drive partition =>
    let r := m.context.handleFor m.board.firmware (Table.walker m.tables) drive partition
    ⟨m, .handle r.outcome r.calls, r.log⟩
  | .pairFor handle =>
    let r := m.context.pairForHandle m.board.firmware (Table.walker m.tables) handle
    ⟨m, .pair r.outcome r.calls, r.log⟩
  | .restart config remove add =>
    let reply := start (m.board.replug remove add) m.bank m.tables config
    { reply with log := .released :: reply.log }
  | .setTables tables => ⟨{ m with tables := tables }, .done, []⟩
  | .setDisk i failure mediaId => ⟨{ m with bank := m.bank.modify i (changeDisk failure mediaId) }, .done, []⟩
  | .setLocate status => ⟨{ m with board := { m.board with locate := status } }, .done, []⟩
  | .setHandle handle change =>
    ⟨{ m with board := { m.board with entries := Board.changeEntry handle change m.board.entries } }, .done, []⟩
  | .dump i offset length => ⟨m, .bytes (m.bank[i]?.elim [] fun d => d.slice offset length), []⟩

end Machine
end DriveMap
