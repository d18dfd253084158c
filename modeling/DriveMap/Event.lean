import DriveMap.DevicePath.Error
import DriveMap.Drive.Number
import DriveMap.Handle
import DriveMap.Partition.Entry
/-!
# What is logged

Every event that is worth a line of the log, with the level and the words of that line.
-/
namespace DriveMap

/-- Why a handle is left out of a survey. -/
inductive Skip where
  | noPath
  | malformedPath (fault : PathError)
  | emptyPath
  | noBlockIo
  | noDiskIo
deriving DecidableEq

def Skip.text : Skip → String
  | noPath => "no device path"
  | malformedPath fault => fault.message
  | emptyPath => "empty device path"
  | noBlockIo => "cannot open block I/O"
  | noDiskIo => "cannot open disk I/O"

inductive Level where
  | warn
  | info
  | debug
  | trace
deriving DecidableEq

def Level.text : Level → String
  | warn => "WARN"
  | info => "INFO"
  | debug => "DEBUG"
  | trace => "TRACE"

inductive Event where
  /-- A handle was left out of a survey. -/
  | skipped (handle : Handle) (why : Skip)
  /-- A handle was found to be a device. -/
  | kept (handle : Handle) (leaf : NodeType) (medium : Medium)
  /-- A device was not listed, being no drive. -/
  | notADrive (handle : Handle)
  /-- A device was not listed, its path being in the roster already. -/
  | duplicate (handle : Handle) (kind : DriveKind)
  /-- The handles could not be had. -/
  | surveyFailed (failure : Failure Unit)
  /-- The drives are numbered. -/
  | numbered (floppies hardDisks opticals : Nat)
  /-- The drives are given up. -/
  | released
  /-- A write is about to be made. -/
  | writing (count : UInt32) (sector : UInt64)
  /-- An extent was found to be a partition of a drive. -/
  | partitionFound (extent : Extent) (partition drive : UInt32)
deriving DecidableEq

namespace Event

def level : Event → Level
  | skipped .. | surveyFailed .. => .warn
  | numbered .. => .info
  | kept .. | released | writing .. | partitionFound .. => .debug
  | notADrive .. | duplicate .. => .trace

def text : Event → String
  | skipped h why => h.text ++ ": " ++ why.text
  | kept h leaf m =>
    h.text ++ ": leaf " ++ leaf.text ++ ", block size " ++ toString m.blockSize.toNat ++ ", last block " ++
      toString m.lastBlock.toNat ++ ", read-only: " ++ (if m.readOnly then "true" else "false")
  | notADrive h => h.text ++ ": not a drive"
  | duplicate h kind => h.text ++ ": duplicate " ++ kind.text
  | surveyFailed f => "failed to enumerate disk devices: " ++ f.message
  | numbered floppies hardDisks opticals =>
    "found " ++ toString floppies ++ " floppy, " ++ toString hardDisks ++ " hard disk and " ++ toString opticals ++
      " CD-ROM drives"
  | released => "releasing disk devices"
  | writing count sector => "writing " ++ toString count.toNat ++ " sectors at sector " ++ toString sector.toNat
  | partitionFound x partition drive =>
    x.text ++ " is partition " ++ toString partition.toNat ++ " of drive 0x" ++ Hex.ofNat drive.toNat

/-- The line of the log. -/
def line (e : Event) : String := e.level.text ++ " " ++ e.text

end Event
end DriveMap
