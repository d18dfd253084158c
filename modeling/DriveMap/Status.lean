import DriveMap.Spelling
/-!
# Status codes

Firmware answers every call with a 64-bit status.  The top bit marks an error; a non-zero code without it is a warning.
The set is open: a code that has no name is kept and written with its number.

An operation of this library either succeeds or fails with a `Failure`, a status other than success together with some
data.  Warnings are failures too: only code zero is success.
-/
namespace DriveMap

structure Status where
  code : UInt64
deriving DecidableEq

namespace Status

/-- The bit that marks an error. -/
def errorBit : UInt64 := 0x8000000000000000

def error (n : UInt64) : Status := ⟨errorBit ||| n⟩

def success : Status := ⟨0⟩
def invalidParameter : Status := error 2
def badBufferSize : Status := error 4
def outOfResources : Status := error 9
def mediaChanged : Status := error 13
def notFound : Status := error 14

def isError (s : Status) : Bool := s.code &&& errorBit != 0

def isSuccess (s : Status) : Bool := s.code == 0

def isWarning (s : Status) : Bool := !s.isSuccess && !s.isError

/-- The warnings, by code. -/
def warningNames : List (UInt64 × String) :=
  [(1, "WARN_UNKNOWN_GLYPH"), (2, "WARN_DELETE_FAILURE"), (3, "WARN_WRITE_FAILURE"), (4, "WARN_BUFFER_TOO_SMALL"),
   (5, "WARN_STALE_DATA"), (6, "WARN_FILE_SYSTEM"), (7, "WARN_RESET_REQUIRED")]

/-- The errors, by code without the error bit.  Codes past these belong to single protocols and have no name here. -/
def errorNames : List (UInt64 × String) :=
  [(1, "LOAD_ERROR"), (2, "INVALID_PARAMETER"), (3, "UNSUPPORTED"), (4, "BAD_BUFFER_SIZE"), (5, "BUFFER_TOO_SMALL"),
   (6, "NOT_READY"), (7, "DEVICE_ERROR"), (8, "WRITE_PROTECTED"), (9, "OUT_OF_RESOURCES"), (10, "VOLUME_CORRUPTED"),
   (11, "VOLUME_FULL"), (12, "NO_MEDIA"), (13, "MEDIA_CHANGED"), (14, "NOT_FOUND"), (15, "ACCESS_DENIED"),
   (16, "NO_RESPONSE"), (17, "NO_MAPPING"), (18, "TIMEOUT"), (19, "NOT_STARTED"), (20, "ALREADY_STARTED"),
   (21, "ABORTED"), (22, "ICMP_ERROR"), (23, "TFTP_ERROR"), (24, "PROTOCOL_ERROR"), (25, "INCOMPATIBLE_VERSION"),
   (26, "SECURITY_VIOLATION"), (27, "CRC_ERROR"), (28, "END_OF_MEDIA"), (31, "END_OF_FILE"), (32, "INVALID_LANGUAGE"),
   (33, "COMPROMISED_DATA"), (34, "IP_ADDRESS_CONFLICT"), (35, "HTTP_ERROR")]

/-- The name of a status, if it has one. -/
def name? (s : Status) : Option String :=
  if s.isSuccess then some "SUCCESS"
  else if s.isError then errorNames.lookup (s.code - errorBit)
  else warningNames.lookup s.code

/-- A status is written by its name, and by its number if it has none. -/
def text (s : Status) : String :=
  s.name?.getD (Text.tagged "Status" (toString s.code.toNat))

end Status

/-- A status other than success, with data about what failed. -/
structure Failure (δ : Type) where
  status : Status
  data : δ
  failed : status ≠ .success
deriving DecidableEq

/-- The answer of an operation that can fail. -/
abbrev Outcome (α : Type) := Except (Failure Unit) α

namespace Failure

/-- A failure that carries nothing but its status. -/
def ofStatus (s : Status) (failed : s ≠ .success) : Failure Unit := ⟨s, (), failed⟩

def invalidParameter : Failure Unit := ofStatus .invalidParameter (by decide)
def badBufferSize : Failure Unit := ofStatus .badBufferSize (by decide)
def outOfResources : Failure Unit := ofStatus .outOfResources (by decide)
def mediaChanged : Failure Unit := ofStatus .mediaChanged (by decide)
def notFound : Failure Unit := ofStatus .notFound (by decide)

/-- A failure with data; a successful status is none. -/
def withData? {δ : Type} (s : Status) (data : δ) : Option (Failure δ) :=
  if h : s = .success then none else some ⟨s, data, h⟩

/-- The line that tells of a failure, given its data in writing. -/
def line {δ : Type} (write : δ → String) (f : Failure δ) : String :=
  "disk error: status=" ++ f.status.text ++ ", data=" ++ write f.data

/-- A failure without data writes it as `()`. -/
def message (f : Failure Unit) : String := f.line fun _ => "()"

end Failure

/-- The value where the status is success, a failure with that status where it is not. -/
def Status.toOutcome {α : Type} (s : Status) (a : α) : Outcome α :=
  if h : s = .success then .ok a else .error (.ofStatus s h)

theorem Status.eq_of_toOutcome {α : Type} {s : Status} {a b : α} (h : s.toOutcome a = .ok b) : a = b := by
  unfold toOutcome at h
  split at h
  · exact Except.ok.inj h
  · cases h

/-- The status of an answer. -/
def Outcome.status {α : Type} : Outcome α → Status
  | .ok _ => .success
  | .error f => f.status

end DriveMap
