import DriveMap.Event
/-!
# Surveying a firmware

A `Firmware` is what firmware answers at one moment: its handles, and for each of them its path, its medium and its
transfer interface, where it has them.

A survey asks about every handle that supports disk transfers, the last one first.  A handle is a device if it has a
readable path that is not empty and both interfaces can be opened; the first of these that fails is why it is left out.
Every handle is a finding of the survey, and every finding is one line of the log.
-/
namespace DriveMap

structure Firmware (α : Type) where
  /-- The handles that support a protocol. -/
  locate : Guid → Outcome (List Handle)
  /-- The bytes of a handle's path; more may follow the path itself. -/
  pathBytes? : Handle → Option Bytes
  medium? : Handle → Option Medium
  io? : Handle → Option α

/-- What a survey says about one handle. -/
structure Finding (α : Type) where
  handle : Handle
  result : Except Skip (Device α)

/-- The findings, in the order in which the handles were looked at. -/
structure Survey (α : Type) where
  findings : List (Finding α)

namespace Firmware

variable {α : Type}

/-- The device that a handle is, or why it is none. -/
def examine (fw : Firmware α) (h : Handle) : Except Skip (Device α) :=
  match fw.pathBytes? h with
  | none => .error .noPath
  | some bs =>
    match DevicePath.ofBytes bs with
    | .error fault => .error (.malformedPath fault)
    | .ok path =>
      match leaf : path.leafOffset? with
      | none => .error .emptyPath
      | some offset =>
        match fw.medium? h with
        | none => .error .noBlockIo
        | some medium =>
          match fw.io? h with
          | none => .error .noDiskIo
          | some io => .ok ⟨h, path, offset, leaf, medium, io⟩

/-- Looks at every disk handle, the last reported one first. -/
def survey (fw : Firmware α) : Outcome (Survey α) :=
  (fw.locate .diskIo).map fun handles => ⟨handles.reverse.map fun h => ⟨h, fw.examine h⟩⟩

end Firmware

/-- The line that a finding leaves in the log. -/
def Finding.event {α : Type} (f : Finding α) : Event :=
  match f.result with
  | .error why => .skipped f.handle why
  | .ok d => .kept f.handle d.leaf.nodeType d.medium

namespace Survey

variable {α : Type}

/-- The devices that were found. -/
def devices (s : Survey α) : List (Device α) := s.findings.filterMap fun f => f.result.toOption

def log (s : Survey α) : List Event := s.findings.map Finding.event

end Survey
end DriveMap
