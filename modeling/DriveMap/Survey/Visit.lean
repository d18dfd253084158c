import DriveMap.Survey
/-!
# Visiting handles one after another

A survey as a loop: each handle in turn is asked for what a device needs, and is left with a word in the log at the
first thing that is missing.  What has all of it is made a device.  Making one could still fail, and nothing would be
said.  Memory for the devices and their paths is always had.
-/
namespace DriveMap
namespace Firmware

variable {α : Type}

/-- What one visit says and finds. -/
def visit (fw : Firmware α) (h : Handle) : List Event × Option (Device α) :=
  match fw.pathBytes? h with
  | none => ([.skipped h .noPath], none)
  | some bs =>
    match DevicePath.ofBytes bs with
    | .error fault => ([.skipped h (.malformedPath fault)], none)
    | .ok path =>
      if path.size = Header.size then ([.skipped h .emptyPath], none)
      else
        match fw.medium? h with
        | none => ([.skipped h .noBlockIo], none)
        | some medium =>
          match fw.io? h with
          | none => ([.skipped h .noDiskIo], none)
          | some io =>
            match Device.new? h path medium io with
            | none => ([], none)
            | some d => ([.kept h d.leaf.nodeType medium], some d)

/-- What the visits to some handles say and find, in order. -/
def visitAll (fw : Firmware α) : List Handle → List Event × List (Device α)
  | [] => ([], [])
  | h :: rest =>
    let (said, found) := fw.visit h
    let (more, others) := visitAll fw rest
    (said ++ more, found.toList ++ others)

/-! ## Visits on bytes

The same visits as they treat the bytes of paths.  What firmware answers is read once; whether it is empty is told by
its length, the place of the leaf is found by a walk and stored, and what is said of a device is read off the slice at
that place.  A visit has no answer if one of these reaches for bytes that are not there.
-/

def visitRaw (fw : Firmware α) (h : Handle) : Attempt (List Event × Option RawDevice) :=
  match fw.pathBytes? h with
  | none => return ([.skipped h .noPath], none)
  | some bs =>
    match RawPath.ofBytes bs with
    | .error (.refused fault) => return ([.skipped h (.malformedPath fault)], none)
    | .error stop => .error stop
    | .ok r =>
      if r.isEmpty then return ([.skipped h .emptyPath], none)
      else
        match fw.medium? h with
        | none => return ([.skipped h .noBlockIo], none)
        | some medium =>
          match fw.io? h with
          | none => return ([.skipped h .noDiskIo], none)
          | some _ =>
            match RawDevice.ofPath r with
            | .error .absent => return ([], none)
            | .error stop => .error stop
            | .ok d => return ([.kept h (← .inRange (RawPath.typeOf? (← d.leaf))) medium], some d)

/-- Visits handles in order, as long as there is an answer. -/
def visitAllRaw (fw : Firmware α) : List Handle → Attempt (List Event × List RawDevice)
  | [] => return ([], [])
  | h :: rest => do
    let (said, found) ← fw.visitRaw h
    let (more, others) ← visitAllRaw fw rest
    return (said ++ more, found.toList ++ others)

/-- Visits every disk handle, the last reported one first. -/
def surveyRaw (fw : Firmware α) : Outcome (Attempt (List Event × List RawDevice)) :=
  (fw.locate .diskIo).map fun handles => fw.visitAllRaw handles.reverse

end Firmware
end DriveMap
