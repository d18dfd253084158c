import DriveMap.Drive.Drives
import DriveMap.Survey
/-!
# Contexts

A context is the drives found when it was made, with the configuration they are numbered under.  No request changes it,
so a drive number means the same device for as long as the context lives, whatever firmware says meanwhile.
-/
namespace DriveMap

structure Context (α : Type) where
  config : Config
  drives : Drives α

namespace Context

variable {α : Type}

/-- Surveys the firmware and places what it finds.  This never fails: without a survey there are no drives, and only a
failure other than a lack of handles is worth a warning. -/
def start (fw : Firmware α) (config : Config) : Context α × List Event :=
  match fw.survey with
  | .ok survey =>
    let (drives, said) := Drives.empty.placeAll survey.devices
    (⟨config, drives⟩, survey.log ++ said ++ [drives.summary])
  | .error f =>
    (⟨config, .empty⟩, (if f.status = .notFound then [] else [.surveyFailed f]) ++ [(.empty : Drives α).summary])

/-- The context of a firmware. -/
def init (fw : Firmware α) (config : Config) : Context α := (start fw config).1

/-- What making that context logs. -/
def initLog (fw : Firmware α) (config : Config) : List Event := (start fw config).2

/-- The device in a slot. -/
def deviceAt? (ctx : Context α) (s : Slot) : Option (Device α) := (ctx.drives.roster s.kind).get? s.index

/-- The device that a drive number names. -/
def device? (ctx : Context α) (drive : UInt32) : Option (Device α) :=
  (Slot.ofNumber? ctx.config drive).bind ctx.deviceAt?

/-- What a drive of a kind can do: all are addressed by block number, and an optical one is marked as such. -/
def flagsOf : DriveKind → UInt32
  | .optical => Geometry.lbaFlag ||| Geometry.opticalFlag
  | _ => Geometry.lbaFlag

/-- The geometry of a drive. -/
def geometry (ctx : Context α) (drive : UInt32) : Outcome Geometry :=
  match Slot.ofNumber? ctx.config drive with
  | none => .error .notFound
  | some slot =>
    match ctx.deviceAt? slot with
    | none => .error .notFound
    | some d => .ok (.ofMedium d.medium (flagsOf slot.kind))

def text (ctx : Context α) : String :=
  Text.openRecord "DiskContext"
    [("config", ctx.config.text), ("floppies", toString ctx.drives.floppies.size),
     ("hard_disks", toString ctx.drives.hardDisks.size), ("cdroms", toString ctx.drives.opticals.size)]

end Context
end DriveMap
