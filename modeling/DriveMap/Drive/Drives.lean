import DriveMap.Event
/-!
# The drives of a machine

The drives of one kind are listed in a roster, and there is one roster for each kind.
-/
namespace DriveMap

/-! ## Rosters

A roster is a list of devices in their order, with one device for each path.  A device's place in a roster is what its
drive number is made from, so the places must not hang on the order in which firmware names its handles.
-/

structure Roster (α : Type) where
  devices : List (Device α)

namespace Roster

variable {α : Type}

def empty : Roster α := ⟨[]⟩

/-- Devices with one more in front of the first that does not come before it; nothing if that one has its path. -/
def insertInto (d : Device α) : List (Device α) → Option (List (Device α))
  | [] => some [d]
  | e :: rest =>
    match compare e d with
    | .lt => (insertInto d rest).map (e :: ·)
    | .eq => none
    | .gt => some (d :: e :: rest)

/-- The roster with one more device, or nothing if its path is listed already. -/
def insert? (r : Roster α) (d : Device α) : Option (Roster α) := (insertInto d r.devices).map fun ds => ⟨ds⟩

def size (r : Roster α) : Nat := r.devices.length

def isEmpty (r : Roster α) : Bool := r.devices.isEmpty

def get? (r : Roster α) (i : Nat) : Option (Device α) := r.devices[i]?

/-- Gives the device at a place another interface; every path stays where it is. -/
def setIo (r : Roster α) (i : Nat) (io : α) : Roster α := ⟨r.devices.modify i fun d => d.withIo io⟩

/-- The place of the device with path `p`. -/
def positionOf? (r : Roster α) (p : DevicePath) : Option Nat := r.devices.findIdx? fun d => d.path.same p

end Roster

/-! ## Placing devices

Devices are placed one after another: a device that is no drive, or whose path its roster has already, is left out and
says so in the log.
-/

structure Drives (α : Type) where
  floppies : Roster α
  hardDisks : Roster α
  opticals : Roster α

namespace Drives

variable {α : Type}

def empty : Drives α := ⟨.empty, .empty, .empty⟩

def roster (ds : Drives α) : DriveKind → Roster α
  | .floppy => ds.floppies
  | .hardDisk => ds.hardDisks
  | .optical => ds.opticals

def setRoster (ds : Drives α) (kind : DriveKind) (r : Roster α) : Drives α :=
  match kind with
  | .floppy => { ds with floppies := r }
  | .hardDisk => { ds with hardDisks := r }
  | .optical => { ds with opticals := r }

/-- The drives with a device in its roster, and what there is to say if it does not get there. -/
def place (ds : Drives α) (d : Device α) : Drives α × List Event :=
  match d.kind? with
  | none => (ds, [.notADrive d.handle])
  | some kind =>
    match (ds.roster kind).insert? d with
    | none => (ds, [.duplicate d.handle kind])
    | some r => (ds.setRoster kind r, [])

/-- Places devices in order. -/
def placeAll (ds : Drives α) : List (Device α) → Drives α × List Event
  | [] => (ds, [])
  | d :: rest =>
    let (ds₁, said) := ds.place d
    let (ds₂, more) := placeAll ds₁ rest
    (ds₂, said ++ more)

/-- What the log says of the drives in the end. -/
def summary (ds : Drives α) : Event := .numbered ds.floppies.size ds.hardDisks.size ds.opticals.size

end Drives
end DriveMap
