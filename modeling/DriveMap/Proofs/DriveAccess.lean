import DriveMap.Proofs.DiskCalls
import DriveMap.Proofs.DriveNumbers
import DriveMap.Proofs.Lookups
import DriveMap.Proofs.Sessions
/-!
# One drive, one number

A drive number is read and looked up anew by each request.  All readings are one function of the number, and a number
names one slot; so all requests agree on whether there is a drive (`Context.serves`, `Context.refuses`), and two numbers
never get to one device (`Session.run_drives_apart`).  For the second the rosters have to be sorted and each to hold its
own kind, which no request to a context changes (`Session.wellPlaced_run`).
-/
namespace DriveMap

variable {α σ : Type}

/-- The port that writes down the calls made through it. -/
def Port.recorded (port : Port α σ) : Port α (σ × List (DiskCall α)) where
  read := port.outside.recorded.read
  write io mediaId offset data world :=
    let (outcome, io', world') := port.write io mediaId offset data world.1
    (outcome, io', world', world.2 ++ [.write io mediaId offset data])
  read_length := port.outside.recorded.read_length

namespace Context

/-! ## A drive that is there, and one that is not -/

/-- Every way to ask for the drive gets to the device. -/
structure Serves (ctx : Context α) (drive : UInt32) (d : Device α) : Prop where
  geometry : ∃ flags, ctx.geometry drive = .ok (.ofMedium d.medium flags)
  whole : ∀ (fw : Firmware α) (w : Walker), ctx.handleFor fw w drive wholeDisk = ⟨.ok d.handle, 0, []⟩
  read : ∀ {σ : Type} (disks : DiskIo α σ) (sector : UInt64) (count : UInt32) (buffer : Bytes) (world : σ)
    (range : ByteRange), d.medium.byteRange sector count buffer.length = .ok range →
    (ctx.read disks drive sector count buffer world).outcome =
      (disks.read d.io d.medium.mediaId range.offset range.length world).1.map fun _ => ()
  write : ∀ {σ : Type} (port : Port α σ) (sector : UInt64) (count : UInt32) (buffer : Bytes) (world : σ)
    (range : ByteRange), d.medium.byteRange sector count buffer.length = .ok range →
    (ctx.writeThrough port drive sector count buffer world).2.outcome =
      (port.write d.io d.medium.mediaId range.offset (buffer.take range.length) world).1

/-- Every way to ask for the drive answers that there is none.  No disk is called, no table walked, no firmware asked,
and nothing is changed or logged. -/
structure Refuses (ctx : Context α) (drive : UInt32) : Prop where
  device : ctx.device? drive = none
  geometry : ctx.geometry drive = .error .notFound
  handle : ∀ (fw : Firmware α) (w : Walker) (partition : UInt32),
    ctx.handleFor fw w drive partition = ⟨.error .notFound, 0, []⟩
  read : ∀ {σ : Type} (disks : DiskIo α σ) (sector : UInt64) (count : UInt32) (buffer : Bytes) (world : σ)
    (calls : List (DiskCall α)), ctx.read disks.recorded drive sector count buffer (world, calls) =
      ⟨.error .notFound, buffer, (world, calls), []⟩
  write : ∀ {σ : Type} (port : Port α σ) (sector : UInt64) (count : UInt32) (buffer : Bytes) (world : σ)
    (calls : List (DiskCall α)), ctx.writeThrough port.recorded drive sector count buffer (world, calls) =
      (ctx, ⟨.error .notFound, buffer, (world, calls), []⟩)

variable {ctx : Context α} {drive : UInt32} {d : Device α}

theorem serves (h : ctx.device? drive = some d) : ctx.Serves drive d := by
  obtain ⟨slot, hslot, hd⟩ := Option.bind_eq_some_iff.1 h
  constructor
  case geometry => exact ⟨flagsOf slot.kind, by simp only [geometry, hslot, hd]⟩
  case whole => exact fun fw w => handleFor_whole hslot hd (.inr rfl)
  case read =>
    intro σ disks sector count buffer world range hrange
    have hplan : ctx.plan drive sector count buffer.length = .ok (d, range) := by
      rw [plan, h]
      exact congrArg (Except.map _) hrange
    simp only [Context.read, hplan]
    cases hread : disks.read d.io d.medium.mediaId range.offset range.length world with
    | mk outcome world' => cases outcome <;> rfl
  case write =>
    intro σ port sector count buffer world range hrange
    simp only [writeThrough, hslot, hd, hrange]

theorem refuses (h : ctx.device? drive = none) : ctx.Refuses drive := by
  have hnone : ∀ slot, Slot.ofNumber? ctx.config drive = some slot → ctx.deviceAt? slot = none := fun slot hslot => by
    rw [← device?_of_slot hslot, h]
  constructor
  case device => exact h
  case geometry =>
    unfold geometry
    cases hslot : Slot.ofNumber? ctx.config drive with
    | none => rfl
    | some slot => simp only [hnone slot hslot]
  case handle => exact fun fw w partition => handleFor_of_no_device h
  case read =>
    intro σ disks sector count buffer world calls
    simp only [Context.read, plan, h]
  case write =>
    intro σ port sector count buffer world calls
    unfold writeThrough
    cases hslot : Slot.ofNumber? ctx.config drive with
    | none => rfl
    | some slot => simp only [hnone slot hslot]

theorem isSome_device?_iff_geometry (ctx : Context α) (drive : UInt32) :
    (ctx.device? drive).isSome = true ↔ ∃ g, ctx.geometry drive = .ok g := by
  cases h : ctx.device? drive with
  | none => simp [(refuses h).geometry]
  | some d =>
    obtain ⟨flags, hflags⟩ := (serves h).geometry
    simp [hflags]

theorem isSome_device?_iff_handle (ctx : Context α) (fw : Firmware α) (w : Walker) (drive : UInt32) :
    (ctx.device? drive).isSome = true ↔ ∃ h, (ctx.handleFor fw w drive wholeDisk).outcome = .ok h := by
  cases h : ctx.device? drive with
  | none => simp [(refuses h).handle]
  | some d => simp [(serves h).whole]

theorem refuses_reserved (ctx : Context α) : ctx.Refuses invalidDrive ∧ ctx.Refuses networkDrive :=
  ⟨refuses (by simp [device?, Slot.ofNumber?]), refuses (by simp [device?, Slot.ofNumber?])⟩

end Context

/-! ## Two numbers -/

/-- The device is, but for its interface, what firmware said of its handle. -/
def Device.IsReported {β : Type} (fw : Firmware α) (d : Device β) : Prop :=
  ∃ io, fw.examine d.handle = .ok (d.withIo io)

namespace Drives

theorem WellPlaced.mono {P Q : Device α → Prop} {ds : Drives α} (h : ds.WellPlaced P) (hPQ : ∀ d, P d → Q d) :
    ds.WellPlaced Q :=
  ⟨h.sorted, h.kind_eq, fun kind d hd => hPQ d (h.holds kind d hd)⟩

theorem wellPlaced_bare {fw : Firmware α} {ds : Drives α} :
    ds.bare.WellPlaced (Device.IsReported fw) ↔ ds.WellPlaced (Device.IsReported fw) := by
  have hmem : ∀ {Q : Device Unit → Prop} (kind : DriveKind),
      (∀ d ∈ (ds.bare.roster kind).devices, Q d) ↔ ∀ d ∈ (ds.roster kind).devices, Q (d.withIo ()) := by
    intro Q kind
    rw [roster_bare]
    exact List.forall_mem_map
  constructor
  · intro h
    refine ⟨fun kind => ?_, fun kind => (hmem kind).1 (h.kind_eq kind), fun kind => (hmem kind).1 (h.holds kind)⟩
    rw [← Roster.sorted_bare, ← roster_bare]
    exact h.sorted kind
  · intro h
    refine ⟨fun kind => ?_, fun kind => (hmem kind).2 (h.kind_eq kind), fun kind => (hmem kind).2 (h.holds kind)⟩
    rw [roster_bare, Roster.sorted_bare]
    exact h.sorted kind

end Drives

namespace Context

variable {ctx : Context α} {P : Device α → Prop} {s₁ s₂ : Slot} {a b : Device α}

theorem path_ne_of_slot_ne (h : ctx.drives.WellPlaced P) (ha : ctx.deviceAt? s₁ = some a)
    (hb : ctx.deviceAt? s₂ = some b) (hs : s₁ ≠ s₂) (hkind : s₁.kind = s₂.kind) : a.path ≠ b.path := by
  obtain ⟨kind, i⟩ := s₁
  obtain ⟨kind', j⟩ := s₂
  obtain rfl : kind = kind' := hkind
  intro hpath
  obtain rfl : i = j := (h.sorted kind).eq_of_path_eq ha hb hpath
  exact hs rfl

theorem handle_ne_of_slot_ne {fw : Firmware α} (h : ctx.drives.WellPlaced (Device.IsReported fw))
    (ha : ctx.deviceAt? s₁ = some a) (hb : ctx.deviceAt? s₂ = some b) (hs : s₁ ≠ s₂) : a.handle ≠ b.handle := by
  intro hhandle
  obtain ⟨io, hx⟩ := h.holds s₁.kind a (mem_roster ha)
  obtain ⟨io', hx'⟩ := h.holds s₂.kind b (mem_roster hb)
  -- one handle is one device, so the two have their kind and their path in common
  rw [hhandle, hx'] at hx
  have hsame : b.withIo io' = a.withIo io := Except.ok.inj hx
  have hkind : (b.withIo io').kind? = (a.withIo io).kind? := congrArg Device.kind? hsame
  have hpath : (b.withIo io').path = (a.withIo io).path := congrArg Device.path hsame
  change b.kind? = a.kind? at hkind
  rw [h.kind_eq s₂.kind b (mem_roster hb), h.kind_eq s₁.kind a (mem_roster ha), Option.some.injEq] at hkind
  exact path_ne_of_slot_ne h ha hb hs hkind.symm hpath.symm

end Context

namespace Session

/-- **Requests leave the rosters in order**, and the devices in them what firmware said when the context was made. -/
theorem wellPlaced_run (fw : Firmware α) (config : Config) (around : Surroundings α σ) (requests : List (Request α σ)) :
    ((Session.mk (Context.init fw config) around).run requests).1.context.drives.WellPlaced (Device.IsReported fw) := by
  have hmade : (Context.init fw config).drives.WellPlaced (Device.IsReported fw) :=
    (Context.init_wellPlaced fw config).mono fun d hd => ⟨d.io, hd⟩
  have hbare : ((Session.mk (Context.init fw config) around).run requests).1.context.drives.bare =
      (Context.init fw config).drives.bare := congrArg Context.drives (bare_run _ requests)
  rw [← Drives.wellPlaced_bare, hbare, Drives.wellPlaced_bare]
  exact hmade

/-- **Two numbers never get to one device, and all requests agree on which drives there are.**  Whatever was asked of a
context since it was made: two numbers that stand for slots stand for different ones, of which the devices have
different handles, and different paths where the kind is the same.  Of each number either every request gets to the same
device, or every request is told that there is none and touches nothing; the two reserved numbers are of the second
sort. -/
theorem run_drives_apart (fw : Firmware α) (config : Config) (around : Surroundings α σ)
    (requests : List (Request α σ)) :
    let ctx := ((Session.mk (Context.init fw config) around).run requests).1.context
    (∀ d₁ d₂ s₁ s₂, d₁ ≠ d₂ → Slot.ofNumber? ctx.config d₁ = some s₁ → Slot.ofNumber? ctx.config d₂ = some s₂ →
      s₁ ≠ s₂ ∧ ∀ a b, ctx.device? d₁ = some a → ctx.device? d₂ = some b →
        a.handle ≠ b.handle ∧ (s₁.kind = s₂.kind → a.path ≠ b.path)) ∧
    (∀ drive, ((ctx.device? drive).isSome ↔ ∃ g, ctx.geometry drive = .ok g) ∧
      (∀ (now : Firmware α) (w : Walker),
        (ctx.device? drive).isSome ↔ ∃ h, (ctx.handleFor now w drive wholeDisk).outcome = .ok h) ∧
      (∀ d, ctx.device? drive = some d → ctx.Serves drive d) ∧
      (ctx.device? drive = none → ctx.Refuses drive)) ∧
    ctx.config = config ∧ ctx.Refuses invalidDrive ∧ ctx.Refuses networkDrive := by
  intro ctx
  have hw : ctx.drives.WellPlaced (Device.IsReported fw) := wellPlaced_run fw config around requests
  have hconfig : ctx.config = config := by
    have hsame : ctx.config = (Context.init fw config).config :=
      congrArg (fun c : Context Unit => c.config) (bare_run _ requests)
    rw [hsame, Context.init_config]
  refine ⟨fun d₁ d₂ s₁ s₂ hne h₁ h₂ => ?_, fun drive => ?_, hconfig, ctx.refuses_reserved⟩
  · have hs : s₁ ≠ s₂ := by
      rintro rfl
      exact hne (Slot.ofNumber?_inj h₁ h₂)
    refine ⟨hs, fun a b ha hb => ?_⟩
    rw [Context.device?_of_slot h₁] at ha
    rw [Context.device?_of_slot h₂] at hb
    exact ⟨Context.handle_ne_of_slot_ne hw ha hb hs, Context.path_ne_of_slot_ne hw ha hb hs⟩
  · exact ⟨ctx.isSome_device?_iff_geometry drive, fun now w => ctx.isSome_device?_iff_handle now w drive,
      fun d => Context.serves, Context.refuses⟩

end Session
end DriveMap
