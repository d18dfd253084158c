import DriveMap.Context.Session
import DriveMap.Proofs.DiskBytes
import DriveMap.Proofs.Placement
import DriveMap.Proofs.RosterRuns
/-!
# Drive numbers last

A request may change the interface of one listed device and nothing else of a context: with the interfaces left out it
is the same context after any number of requests (`Session.bare_run`).  All that a drive number is resolved with is in
what stays.  A machine, as long as it is not started again, is a session in which no interface changes
(`Machine.step_session`).
-/
namespace DriveMap

/-- What of a device no write changes. -/
def Device.fixed {α : Type} (d : Device α) : Handle × DevicePath × Nat × Medium :=
  (d.handle, d.path, d.leafOffset, d.medium)

theorem Roster.setIo_self {α : Type} {r : Roster α} {i : Nat} {d : Device α} (h : r.get? i = some d) :
    r.setIo i d.io = r := by
  obtain ⟨devices⟩ := r
  refine congrArg Roster.mk (List.ext_getElem? fun j => ?_)
  rw [List.getElem?_modify]
  by_cases hj : i = j
  · have hd : devices[j]? = some d := hj ▸ h
    simp only [hd, hj]
    rfl
  · simp [hj]

/-! ## Without the interfaces -/

namespace Drives

variable {α : Type}

def bare (ds : Drives α) : Drives Unit := ⟨ds.floppies.bare, ds.hardDisks.bare, ds.opticals.bare⟩

theorem roster_bare (ds : Drives α) (kind : DriveKind) : ds.bare.roster kind = (ds.roster kind).bare := by
  cases kind <;> rfl

theorem bare_setRoster {ds : Drives α} {kind : DriveKind} {r : Roster α} (h : r.bare = (ds.roster kind).bare) :
    (ds.setRoster kind r).bare = ds.bare := by
  cases kind with
  | floppy => exact congrArg (fun r => Drives.mk r ds.hardDisks.bare ds.opticals.bare) h
  | hardDisk => exact congrArg (fun r => Drives.mk ds.floppies.bare r ds.opticals.bare) h
  | optical => exact congrArg (fun r => Drives.mk ds.floppies.bare ds.hardDisks.bare r) h

end Drives

namespace Context

variable {α σ : Type} {ctx ctx' : Context α}

/-- The context with the interfaces left out. -/
def bare (ctx : Context α) : Context Unit := ⟨ctx.config, ctx.drives.bare⟩

theorem deviceAt?_bare (ctx : Context α) (s : Slot) :
    ctx.bare.deviceAt? s = (ctx.deviceAt? s).map fun d => d.withIo () := by
  rw [deviceAt?, bare, Drives.roster_bare]
  exact List.getElem?_map

theorem device?_bare (ctx : Context α) (drive : UInt32) :
    ctx.bare.device? drive = (ctx.device? drive).map fun d => d.withIo () := by
  rw [device?, device?, Option.map_bind]
  exact congrArg _ (funext fun slot => ctx.deviceAt?_bare slot)

theorem size_bare (ctx : Context α) (kind : DriveKind) :
    (ctx.bare.drives.roster kind).size = (ctx.drives.roster kind).size := by
  rw [bare, Drives.roster_bare]
  exact List.length_map _

theorem fixed_deviceAt?_bare (ctx : Context α) (s : Slot) :
    (ctx.bare.deviceAt? s).map Device.fixed = (ctx.deviceAt? s).map Device.fixed := by
  rw [deviceAt?_bare, Option.map_map]
  rfl

theorem fixed_device?_bare (ctx : Context α) (drive : UInt32) :
    (ctx.bare.device? drive).map Device.fixed = (ctx.device? drive).map Device.fixed := by
  rw [device?_bare, Option.map_map]
  rfl

theorem geometry_bare (ctx : Context α) (drive : UInt32) : ctx.bare.geometry drive = ctx.geometry drive := by
  unfold geometry
  simp only [deviceAt?_bare]
  simp only [bare]
  cases Slot.ofNumber? ctx.config drive with
  | none => rfl
  | some slot =>
    simp only
    cases ctx.deviceAt? slot <;> rfl

theorem bare_setIo (ctx : Context α) (s : Slot) (io : α) : (ctx.setIo s io).bare = ctx.bare :=
  congrArg (Context.mk ctx.config) (Drives.bare_setRoster (Roster.bare_setIo _ _ _))

/-! ## Writing to a context -/

section Writing

variable {port : Port α σ} {disks : DiskIo α σ} {code : OperationCode} {drive : UInt32} {sector : UInt64} {count : UInt32}
  {buffer : Bytes} {world : σ}

/-- A write that keeps what becomes of the interface is served as one that does not. -/
theorem writeThrough_snd : (ctx.writeThrough port drive sector count buffer world).2 =
    ctx.write port.outside drive sector count buffer world := by
  unfold writeThrough write plan device?
  cases Slot.ofNumber? ctx.config drive with
  | none => rfl
  | some slot =>
    simp only [Option.bind_some]
    cases ctx.deviceAt? slot with
    | none => rfl
    | some d =>
      simp only
      cases d.medium.byteRange sector count buffer.length <;> rfl

theorem dispatchThrough_snd : (ctx.dispatchThrough port code drive sector count buffer world).2 =
    ctx.dispatch port.outside code drive sector count buffer world := by
  unfold dispatchThrough dispatch
  split
  · rfl
  split
  · exact writeThrough_snd
  · rfl

theorem setIo_self {s : Slot} {d : Device α} (h : ctx.deviceAt? s = some d) : ctx.setIo s d.io = ctx := by
  rw [setIo, Roster.setIo_self h]
  cases s.kind <;> rfl

/-- Where no interface changes, a write leaves the context as it is. -/
theorem writeThrough_steady : ctx.writeThrough (.steady disks) drive sector count buffer world =
    (ctx, ctx.write disks drive sector count buffer world) := by
  refine Prod.ext ?_ writeThrough_snd
  unfold writeThrough
  split
  · rfl
  split
  · rfl
  rename_i d hd
  split
  · rfl
  · exact setIo_self hd

theorem outside_steady : (Port.steady disks).outside = disks := rfl

theorem dispatchThrough_steady : ctx.dispatchThrough (.steady disks) code drive sector count buffer world =
    (ctx, ctx.dispatch disks code drive sector count buffer world) := by
  unfold dispatchThrough dispatch
  rw [outside_steady, writeThrough_steady]
  split
  · rfl
  split <;> rfl

/-- **A write changes an interface at most**, whatever it comes to. -/
theorem bare_writeThrough : (ctx.writeThrough port drive sector count buffer world).1.bare = ctx.bare := by
  unfold writeThrough
  split
  · rfl
  split
  · rfl
  split
  · rfl
  · exact ctx.bare_setIo _ _

theorem bare_dispatchThrough : (ctx.dispatchThrough port code drive sector count buffer world).1.bare = ctx.bare := by
  unfold dispatchThrough
  split
  · rfl
  split
  · exact bare_writeThrough
  · rfl

end Writing

end Context

/-! ## Sessions -/

namespace Session

variable {α σ : Type}

/-- An answer is the one that a context gives, as far as no write changes it; only devices and geometries are meant. -/
def Request.Keeps (made : Context α) : Request α σ → Answer α → Prop
  | .device drive, answer => ∃ d?, answer = .device d? ∧ d?.map Device.fixed = (made.device? drive).map Device.fixed
  | .geometry drive, answer => answer = .geometry (made.geometry drive)
  | _, _ => True

/-- **A request leaves all but the interfaces.** -/
theorem bare_step (s : Session α σ) (r : Request α σ) : (s.step r).session.context.bare = s.context.bare := by
  cases r with
  | write drive sector count buffer => exact Context.bare_writeThrough
  | dispatch code drive sector count buffer => exact Context.bare_dispatchThrough
  | _ => rfl

theorem keeps_step {s : Session α σ} {made : Context α} (h : s.context.bare = made.bare) (r : Request α σ) :
    r.Keeps made (s.step r).answer := by
  cases r with
  | device drive =>
    refine ⟨_, rfl, ?_⟩
    rw [← s.context.fixed_device?_bare, h, made.fixed_device?_bare]
  | geometry drive =>
    refine congrArg Answer.geometry ?_
    rw [← s.context.geometry_bare, h, made.geometry_bare]
  | _ => trivial

theorem bare_run : ∀ (s : Session α σ) (requests : List (Request α σ)),
    (s.run requests).1.context.bare = s.context.bare
  | _, [] => rfl
  | s, r :: rest => (bare_run (s.step r).session rest).trans (s.bare_step r)

theorem keeps_run {made : Context α} : ∀ (s : Session α σ) (requests : List (Request α σ)),
    s.context.bare = made.bare → List.Forall₂ (Request.Keeps made) requests (s.run requests).2
  | _, [], _ => .nil
  | s, r :: rest, h => .cons (keeps_step h r) (keeps_run _ rest ((s.bare_step r).trans h))

/-- **Drive numbers last as long as the context.**  Whatever is asked of a context that was made once, and whatever the
firmware, the tables and the disks turn into meanwhile, the configuration stays, the rosters keep their lengths, every
place keeps its device but for the interface, and so every drive number its device and its geometry: the answers to all
requests for these are those that the context had at first. -/
theorem run_keeps_drives (fw : Firmware α) (config : Config) (around : Surroundings α σ)
    (requests : List (Request α σ)) :
    let made := Context.init fw config
    let ctx := ((Session.mk made around).run requests).1.context
    ctx.config = made.config ∧
    (∀ kind, (ctx.drives.roster kind).size = (made.drives.roster kind).size) ∧
    (∀ slot, (ctx.deviceAt? slot).map Device.fixed = (made.deviceAt? slot).map Device.fixed) ∧
    (∀ drive, (ctx.device? drive).map Device.fixed = (made.device? drive).map Device.fixed) ∧
    (∀ drive, ctx.geometry drive = made.geometry drive) ∧
    List.Forall₂ (Request.Keeps made) requests ((Session.mk made around).run requests).2 := by
  intro made ctx
  have hbare : ctx.bare = made.bare := bare_run ⟨made, around⟩ requests
  have hanswers : List.Forall₂ (Request.Keeps made) requests _ := keeps_run ⟨made, around⟩ requests rfl
  refine ⟨?_, fun kind => ?_, fun slot => ?_, fun drive => ?_, fun drive => ?_, hanswers⟩
  · exact congrArg (fun c : Context Unit => c.config) hbare
  · rw [← ctx.size_bare, hbare, made.size_bare]
  · rw [← ctx.fixed_deviceAt?_bare, hbare, made.fixed_deviceAt?_bare]
  · rw [← ctx.fixed_device?_bare, hbare, made.fixed_device?_bare]
  · rw [← ctx.geometry_bare, hbare, made.geometry_bare]

end Session

/-! ## Machines -/

namespace Machine

/-- A machine in use: its interfaces are places of disks, which no write changes. -/
def session (m : Machine) : Session Nat Bank :=
  ⟨m.context, ⟨m.board.firmware, Table.walker m.tables, .steady Bank.io, m.bank⟩⟩

/-- What a request to a machine is to its context.  A restart makes another context and is none. -/
def Request.toSession? (m : Machine) : Request → Option (Session.Request Nat Bank)
  | .device drive => some (.device drive)
  | .geometry drive => some (.geometry drive)
  | .read drive sector count buffer => some (.read drive sector count buffer)
  | .write drive sector count buffer => some (.write drive sector count buffer)
  | .dispatch code drive sector count buffer => some (.dispatch code drive sector count buffer)
  | .handleFor drive partition => some (.handleFor drive partition)
  | .pairFor handle => some (.pairFor handle)
  | .restart .. => none
  | r => some (.change (m.step r).machine.session.around)

/-- What an answer of a machine says about its context. -/
def Answer.toSession : Answer → Session.Answer Nat
  | .device d? => .device d?
  | .geometry outcome => .geometry outcome
  | .transfer outcome buffer _ => .transfer outcome buffer
  | .handle outcome _ => .handle outcome
  | .pair outcome _ => .pair outcome
  | _ => .changed

/-- **A machine answers as its session does**, until it is started again. -/
theorem step_session {m : Machine} {r : Request} {q : Session.Request Nat Bank} (h : r.toSession? m = some q) :
    m.session.step q = ⟨(m.step r).machine.session, (m.step r).answer.toSession, (m.step r).log⟩ := by
  cases r with
  | restart config remove add => cases h
  | write drive sector count buffer =>
    cases h
    simp only [Session.step, session, Context.writeThrough_steady]
    rfl
  | dispatch code drive sector count buffer =>
    cases h
    simp only [Session.step, session, Context.dispatchThrough_steady]
    rfl
  | _ =>
    cases h
    rfl

/-- A request that does not start the machine again. -/
def Request.Continues : Request → Prop
  | .restart .. => False
  | _ => True

theorem Request.exists_toSession? {r : Request} (h : r.Continues) (m : Machine) : ∃ q, r.toSession? m = some q := by
  cases r with
  | restart config remove add => cases h
  | _ => exact ⟨_, rfl⟩

/-- A run of a machine between two starts is a run of its session. -/
theorem exists_run_session : ∀ {rs : List Request} (m : Machine), (∀ r ∈ rs, r.Continues) →
    ∃ qs, (m.session.run qs).1 = (m.run rs).session
  | [], _, _ => ⟨[], rfl⟩
  | r :: rs, m, h => by
    obtain ⟨hr, hrest⟩ := List.forall_mem_cons.1 h
    obtain ⟨q, hq⟩ := Request.exists_toSession? hr m
    obtain ⟨qs, hqs⟩ := exists_run_session (m.step r).machine hrest
    refine ⟨q :: qs, ?_⟩
    change ((m.session.step q).session.run qs).1 = _
    rw [step_session hq]
    exact hqs

/-- **A machine keeps its drives until it is started again.** -/
theorem bare_context_run {rs : List Request} (m : Machine) (h : ∀ r ∈ rs, r.Continues) :
    (m.run rs).context.bare = m.context.bare := by
  obtain ⟨qs, hqs⟩ := m.exists_run_session h
  have hbare := m.session.bare_run qs
  rw [hqs] at hbare
  exact hbare

end Machine
end DriveMap
