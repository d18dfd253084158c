import DriveMap.Context.Transfer
/-!
# What reaches a disk

A request is judged before anything moves.  `Context.Judges` says how: it is refused for the first of its faults, or it
comes to one call of one interface.  `DiskIo.recorded` writes down every call that is made, so what a request did to the
disks can be told from what it answers: nothing if it is refused, and otherwise its one call
(`Context.dispatch_judged`).
-/
namespace DriveMap

structure SectorRequest where
  code : OperationCode
  drive : UInt32
  sector : UInt64
  count : UInt32
  buffer : Bytes

namespace SectorRequest

def IsKnown (r : SectorRequest) : Prop := r.code = .read ∨ r.code = .write

/-- The first byte that the request is about, in blocks of the medium. -/
def start (r : SectorRequest) (m : Medium) : Nat := r.sector.toNat * m.blockSize.toNat

def length (r : SectorRequest) (m : Medium) : Nat := r.count.toNat * m.blockSize.toNat

def stop (r : SectorRequest) (m : Medium) : Nat := (r.sector.toNat + r.count.toNat) * m.blockSize.toNat

theorem start_add_length (r : SectorRequest) (m : Medium) : r.start m + r.length m = r.stop m :=
  (Nat.add_mul r.sector.toNat r.count.toNat m.blockSize.toNat).symm

/-- **The length of a request fits 64 bits**, whatever is asked for. -/
theorem length_lt (r : SectorRequest) (m : Medium) : r.length m < UInt64.size := by
  have hcount : r.count.toNat ≤ UInt32.size - 1 := Nat.le_sub_one_of_lt r.count.toNat_lt_size
  have hblock : m.blockSize.toNat ≤ UInt32.size - 1 := Nat.le_sub_one_of_lt m.blockSize.toNat_lt_size
  exact Nat.lt_of_le_of_lt (Nat.mul_le_mul hcount hblock) (by decide)

theorem length_le_of_split {r : SectorRequest} {m : Medium} {data rest : Bytes} (hbuffer : r.buffer = data ++ rest)
    (hlen : data.length = r.length m) : r.length m ≤ r.buffer.length := by
  rw [hbuffer, List.length_append, hlen]
  exact Nat.le_add_right _ _

end SectorRequest

variable {α σ : Type}

/-! ## Calls -/

inductive DiskCall (α : Type) where
  | read (io : α) (mediaId : UInt32) (offset : UInt64) (length : Nat)
  | write (io : α) (mediaId : UInt32) (offset : UInt64) (data : Bytes)

/-- What a call answers, but for the bytes read, and the world after it. -/
def DiskCall.perform (disks : DiskIo α σ) (world : σ) : DiskCall α → Outcome Unit × σ
  | .read io mediaId offset length =>
    ((disks.read io mediaId offset length world).1.map fun _ => (), (disks.read io mediaId offset length world).2)
  | .write io mediaId offset data => disks.write io mediaId offset data world

def DiskIo.recorded (disks : DiskIo α σ) : DiskIo α (σ × List (DiskCall α)) where
  read io mediaId offset length world :=
    ((disks.read io mediaId offset length world.1).1, (disks.read io mediaId offset length world.1).2,
      world.2 ++ [.read io mediaId offset length])
  write io mediaId offset data world :=
    ((disks.write io mediaId offset data world.1).1, (disks.write io mediaId offset data world.1).2,
      world.2 ++ [.write io mediaId offset data])
  read_length h := disks.read_length (Prod.ext (Prod.mk.inj h).1 rfl)

namespace Context

/-! ## The judgement -/

/-- What a request comes to: a refusal, or the one call that is to be made. -/
inductive Judges (ctx : Context α) (r : SectorRequest) : Outcome (DiskCall α) → Prop
  | unknownCode : ¬r.IsKnown → Judges ctx r (.error .invalidParameter)
  | noDrive : r.IsKnown → ctx.device? r.drive = none → Judges ctx r (.error .notFound)
  | farStart (d : Device α) : r.IsKnown → ctx.device? r.drive = some d → UInt64.size ≤ r.start d.medium →
      Judges ctx r (.error .invalidParameter)
  | shortBuffer (d : Device α) : r.IsKnown → ctx.device? r.drive = some d → r.start d.medium < UInt64.size →
      r.buffer.length < r.length d.medium → Judges ctx r (.error .badBufferSize)
  | read (d : Device α) (offset : UInt64) : r.code = .read → ctx.device? r.drive = some d →
      offset.toNat = r.start d.medium → r.length d.medium ≤ r.buffer.length →
      Judges ctx r (.ok (.read d.io d.medium.mediaId offset (r.length d.medium)))
  | write (d : Device α) (offset : UInt64) (data rest : Bytes) : r.code = .write → ctx.device? r.drive = some d →
      offset.toNat = r.start d.medium → r.buffer = data ++ rest → data.length = r.length d.medium →
      Judges ctx r (.ok (.write d.io d.medium.mediaId offset data))

/-- The judgement as it is come to, by way of the plan. -/
def judge (ctx : Context α) (r : SectorRequest) : Outcome (DiskCall α) :=
  if r.code = .read then
    (ctx.plan r.drive r.sector r.count r.buffer.length).map fun (d, range) =>
      .read d.io d.medium.mediaId range.offset range.length
  else if r.code = .write then
    (ctx.plan r.drive r.sector r.count r.buffer.length).map fun (d, range) =>
      .write d.io d.medium.mediaId range.offset (r.buffer.take range.length)
  else .error .invalidParameter

variable {ctx : Context α} {r : SectorRequest} {room : Nat} {d : Device α}

theorem plan_of_no_device (hd : ctx.device? r.drive = none) :
    ctx.plan r.drive r.sector r.count room = .error .notFound := by
  rw [plan, hd]

theorem plan_of_farStart (hd : ctx.device? r.drive = some d) (hfar : UInt64.size ≤ r.start d.medium) :
    ctx.plan r.drive r.sector r.count room = .error .invalidParameter := by
  have hrange : d.medium.byteRange r.sector r.count room = .error .invalidParameter := if_pos hfar
  rw [plan, hd]
  exact congrArg (Except.map _) hrange

theorem plan_of_shortBuffer (hd : ctx.device? r.drive = some d) (hnear : r.start d.medium < UInt64.size)
    (hshort : room < r.length d.medium) : ctx.plan r.drive r.sector r.count room = .error .badBufferSize := by
  have hrange : d.medium.byteRange r.sector r.count room = .error .badBufferSize :=
    (if_neg (Nat.not_le.2 hnear)).trans (if_pos hshort)
  rw [plan, hd]
  exact congrArg (Except.map _) hrange

theorem plan_of_fits {offset : UInt64} (hd : ctx.device? r.drive = some d) (ho : offset.toNat = r.start d.medium)
    (hroom : r.length d.medium ≤ room) :
    ctx.plan r.drive r.sector r.count room = .ok (d, ⟨offset, r.length d.medium⟩) := by
  have hnear : r.start d.medium < UInt64.size := ho ▸ offset.toNat_lt_size
  have hrange : d.medium.byteRange r.sector r.count room = .ok ⟨UInt64.ofNat (r.start d.medium), r.length d.medium⟩ :=
    (if_neg (Nat.not_le.2 hnear)).trans (if_neg (Nat.not_lt.2 hroom))
  rw [← ho, UInt64.ofNat_toNat] at hrange
  rw [plan, hd]
  exact congrArg (Except.map _) hrange

theorem judge_of_refused (hknown : r.IsKnown) {f : Failure Unit}
    (hplan : ctx.plan r.drive r.sector r.count r.buffer.length = .error f) : ctx.judge r = .error f := by
  unfold judge
  rw [hplan]
  rcases hknown with hcode | hcode
  · rw [if_pos hcode]
    rfl
  · rw [hcode, if_neg (by decide), if_pos rfl]
    rfl

theorem Judges.eq_judge {verdict : Outcome (DiskCall α)} (h : ctx.Judges r verdict) : verdict = ctx.judge r := by
  cases h with
  | unknownCode hcode =>
    obtain ⟨hread, hwrite⟩ := not_or.1 hcode
    rw [judge, if_neg hread, if_neg hwrite]
  | noDrive hcode hd => rw [judge_of_refused hcode (plan_of_no_device hd)]
  | farStart d hcode hd hfar => rw [judge_of_refused hcode (plan_of_farStart hd hfar)]
  | shortBuffer d hcode hd hnear hshort => rw [judge_of_refused hcode (plan_of_shortBuffer hd hnear hshort)]
  | read d offset hcode hd ho hroom =>
    rw [judge, if_pos hcode, plan_of_fits hd ho hroom]
    rfl
  | write d offset data rest hcode hd ho hbuffer hlen =>
    have hroom := SectorRequest.length_le_of_split hbuffer hlen
    rw [judge, hcode, if_neg (by decide), if_pos rfl, plan_of_fits hd ho hroom, hbuffer, ← hlen]
    simp only [Except.map, List.take_left]

theorem exists_judges (ctx : Context α) (r : SectorRequest) : ∃ verdict, ctx.Judges r verdict := by
  by_cases hknown : r.IsKnown
  · cases hd : ctx.device? r.drive with
    | none => exact ⟨_, .noDrive hknown hd⟩
    | some d =>
      by_cases hfar : UInt64.size ≤ r.start d.medium
      · exact ⟨_, .farStart d hknown hd hfar⟩
      have hnear := Nat.not_le.1 hfar
      by_cases hshort : r.buffer.length < r.length d.medium
      · exact ⟨_, .shortBuffer d hknown hd hnear hshort⟩
      have hroom := Nat.not_lt.1 hshort
      have ho : (UInt64.ofNat (r.start d.medium)).toNat = r.start d.medium := UInt64.toNat_ofNat_of_lt' hnear
      rcases hknown with hcode | hcode
      · exact ⟨_, .read d _ hcode hd ho hroom⟩
      · have hsplit := (List.take_append_drop (r.length d.medium) r.buffer).symm
        exact ⟨_, .write d _ _ _ hcode hd ho hsplit (List.length_take_of_le hroom)⟩
  · exact ⟨_, .unknownCode hknown⟩

theorem judges_iff {verdict : Outcome (DiskCall α)} : ctx.Judges r verdict ↔ verdict = ctx.judge r := by
  refine ⟨Judges.eq_judge, ?_⟩
  rintro rfl
  obtain ⟨verdict, h⟩ := exists_judges ctx r
  exact h.eq_judge ▸ h

/-! ## What is done -/

/-- What a request becomes once it is judged to be a call. -/
def carryOut (disks : DiskIo α σ) (r : SectorRequest) (world : σ) : DiskCall α → Served σ
  | .read io mediaId offset length =>
    match disks.read io mediaId offset length world with
    | (.error f, world') => ⟨.error f, r.buffer, world', []⟩
    | (.ok bs, world') => ⟨.ok (), bs ++ r.buffer.drop length, world', []⟩
  | .write io mediaId offset data =>
    ⟨(disks.write io mediaId offset data world).1, r.buffer, (disks.write io mediaId offset data world).2,
      [.writing r.count r.sector]⟩

variable {disks : DiskIo α σ} {world : σ} {calls : List (DiskCall α)} {call : DiskCall α}

def serve (ctx : Context α) (disks : DiskIo α σ) (r : SectorRequest) (world : σ) : Served σ :=
  ctx.dispatch disks r.code r.drive r.sector r.count r.buffer world

theorem serve_eq : ctx.serve disks r world = match ctx.judge r with
    | .error f => ⟨.error f, r.buffer, world, []⟩
    | .ok call => carryOut disks r world call := by
  unfold serve dispatch judge Context.read Context.write
  split
  · cases ctx.plan r.drive r.sector r.count r.buffer.length <;> rfl
  split
  · cases ctx.plan r.drive r.sector r.count r.buffer.length <;> rfl
  · rfl

theorem serve_of_refused {f : Failure Unit} (h : ctx.judge r = .error f) :
    ctx.serve disks r world = ⟨.error f, r.buffer, world, []⟩ := by
  rw [serve_eq, h]

theorem serve_of_accepted (h : ctx.judge r = .ok call) :
    ctx.serve disks r world = carryOut disks r world call := by
  rw [serve_eq, h]

theorem carryOut_read_ok {io : α} {mediaId : UInt32} {offset : UInt64} {length : Nat} {bs : Bytes}
    (h : (disks.read io mediaId offset length world).1 = .ok bs) :
    carryOut disks r world (.read io mediaId offset length) =
      ⟨.ok (), bs ++ r.buffer.drop length, (disks.read io mediaId offset length world).2, []⟩ := by
  have hread : disks.read io mediaId offset length world = (.ok bs, _) := Prod.ext h rfl
  rw [carryOut, hread]

theorem carryOut_read_error {io : α} {mediaId : UInt32} {offset : UInt64} {length : Nat} {f : Failure Unit}
    (h : (disks.read io mediaId offset length world).1 = .error f) :
    carryOut disks r world (.read io mediaId offset length) =
      ⟨.error f, r.buffer, (disks.read io mediaId offset length world).2, []⟩ := by
  have hread : disks.read io mediaId offset length world = (.error f, _) := Prod.ext h rfl
  rw [carryOut, hread]

theorem carryOut_perform (disks : DiskIo α σ) (r : SectorRequest) (world : σ) (call : DiskCall α) :
    (carryOut disks r world call).outcome = (call.perform disks world).1 ∧
      (carryOut disks r world call).world = (call.perform disks world).2 := by
  cases call with
  | read io mediaId offset length =>
    rw [DiskCall.perform]
    cases hread : (disks.read io mediaId offset length world).1 with
    | error f =>
      rw [carryOut_read_error hread]
      exact ⟨rfl, rfl⟩
    | ok bs =>
      rw [carryOut_read_ok hread]
      exact ⟨rfl, rfl⟩
  | write io mediaId offset data => exact ⟨rfl, rfl⟩

/-- **Writing the calls down changes nothing else**, and a call that is carried out is written down once. -/
theorem carryOut_recorded : carryOut disks.recorded r (world, calls) call =
    { carryOut disks r world call with world := ((carryOut disks r world call).world, calls ++ [call]) } := by
  cases call with
  | read io mediaId offset length =>
    have hwatched : (disks.recorded.read io mediaId offset length (world, calls)).1 =
      (disks.read io mediaId offset length world).1 := rfl
    cases hread : (disks.read io mediaId offset length world).1 with
    | error f =>
      rw [carryOut_read_error hread, carryOut_read_error (hwatched.trans hread)]
      rfl
    | ok bs =>
      rw [carryOut_read_ok hread, carryOut_read_ok (hwatched.trans hread)]
      rfl
  | write io mediaId offset data => rfl

theorem serve_recorded (ctx : Context α) (disks : DiskIo α σ) (r : SectorRequest) (world : σ)
    (calls : List (DiskCall α)) :
    let served := ctx.serve disks r world
    let watched := ctx.serve disks.recorded r (world, calls)
    served.outcome = watched.outcome ∧ served.buffer = watched.buffer ∧ served.world = watched.world.1 ∧
      served.log = watched.log := by
  intro served watched
  cases h : ctx.judge r with
  | error f =>
    have hserved : served = _ := serve_of_refused h
    have hwatched : watched = _ := serve_of_refused h
    rw [hserved, hwatched]
    exact ⟨rfl, rfl, rfl, rfl⟩
  | ok call =>
    have hserved : served = _ := serve_of_accepted h
    have hwatched : watched = _ := serve_of_accepted h
    rw [hserved, hwatched, carryOut_recorded]
    exact ⟨rfl, rfl, rfl, rfl⟩

/-- **A refused request reaches no disk, and any other reaches one, once.**  There is one judgement of a request.  If it
is a refusal, the request is answered with it, no call is made, nothing changes and nothing is logged; if it is a call,
that is the only one, and its outcome is the answer.  The length of a request always fits 64 bits. -/
theorem dispatch_judged (ctx : Context α) (disks : DiskIo α σ) (r : SectorRequest) (world : σ)
    (calls : List (DiskCall α)) :
    let served := ctx.dispatch disks r.code r.drive r.sector r.count r.buffer world
    let watched := ctx.dispatch disks.recorded r.code r.drive r.sector r.count r.buffer (world, calls)
    (∃ verdict, (∀ v, ctx.Judges r v ↔ v = verdict) ∧
      (∀ f, verdict = .error f → watched = ⟨.error f, r.buffer, (world, calls), []⟩) ∧
      ∀ call, verdict = .ok call → watched.outcome = (call.perform disks world).1 ∧
        watched.world = ((call.perform disks world).2, calls ++ [call])) ∧
    (served.outcome = watched.outcome ∧ served.buffer = watched.buffer ∧ served.world = watched.world.1 ∧
      served.log = watched.log) ∧
    ∀ m : Medium, r.length m < UInt64.size := by
  intro served watched
  refine ⟨⟨ctx.judge r, fun _ => judges_iff, ?_, ?_⟩, serve_recorded ctx disks r world calls, r.length_lt⟩
  · intro f hf
    exact serve_of_refused hf
  · intro call hcall
    have hwatched : watched = _ := serve_of_accepted hcall
    obtain ⟨houtcome, hworld⟩ := carryOut_perform disks r world call
    rw [hwatched, carryOut_recorded, ← houtcome, ← hworld]
    exact ⟨rfl, rfl⟩

end Context
end DriveMap
