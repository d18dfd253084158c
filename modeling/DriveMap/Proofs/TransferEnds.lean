import DriveMap.Proofs.DiskBytes
import DriveMap.Proofs.DriveAccess
import DriveMap.Proofs.RoundTrips
/-!
# Where a transfer ends

A request is planned from its first byte and its length, and each of the two is checked for itself.  Nothing is asked of
where it ends: that is left to the disk.  So a request that starts below the last 64-bit offset and ends past it reaches
the disk like any other (`Context.dispatch_stop_iff`).

A disk that is as large as its medium says refuses what goes past its end, however it is asked.  Then the sectors that
can be moved are those that the geometry counts (`Context.transfer_iff_counted`).
-/
namespace DriveMap

variable {α σ : Type}

namespace DiskCall

def offset : DiskCall α → UInt64
  | .read _ _ offset _ => offset
  | .write _ _ offset _ => offset

def length : DiskCall α → Nat
  | .read _ _ _ length => length
  | .write _ _ _ data => data.length

/-- The end of the bytes that the call is about. -/
def stop (call : DiskCall α) : Nat := call.offset.toNat + call.length

end DiskCall

/-- The request starts at a byte that has a 64-bit offset and runs on past the last of these. -/
def SectorRequest.Straddles (r : SectorRequest) (m : Medium) : Prop :=
  r.start m < UInt64.size ∧ UInt64.size < r.stop m

namespace Context

variable {ctx : Context α} {disks : DiskIo α σ} {r : SectorRequest} {d : Device α} {world : σ}
  {calls : List (DiskCall α)} {call : DiskCall α}

/-! ## The 64-bit end -/

theorem Judges.range (h : ctx.Judges r (.ok call)) : r.IsKnown ∧ ∃ d, ctx.device? r.drive = some d ∧
    call.offset.toNat = r.start d.medium ∧ call.stop = r.stop d.medium ∧ r.length d.medium ≤ r.buffer.length := by
  cases h with
  | read d offset hcode hd ho hroom =>
    refine ⟨.inl hcode, d, hd, ho, ?_, hroom⟩
    rw [← r.start_add_length, ← ho]
    rfl
  | write d offset data rest hcode hd ho hbuffer hlen =>
    refine ⟨.inr hcode, d, hd, ho, ?_, SectorRequest.length_le_of_split hbuffer hlen⟩
    rw [← r.start_add_length, ← ho, ← hlen]
    rfl

theorem exists_judges_call (hknown : r.IsKnown) (hd : ctx.device? r.drive = some d)
    (hnear : r.start d.medium < UInt64.size) (hroom : r.length d.medium ≤ r.buffer.length) :
    ∃ call, ctx.Judges r (.ok call) := by
  obtain ⟨verdict, h⟩ := exists_judges ctx r
  cases h with
  | unknownCode hcode => exact absurd hknown hcode
  | noDrive _ hd' => cases hd.symm.trans hd'
  | farStart d' _ hd' hfar =>
    cases hd.symm.trans hd'
    omega
  | shortBuffer d' _ hd' _ hshort =>
    cases hd.symm.trans hd'
    omega
  | read d' offset hcode hd' ho hroom' => exact ⟨_, .read d' offset hcode hd' ho hroom'⟩
  | write d' offset data rest hcode hd' ho hbuffer hlen => exact ⟨_, .write d' offset data rest hcode hd' ho hbuffer hlen⟩

theorem calls_eq_iff : (ctx.serve disks.recorded r (world, calls)).world.2 = calls ++ [call] ↔
    ctx.Judges r (.ok call) := by
  rw [judges_iff]
  cases hjudge : ctx.judge r with
  | error f =>
    rw [serve_of_refused hjudge]
    simp
  | ok call' =>
    rw [serve_of_accepted hjudge, carryOut_recorded]
    simp [eq_comm]

/-- **What runs past the 64-bit end is an invalid parameter only if it starts there.**  A call is made for the bytes
that were asked for, and it ends past 2^64 exactly if the request straddles that and its buffer is long enough. -/
theorem dispatch_stop_iff (ctx : Context α) (disks : DiskIo α σ) (r : SectorRequest) (world : σ)
    (calls : List (DiskCall α)) :
    let watched := ctx.dispatch disks.recorded r.code r.drive r.sector r.count r.buffer (world, calls)
    (∀ call, watched.world.2 = calls ++ [call] → ∃ d, ctx.device? r.drive = some d ∧
      call.offset.toNat = r.start d.medium ∧ call.stop = r.stop d.medium ∧ call.stop < 2 * UInt64.size) ∧
    ((∃ call, watched.world.2 = calls ++ [call] ∧ UInt64.size < call.stop) ↔
      r.IsKnown ∧ ∃ d, ctx.device? r.drive = some d ∧ r.Straddles d.medium ∧ r.length d.medium ≤ r.buffer.length) ∧
    ∀ d, r.IsKnown → ctx.device? r.drive = some d →
      (UInt64.size ≤ r.start d.medium → watched = ⟨.error .invalidParameter, r.buffer, (world, calls), []⟩) ∧
      (r.Straddles d.medium → r.buffer.length < r.length d.medium →
        watched = ⟨.error .badBufferSize, r.buffer, (world, calls), []⟩) := by
  intro watched
  have hcalls : ∀ call, watched.world.2 = calls ++ [call] ↔ ctx.Judges r (.ok call) := fun _ => calls_eq_iff
  refine ⟨fun call hcall => ?_, ⟨?_, ?_⟩, fun d hknown hd => ⟨fun hfar => ?_, fun ⟨hnear, _⟩ hshort => ?_⟩⟩
  · obtain ⟨-, d, hd, hstart, hstop, -⟩ := ((hcalls call).1 hcall).range
    refine ⟨d, hd, hstart, hstop, ?_⟩
    have hlen := r.length_lt d.medium
    have hnear := call.offset.toNat_lt_size
    rw [hstart] at hnear
    rw [hstop, ← r.start_add_length]
    omega
  · rintro ⟨call, hcall, hpast⟩
    obtain ⟨hknown, d, hd, hstart, hstop, hroom⟩ := ((hcalls call).1 hcall).range
    exact ⟨hknown, d, hd, ⟨hstart ▸ call.offset.toNat_lt_size, hstop ▸ hpast⟩, hroom⟩
  · rintro ⟨hknown, d, hd, ⟨hnear, hpast⟩, hroom⟩
    obtain ⟨call, hjudges⟩ := exists_judges_call hknown hd hnear hroom
    obtain ⟨-, d', hd', -, hstop, -⟩ := hjudges.range
    cases hd.symm.trans hd'
    exact ⟨call, (hcalls call).2 hjudges, hstop ▸ hpast⟩
  · exact serve_of_refused (Judges.farStart d hknown hd hfar).eq_judge.symm
  · exact serve_of_refused (Judges.shortBuffer d hknown hd hnear hshort).eq_judge.symm

theorem device?_on_sample :
    ∃ d, Sample.context.device? 0x80 = some d ∧ d.io = 1 ∧ d.medium = ⟨0, false, 512, 4095⟩ := by
  have hparts : (Sample.context.device? 0x80).map (fun d => (d.io, d.medium)) = some (1, ⟨0, false, 512, 4095⟩) := by
    decide +kernel
  obtain ⟨d, hd, hd'⟩ := Option.map_eq_some_iff.1 hparts
  exact ⟨d, hd, Prod.mk.inj hd'⟩

/-- The first byte that has no 64-bit offset is that of sector 2^55.  To start there is refused; to start one sector
before it is not. -/
theorem dispatch_stop_iff_on_sample :
    let bank : Machine.Bank := []
    let buffer : Bytes := List.replicate 1024 0
    Sample.context.dispatch Machine.Bank.io.recorded .write 0x80 0x80000000000000 2 buffer (bank, []) =
      ⟨.error .invalidParameter, buffer, (bank, []), []⟩ ∧
    ∃ call, (Sample.context.dispatch Machine.Bank.io.recorded .write 0x80 0x7fffffffffffff 2 buffer (bank, [])).world.2 =
      [call] ∧ UInt64.size < call.stop := by
  intro bank buffer
  have hbuffer : buffer.length = 1024 := List.length_replicate
  clear_value buffer
  obtain ⟨d, hd, -, hmedium⟩ := device?_on_sample
  obtain ⟨-, -, hrefused⟩ :=
    dispatch_stop_iff Sample.context Machine.Bank.io ⟨.write, 0x80, 0x80000000000000, 2, buffer⟩ bank []
  obtain ⟨-, hcalled, -⟩ :=
    dispatch_stop_iff Sample.context Machine.Bank.io ⟨.write, 0x80, 0x7fffffffffffff, 2, buffer⟩ bank []
  refine ⟨(hrefused d (.inr rfl) hd).1 ?_, hcalled.2 ⟨.inr rfl, d, hd, ?_, ?_⟩⟩
  · rw [hmedium]
    exact (by decide : UInt64.size ≤ 0x80000000000000 * 512)
  · rw [hmedium]
    exact (by decide : 0x7fffffffffffff * 512 < UInt64.size ∧ UInt64.size < (0x7fffffffffffff + 2) * 512)
  · rw [hmedium]
    change 2 * 512 ≤ buffer.length
    rw [hbuffer]

/-- The disk of the sample, asked for two sectors around the byte at 2^64, is called.  It is out of order, and that is
what the request is answered with. -/
theorem dispatch_straddling :
    let bank : Machine.Bank := List.replicate 3 (.ofSize 0 (.error 7) 512)
    let r : SectorRequest := ⟨.read, 0x80, 0x7fffffffffffff, 2, List.replicate 1024 0⟩
    let watched := Sample.context.dispatch Machine.Bank.io.recorded r.code r.drive r.sector r.count r.buffer (bank, [])
    watched.world.2 = [.read 1 0 0xfffffffffffffe00 1024] ∧
      UInt64.size < (0xfffffffffffffe00 : UInt64).toNat + 1024 ∧ watched.outcome.status = .error 7 := by
  intro bank r watched
  obtain ⟨d, hd, hio, hmedium⟩ := device?_on_sample
  have hlen : r.length d.medium = 1024 := by
    rw [hmedium]
    decide
  have hjudges : Sample.context.Judges r (.ok (.read d.io d.medium.mediaId 0xfffffffffffffe00 (r.length d.medium))) := by
    refine .read d _ rfl hd ?_ ?_
    · rw [hmedium]
      decide
    · rw [hlen]
      exact List.length_replicate.ge
  rw [hlen, hio, hmedium] at hjudges
  have hwatched : watched = _ := serve_of_accepted hjudges.eq_judge.symm
  rw [hwatched, carryOut_recorded]
  exact ⟨rfl, by decide, rfl⟩

end Context

/-! ## The end of the disk -/

/-- The disk is as large as the medium says, the same that is in, and in order. -/
structure Machine.Disk.Fits (disk : Machine.Disk) (m : Medium) : Prop where
  works : disk.failure = .success
  medium : disk.mediaId = m.mediaId
  blocks : 0 < m.blockSize.toNat
  length_eq : disk.bytes.length = m.totalBlocks.toNat * m.blockSize.toNat
  length_lt : disk.bytes.length < UInt64.size

/-- Transfers through the interface are those of a memory disk; `Holds` tells which disk that is in which world. -/
structure DiskIo.ActsAs (disks : DiskIo α σ) (io : α) (Holds : σ → Machine.Disk → Prop) : Prop where
  read : ∀ {world disk}, Holds world disk → ∀ mediaId offset length,
    (disks.read io mediaId offset length world).1 = (disk.read mediaId offset length).1 ∧
      Holds (disks.read io mediaId offset length world).2 (disk.read mediaId offset length).2
  write : ∀ {world disk}, Holds world disk → ∀ mediaId offset data,
    (disks.write io mediaId offset data world).1 = (disk.write mediaId offset data).1 ∧
      Holds (disks.write io mediaId offset data world).2 (disk.write mediaId offset data).2

theorem Machine.Bank.actsAs_io (i : Nat) : Machine.Bank.io.ActsAs i fun b disk => b[i]? = some disk := by
  constructor
  case read =>
    intro b disk hdisk mediaId offset length
    obtain ⟨hlt, -⟩ := List.getElem?_eq_some_iff.1 hdisk
    have hread : Machine.Bank.io.read i mediaId offset length b = (_, b.set i _) := transfer_of_some hdisk
    rw [hread]
    exact ⟨rfl, List.getElem?_set_self hlt⟩
  case write =>
    intro b disk hdisk mediaId offset data
    obtain ⟨hlt, -⟩ := List.getElem?_eq_some_iff.1 hdisk
    have hwrite : Machine.Bank.io.write i mediaId offset data b = (_, b.set i _) := transfer_of_some hdisk
    rw [hwrite]
    exact ⟨rfl, List.getElem?_set_self hlt⟩

namespace Machine.Disk

variable {disk : Machine.Disk} {m : Medium} {offset : UInt64} {length : Nat}

theorem outcome_write (disk : Machine.Disk) (mediaId : UInt32) (offset : UInt64) (data : Bytes) :
    (disk.write mediaId offset data).1 = disk.check mediaId offset data.length := by
  unfold write
  split <;> simp [*]

/-- On a disk that fits, only the end can be wrong with a transfer. -/
theorem Fits.check_eq (h : disk.Fits m) : disk.check m.mediaId offset length =
    if offset.toNat + length ≤ disk.bytes.length then .ok () else .error .invalidParameter := by
  split
  · rename_i hin
    exact check_of_admits ⟨h.works, h.medium.symm, hin⟩
  · rename_i hout
    unfold check Status.toOutcome
    rw [dif_pos h.works]
    simp only [bind, Except.bind, if_neg (not_not_intro h.medium.symm), if_pos (Nat.not_le.1 hout)]

theorem Fits.stop_le_iff (h : disk.Fits m) (r : SectorRequest) :
    r.stop m ≤ disk.bytes.length ↔ r.sector.toNat + r.count.toNat ≤ m.totalBlocks.toNat := by
  rw [h.length_eq]
  exact Nat.mul_le_mul_right_iff h.blocks

end Machine.Disk

namespace Context

variable {ctx : Context α} {disks : DiskIo α σ} {r : SectorRequest} {d : Device α} {world : σ}
  {Holds : σ → Machine.Disk → Prop} {disk : Machine.Disk} {drive : UInt32}

/-- With room enough, a request is answered by where it ends: whether the plan refuses it or the disk makes no
difference. -/
theorem outcome_serve (hacts : disks.ActsAs d.io Holds) (hdisk : Holds world disk) (hfits : disk.Fits d.medium)
    (hknown : r.IsKnown) (hd : ctx.device? r.drive = some d) (hroom : r.length d.medium ≤ r.buffer.length) :
    (ctx.serve disks r world).outcome =
      if r.stop d.medium ≤ disk.bytes.length then .ok () else .error .invalidParameter := by
  have hstop := r.start_add_length d.medium
  by_cases hfar : UInt64.size ≤ r.start d.medium
  · have hlt := hfits.length_lt
    rw [serve_of_refused (Judges.farStart d hknown hd hfar).eq_judge.symm, if_neg (by omega)]
  obtain ⟨call, hcall⟩ := exists_judges_call hknown hd (Nat.not_le.1 hfar) hroom
  rw [serve_of_accepted hcall.eq_judge.symm, (carryOut_perform ..).1]
  cases hcall with
  | read d' offset _ hd' ho _ =>
    cases hd.symm.trans hd'
    rw [DiskCall.perform, (hacts.read hdisk ..).1, Machine.Disk.read, hfits.check_eq, ho, hstop]
    split <;> rfl
  | write d' offset data rest _ hd' ho _ hlen =>
    cases hd.symm.trans hd'
    rw [DiskCall.perform, (hacts.write hdisk ..).1, Machine.Disk.outcome_write, hfits.check_eq, ho, hlen, hstop]

theorem buffer_of_read (hacts : disks.ActsAs d.io Holds) (hdisk : Holds world disk) (hfits : disk.Fits d.medium)
    (hcode : r.code = .read) (hd : ctx.device? r.drive = some d) (hroom : r.length d.medium ≤ r.buffer.length)
    (hin : r.stop d.medium ≤ disk.bytes.length) (k : Nat) : (ctx.serve disks r world).buffer[k]? =
      if k < r.length d.medium then disk.bytes[r.start d.medium + k]? else r.buffer[k]? := by
  have hstop := r.start_add_length d.medium
  have hlt := hfits.length_lt
  obtain ⟨call, hcall⟩ := exists_judges_call (.inl hcode) hd (by omega) hroom
  rw [serve_of_accepted hcall.eq_judge.symm]
  cases hcall with
  | write _ _ _ _ hcode' => cases hcode.symm.trans hcode'
  | read d' offset _ hd' ho _ =>
    cases hd.symm.trans hd'
    have hread : (disks.read d.io d.medium.mediaId offset (r.length d.medium) world).1 =
        .ok (disk.slice offset.toNat (r.length d.medium)) := by
      rw [(hacts.read hdisk ..).1, Machine.Disk.read, hfits.check_eq, ho, hstop, if_pos hin]
      rfl
    have hlen := disks.read_length (Prod.ext hread rfl)
    rw [carryOut_read_ok hread, Machine.getElem?_filled hlen, Machine.Disk.getElem?_slice, ho]
    split <;> rfl

theorem world_of_write (hacts : disks.ActsAs d.io Holds) (hdisk : Holds world disk) (hfits : disk.Fits d.medium)
    (hcode : r.code = .write) (hd : ctx.device? r.drive = some d) (hroom : r.length d.medium ≤ r.buffer.length)
    (hin : r.stop d.medium ≤ disk.bytes.length) : ∃ disk', Holds (ctx.serve disks r world).world disk' ∧
      ∀ j, disk'.bytes[j]? = if r.start d.medium ≤ j ∧ j < r.stop d.medium then r.buffer[j - r.start d.medium]?
        else disk.bytes[j]? := by
  have hstop := r.start_add_length d.medium
  have hlt := hfits.length_lt
  obtain ⟨call, hcall⟩ := exists_judges_call (.inr hcode) hd (by omega) hroom
  rw [serve_of_accepted hcall.eq_judge.symm]
  cases hcall with
  | read _ _ hcode' => cases hcode.symm.trans hcode'
  | write d' offset data rest _ hd' ho hbuffer hlen =>
    cases hd.symm.trans hd'
    refine ⟨_, (hacts.write hdisk d.medium.mediaId offset data).2, fun j => ?_⟩
    have hinside : offset.toNat + data.length ≤ disk.bytes.length := by omega
    rw [Machine.Disk.write, hfits.check_eq, if_pos hinside]
    rw [Machine.Disk.getElem?_replaced hinside, ho, hlen, hstop]
    split
    · rw [hbuffer, List.getElem?_append_left (by omega)]
    · rfl

/-- **The sectors that can be moved are those that the geometry counts.**  A transfer that stays within them moves them
whole, in blocks of the medium; one that does not is an invalid parameter. -/
theorem transfer_iff_counted (sector : UInt64) (count : UInt32) (buffer : Bytes) (hacts : disks.ActsAs d.io Holds)
    (hdisk : Holds world disk) (hfits : disk.Fits d.medium) (hd : ctx.device? drive = some d)
    (hroom : count.toNat * d.medium.blockSize.toNat ≤ buffer.length) :
    ∃ g, ctx.geometry drive = .ok g ∧ g.sectorSize = d.medium.blockSize ∧
      let counted := sector.toNat + count.toNat ≤ g.totalSectors.toNat
      let got := ctx.read disks drive sector count buffer world
      let put := ctx.write disks drive sector count buffer world
      ((got.outcome = .ok () ↔ counted) ∧ (put.outcome = .ok () ↔ counted)) ∧
      (¬counted → got.outcome = .error .invalidParameter ∧ put.outcome = .error .invalidParameter) ∧
      (counted → (∀ k, got.buffer[k]? = if k < count.toNat * g.sectorSize.toNat
          then disk.bytes[sector.toNat * g.sectorSize.toNat + k]? else buffer[k]?) ∧
        ∃ disk', Holds put.world disk' ∧ ∀ j, disk'.bytes[j]? =
          if sector.toNat * g.sectorSize.toNat ≤ j ∧ j < (sector.toNat + count.toNat) * g.sectorSize.toNat
          then buffer[j - sector.toNat * g.sectorSize.toNat]? else disk.bytes[j]?) := by
  obtain ⟨flags, hgeometry⟩ := (serves hd).geometry
  refine ⟨_, hgeometry, rfl, ?_⟩
  intro counted got put
  let r : SectorRequest := ⟨.read, drive, sector, count, buffer⟩
  let w : SectorRequest := ⟨.write, drive, sector, count, buffer⟩
  have hcounted : r.stop d.medium ≤ disk.bytes.length ↔ counted := hfits.stop_le_iff r
  have hgot : got.outcome = _ := outcome_serve hacts hdisk hfits (r := r) (.inl rfl) hd hroom
  have hput : put.outcome = _ := outcome_serve hacts hdisk hfits (r := w) (.inr rfl) hd hroom
  have hsame : w.stop d.medium = r.stop d.medium := rfl
  rw [hsame] at hput
  simp only [hcounted] at hgot hput
  refine ⟨⟨?_, ?_⟩, fun hnot => ?_, fun hin => ⟨?_, ?_⟩⟩
  · rw [hgot]
    split <;> simp [*]
  · rw [hput]
    split <;> simp [*]
  · rw [hgot, hput, if_neg hnot]
    exact ⟨rfl, rfl⟩
  · exact buffer_of_read hacts hdisk hfits (r := r) rfl hd hroom (hcounted.2 hin)
  · exact world_of_write hacts hdisk hfits (r := w) rfl hd hroom (hcounted.2 hin)

/-- The last sector of the sample's disk can be read, and not the one behind it. -/
theorem transfer_iff_counted_on_sample :
    let disk : Machine.Disk := .ofSize 0 .success (4096 * 512)
    let bank : Machine.Bank := [.ofSize 0 .success 0, disk]
    let buffer : Bytes := List.replicate 1024 0
    (Sample.context.read Machine.Bank.io 0x80 4095 1 buffer bank).outcome = .ok () ∧
    (Sample.context.write Machine.Bank.io 0x80 4095 1 buffer bank).outcome = .ok () ∧
    (Sample.context.read Machine.Bank.io 0x80 4095 2 buffer bank).outcome = .error .invalidParameter := by
  intro disk bank buffer
  obtain ⟨d, hd, hio, hmedium⟩ := device?_on_sample
  have hacts : Machine.Bank.io.ActsAs d.io fun b disk => b[1]? = some disk := hio ▸ Machine.Bank.actsAs_io 1
  have hlen : disk.bytes.length = 4096 * 512 := by simp [disk, Machine.Disk.ofSize]
  have hfits : disk.Fits d.medium := by
    rw [hmedium]
    exact ⟨rfl, rfl, by decide, hlen, hlen ▸ by decide⟩
  have hdisk : bank[1]? = some disk := rfl
  have hgeometry : Sample.context.geometry 0x80 = .ok (.ofMedium ⟨0, false, 512, 4095⟩ Geometry.lbaFlag) := by cbv
  have hbuffer : buffer.length = 1024 := List.length_replicate
  clear_value buffer bank disk
  obtain ⟨g, hg, -, ⟨hread, hwrite⟩, -⟩ := transfer_iff_counted 4095 1 buffer hacts hdisk hfits hd
    (by rw [hmedium, hbuffer]; decide)
  obtain ⟨g', hg', -, -, hrefused, -⟩ := transfer_iff_counted 4095 2 buffer hacts hdisk hfits hd
    (by rw [hmedium, hbuffer]; decide)
  cases hgeometry.symm.trans hg
  cases hgeometry.symm.trans hg'
  exact ⟨hread.2 (by decide), hwrite.2 (by decide), (hrefused (by decide)).1⟩

end Context
end DriveMap
