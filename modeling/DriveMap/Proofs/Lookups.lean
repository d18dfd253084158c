import DriveMap.Context.Lookup
import DriveMap.Proofs.Children
import DriveMap.Proofs.Inquiries
import DriveMap.Proofs.Placement
import DriveMap.Proofs.TableSearch
import DriveMap.Proofs.TypeCuts
/-!
# What a lookup finds

One statement for each lookup of a context.  Those for whole drives give the whole resolution; those for partitions say
when it succeeds, and with what.
-/
namespace DriveMap

theorem Extent.isSome_ofNode? (n : Node) : (Extent.ofNode? n).isSome = (Node.HardDrive.ofNode? n).isSome :=
  Option.isSome_map

theorem Extent.nodeType_of_ofNode? {n : Node} {x : Extent} (h : Extent.ofNode? n = some x) :
    n.nodeType = .hardDrive := by
  obtain ⟨hd, hh, -⟩ := Option.map_eq_some_iff.1 h
  unfold Node.HardDrive.ofNode? at hh
  split at hh
  · rename_i his
    exact his.1
  · cases hh

namespace Context

open Resolution

variable {α : Type} {ctx : Context α} {fw : Firmware α} {w : Walker} {drive partition : UInt32} {h : Handle}
  {disk : Device α} {i : Nat}

/-! ## From a pair to a handle -/

theorem handleFor_eq (ctx : Context α) (fw : Firmware α) (w : Walker) (drive partition : UInt32) :
    ctx.handleFor fw w drive partition = do
      let slot ← .require (Slot.ofNumber? ctx.config drive)
      let disk ← .require (ctx.deviceAt? slot)
      if slot.kind ≠ .hardDisk ∨ partition = wholeDisk then
        return disk.handle
      let entry ← .entryOf (w.byIndex drive partition)
      let devices ← .devicesOf fw.survey
      let child ← .require (disk.findChild? devices fun d => Extent.ofNode? d.leaf == some entry.extent)
      return child.handle := by
  simp only [handleFor, handleInquiry, Inquiry.answer_bind, Inquiry.answer_require, Inquiry.answer_entry,
    Inquiry.answer_devicesOf, Inquiry.answer_pure, apply_ite (Inquiry.answer w), Walker.byIndex]

theorem device?_of_slot {slot : Slot} (hs : Slot.ofNumber? ctx.config drive = some slot) :
    ctx.device? drive = ctx.deviceAt? slot := by
  rw [device?, hs, Option.bind_some]

/-- **A pair that asks for a whole drive is answered by the drive alone.** -/
theorem handleFor_whole {slot : Slot} (hs : Slot.ofNumber? ctx.config drive = some slot)
    (hd : ctx.deviceAt? slot = some disk) (hp : slot.kind ≠ .hardDisk ∨ partition = wholeDisk) :
    ctx.handleFor fw w drive partition = ⟨.ok disk.handle, 0, []⟩ := by
  rw [handleFor_eq]
  rw [hs, require_some_bind, hd, require_some_bind, if_pos hp]
  rfl

/-- **A pair of a drive that is not there is refused**, and nothing else is looked at. -/
theorem handleFor_of_no_device (h : ctx.device? drive = none) :
    ctx.handleFor fw w drive partition = ⟨.error .notFound, 0, []⟩ := by
  rw [handleFor_eq]
  cases hs : Slot.ofNumber? ctx.config drive with
  | none => rfl
  | some slot =>
    have hd : ctx.deviceAt? slot = none := by rw [← device?_of_slot hs, h]
    rw [require_some_bind, hd]
    rfl

theorem exists_deviceAt?_of_handleFor {slot : Slot} (hs : Slot.ofNumber? ctx.config drive = some slot)
    (hok : (ctx.handleFor fw w drive partition).outcome = .ok h) : ∃ disk, ctx.deviceAt? slot = some disk := by
  rw [handleFor_eq] at hok
  rw [hs, require_some_bind, bind_eq_ok] at hok
  obtain ⟨disk, hd, -⟩ := hok
  exact ⟨disk, require_eq_ok.1 hd⟩

/-- **A pair that asks for a partition is answered by the first child of the disk with the extent that the table
gives.** -/
theorem handleFor_partition (hs : Slot.ofNumber? ctx.config drive = some ⟨.hardDisk, i⟩) (hp : partition ≠ wholeDisk) :
    (ctx.handleFor fw w drive partition).outcome = .ok h ↔
      ∃ disk entry survey child, ctx.deviceAt? ⟨.hardDisk, i⟩ = some disk ∧
        (w.byIndex drive partition).found = .ok (some entry) ∧ fw.survey = .ok survey ∧
        disk.findChild? survey.devices (fun d => Extent.ofNode? d.leaf == some entry.extent) = some child ∧
        child.handle = h := by
  have hwhole : ¬ (DriveKind.hardDisk ≠ .hardDisk ∨ partition = wholeDisk) := by simp [hp]
  rw [handleFor_eq]
  rw [hs, require_some_bind]
  simp only [if_neg hwhole, bind_eq_ok, require_eq_ok, entryOf_eq_ok, devicesOf_eq_ok]
  constructor
  · rintro ⟨disk, hd, entry, he, _, ⟨survey, hf, rfl⟩, child, hc, hh⟩
    exact ⟨disk, entry, survey, child, hd, he, hf, hc, Except.ok.inj hh⟩
  · rintro ⟨disk, entry, survey, child, hd, he, hf, hc, rfl⟩
    exact ⟨disk, hd, entry, he, _, ⟨survey, hf, rfl⟩, child, hc, rfl⟩

/-! ## From a path to a pair -/

variable {path : DevicePath}

theorem pairForPath_eq (ctx : Context α) (fw : Firmware α) (w : Walker) (path : DevicePath) :
    ctx.pairForPath fw w path =
      match ctx.slotOf? (path.truncateAt .cdRom) with
      | some slot => do
        let drive ← .require (slot.number? ctx.config)
        return (drive, wholeDisk)
      | none => do
        let devices ← .devicesOf fw.survey
        let (index, extent) ← .require (ctx.partitionAmong? devices (path.truncateAt .cdRom))
        let drive ← .require (Slot.number? ctx.config ⟨.hardDisk, index⟩)
        let entry ← .entryOf (w.byExtent drive extent)
        .say (.partitionFound extent entry.index drive)
        return (drive, entry.index) := by
  unfold pairForPath pathInquiry
  cases hs : ctx.slotOf? (path.truncateAt .cdRom) with
  | some slot => simp only [hs, Inquiry.answer_bind, Inquiry.answer_require, Inquiry.answer_pure]
  | none =>
    simp only [hs, Inquiry.answer_bind, Inquiry.answer_require, Inquiry.answer_entry, Inquiry.answer_devicesOf,
      Inquiry.answer_say, Inquiry.answer_pure, Walker.byExtent]

theorem pairForHandle_eq (ctx : Context α) (fw : Firmware α) (w : Walker) (h : Handle) :
    ctx.pairForHandle fw w h = (do
      let bytes ← .require (fw.pathBytes? h)
      let path ← .ofOutcome ((DevicePath.ofBytes bytes).mapError PathError.failure)
      ctx.pairForPath fw w path) := by
  simp only [pairForHandle, pairInquiry, Inquiry.answer_bind, Inquiry.answer_require, Inquiry.answer_ends, pairForPath]

theorem pairForPath_slot {slot : Slot} (hs : ctx.slotOf? (path.truncateAt .cdRom) = some slot)
    (hn : slot.number? ctx.config = some drive) :
    ctx.pairForPath fw w path = ⟨.ok (drive, wholeDisk), 0, []⟩ := by
  rw [pairForPath_eq]
  simp only [hs]
  rw [hn, require_some_bind]
  rfl

/-- **A path that is no drive's is answered as a partition**: of the first disk that has it for a child, by the number
that the table gives to its extent. -/
theorem pairForPath_partition (hs : ctx.slotOf? (path.truncateAt .cdRom) = none) :
    (ctx.pairForPath fw w path).outcome = .ok (drive, partition) ↔
      ∃ survey i extent entry, fw.survey = .ok survey ∧
        ctx.partitionAmong? survey.devices (path.truncateAt .cdRom) = some (i, extent) ∧
        Slot.number? ctx.config ⟨.hardDisk, i⟩ = some drive ∧
        (w.byExtent drive extent).found = .ok (some entry) ∧ entry.index = partition := by
  rw [pairForPath_eq]
  simp only [hs, bind_eq_ok, require_eq_ok, entryOf_eq_ok, devicesOf_eq_ok]
  constructor
  · rintro ⟨_, ⟨survey, hf, rfl⟩, ⟨i, extent⟩, ha, d, hn, entry, he, _, _, hh⟩
    cases hh
    exact ⟨survey, i, extent, entry, hf, ha, hn, he, rfl⟩
  · rintro ⟨survey, i, extent, entry, hf, ha, hn, he, rfl⟩
    exact ⟨_, ⟨survey, hf, rfl⟩, (i, extent), ha, drive, hn, entry, he, (), rfl, rfl⟩

theorem slotOf?_eq_none_of_ok (h : (ctx.pairForPath fw w path).outcome = .ok (drive, partition))
    (hp : partition ≠ wholeDisk) : ctx.slotOf? (path.truncateAt .cdRom) = none := by
  cases hs : ctx.slotOf? (path.truncateAt .cdRom) with
  | none => rfl
  | some slot =>
    rw [pairForPath_eq] at h
    simp only [hs, bind_eq_ok, require_eq_ok] at h
    obtain ⟨d, -, hd⟩ := h
    cases hd
    exact absurd rfl hp

theorem pairForHandle_of_path {bs : Bytes} (hb : fw.pathBytes? h = some bs) (hp : DevicePath.ofBytes bs = .ok path) :
    ctx.pairForHandle fw w h = ctx.pairForPath fw w path := by
  rw [pairForHandle_eq]
  rw [hb, require_some_bind, hp]
  exact pure_bind path _

theorem of_pairForHandle {pair : UInt32 × UInt32} (hok : (ctx.pairForHandle fw w h).outcome = .ok pair) :
    ∃ bs path, fw.pathBytes? h = some bs ∧ DevicePath.ofBytes bs = .ok path ∧
      (ctx.pairForPath fw w path).outcome = .ok pair := by
  rw [pairForHandle_eq] at hok
  rw [bind_eq_ok] at hok
  obtain ⟨bs, hb, hok⟩ := hok
  rw [bind_eq_ok] at hok
  obtain ⟨path, hp, hok⟩ := hok
  refine ⟨bs, path, require_eq_ok.1 hb, ?_, hok⟩
  unfold ofOutcome at hp
  cases hbs : DevicePath.ofBytes bs with
  | error fault => rw [hbs] at hp; cases hp
  | ok p => rw [hbs] at hp; cases hp; rfl

/-! ## The slot of a path -/

theorem slotOf?_optical {d : Device α} (hd : ctx.deviceAt? ⟨.optical, 0⟩ = some d) :
    ctx.slotOf? d.path = some ⟨.optical, 0⟩ := by
  have hd : ctx.drives.opticals.get? 0 = some d := hd
  have hsame : d.path.same d.path = true := DevicePath.same_iff.2 rfl
  rw [slotOf?, hd, Option.any_some, if_pos hsame]

/-- Only the first optical drive is asked before the hard disks and floppies. -/
theorem slotOf?_of_not_first_optical (ho : ∀ d, ctx.deviceAt? ⟨.optical, 0⟩ = some d → d.path ≠ path) :
    ctx.slotOf? path = ((ctx.drives.hardDisks.positionOf? path).map (Slot.mk .hardDisk)).or
      ((ctx.drives.floppies.positionOf? path).map (Slot.mk .floppy)) := by
  unfold slotOf?
  rw [if_neg]
  intro h
  cases hd : ctx.drives.opticals.get? 0 with
  | none =>
    rw [hd] at h
    cases h
  | some d =>
    rw [hd, Option.any_some, DevicePath.same_iff] at h
    exact ho d hd h

theorem slotOf?_of_no_optical (ho : ∀ d ∈ ctx.drives.opticals.devices, d.path ≠ path) :
    ctx.slotOf? path = ((ctx.drives.hardDisks.positionOf? path).map (Slot.mk .hardDisk)).or
      ((ctx.drives.floppies.positionOf? path).map (Slot.mk .floppy)) :=
  slotOf?_of_not_first_optical fun d hd => ho d (Roster.mem_of_get? hd)

theorem slotOf?_hardDisk {d : Device α} (hs : ctx.drives.hardDisks.Sorted)
    (hd : ctx.deviceAt? ⟨.hardDisk, i⟩ = some d) (ho : ∀ e ∈ ctx.drives.opticals.devices, e.path ≠ d.path) :
    ctx.slotOf? d.path = some ⟨.hardDisk, i⟩ := by
  rw [slotOf?_of_no_optical ho, hs.positionOf?_path hd]
  rfl

theorem slotOf?_floppy {d : Device α} (hs : ctx.drives.floppies.Sorted) (hd : ctx.deviceAt? ⟨.floppy, i⟩ = some d)
    (ho : ∀ e ∈ ctx.drives.opticals.devices, e.path ≠ d.path)
    (hh : ∀ e ∈ ctx.drives.hardDisks.devices, e.path ≠ d.path) : ctx.slotOf? d.path = some ⟨.floppy, i⟩ := by
  rw [slotOf?_of_no_optical ho, Roster.positionOf?_eq_none.2 hh, hs.positionOf?_path hd]
  rfl

theorem slotOf?_eq_none (h : ∀ kind, ∀ d ∈ (ctx.drives.roster kind).devices, d.path ≠ path) :
    ctx.slotOf? path = none := by
  have ho : ∀ d ∈ ctx.drives.opticals.devices, d.path ≠ path := h .optical
  have hh : ∀ d ∈ ctx.drives.hardDisks.devices, d.path ≠ path := h .hardDisk
  have hf : ∀ d ∈ ctx.drives.floppies.devices, d.path ≠ path := h .floppy
  rw [slotOf?_of_no_optical ho, Roster.positionOf?_eq_none.2 hh, Roster.positionOf?_eq_none.2 hf]
  rfl

/-! ## Among the partitions of all disks -/

variable {devices : List (Device α)} {c : Device α} {x : Extent}

theorem of_partitionAmong? (h : ctx.partitionAmong? devices path = some (i, x)) :
    ∃ disk child, ctx.deviceAt? ⟨.hardDisk, i⟩ = some disk ∧ child ∈ devices ∧ child.isChildOf disk = true ∧
      child.path = path ∧ Extent.ofNode? child.leaf = some x := by
  obtain ⟨⟨disk, j⟩, hmem, hfound⟩ := List.exists_of_findSome?_eq_some h
  obtain ⟨child, hchild, hfound⟩ := Option.bind_eq_some_iff.1 hfound
  obtain ⟨y, hy, hfound⟩ := Option.bind_eq_some_iff.1 hfound
  cases hfound
  obtain ⟨hin, hparent, htest⟩ := Device.findChild?_eq_some hchild
  rw [Bool.and_eq_true, DevicePath.same_iff] at htest
  exact ⟨disk, child, List.mem_zipIdx_iff_getElem?.1 hmem, hin, hparent, htest.1, hy⟩

/-- **A child of a listed disk is found under that disk**, whichever other disks are asked before: a path has one
parent, and a sorted roster lists it once. -/
theorem partitionAmong?_of_child (hs : ctx.drives.hardDisks.Sorted) (hd : ctx.deviceAt? ⟨.hardDisk, i⟩ = some disk)
    (hc : c ∈ devices) (hp : c.isChildOf disk = true) (hx : Extent.ofNode? c.leaf = some x) :
    ctx.partitionAmong? devices c.path = some (i, x) := by
  let test : Device α → Bool := fun d => d.path.same c.path && (Node.HardDrive.ofNode? d.leaf).isSome
  have htest : test c = true := by
    rw [Bool.and_eq_true, DevicePath.same_iff, ← Extent.isSome_ofNode?, hx]
    exact ⟨rfl, rfl⟩
  obtain ⟨c', hc'⟩ := Device.exists_findChild? hc hp htest
  have hx' : Extent.ofNode? c'.leaf = some x := by
    have ht := (Device.findChild?_eq_some hc').2.2
    rw [Bool.and_eq_true, DevicePath.same_iff] at ht
    rw [Device.leaf_eq_of_path_eq ht.1, hx]
  have hsome : (ctx.partitionAmong? devices c.path).isSome = true := by
    rw [partitionAmong?, List.findSome?_isSome_iff]
    refine ⟨(disk, i), List.mem_zipIdx_iff_getElem?.2 hd, ?_⟩
    simp only [test] at hc'
    simp only [hc', hx', Option.bind_eq_bind, Option.bind_some, Option.pure_def, Option.isSome_some]
  obtain ⟨⟨j, y⟩, hj⟩ := Option.isSome_iff_exists.1 hsome
  obtain ⟨disk', c', hd', -, hp', hpath, hy⟩ := of_partitionAmong? hj
  have hij : j = i := hs.eq_of_path_eq hd' hd (Device.path_eq_of_isChildOf hp' hp hpath)
  rw [Device.leaf_eq_of_path_eq hpath, hx] at hy
  rw [hj, hij, Option.some.inj hy]

end Context
end DriveMap
