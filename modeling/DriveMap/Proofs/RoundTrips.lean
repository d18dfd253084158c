import DriveMap.Machine.Board
import DriveMap.Machine.Table
import DriveMap.Node.Bus
import DriveMap.Proofs.DriveNumbers
import DriveMap.Proofs.Lookups
/-!
# From handles to pairs and back

The two lookups are separate searches.  From a handle the path is cut and looked for in the rosters, then under every
hard disk, and the table is walked by extent; from a pair the slot is read off the number, the table is walked by
partition number, and the disk's children are searched for the extent.  They agree because a path has one parent, a
roster lists a path once, and a partition's leaf is no drive's.
-/
namespace DriveMap

/-- The device's path is the disk's path and one hard drive node more, which tells the extent `x`. -/
def Device.IsPartitionOf {α : Type} (c disk : Device α) (x : Extent) : Prop :=
  ∃ n, c.path.nodes = disk.path.nodes ++ [n] ∧ Extent.ofNode? n = some x

theorem Device.isPartitionOf_iff {α : Type} {c disk : Device α} {x : Extent} :
    c.IsPartitionOf disk x ↔ c.isChildOf disk = true ∧ Extent.ofNode? c.leaf = some x := by
  rw [isChildOf_iff]
  constructor
  · rintro ⟨n, hn, hx⟩
    have hleaf : c.leaf = n := by
      unfold leaf
      simp only [hn, List.getLast_concat]
    rw [hleaf]
    exact ⟨hn, hx⟩
  · rintro ⟨hn, hx⟩
    exact ⟨c.leaf, hn, hx⟩

/-! A machine to see it on, with a floppy drive, a hard disk of one partition and an optical drive. -/
namespace Sample

def floppy : Node := ⟨.acpi, (Node.Acpi.spec ⟨0x060441d0, 0⟩).payload, by decide⟩

def disk : Node := ⟨.sata, (Node.Sata.spec ⟨0, 0xffff, 0⟩).payload, by decide⟩

def optical : Node := ⟨.sata, (Node.Sata.spec ⟨1, 0xffff, 0⟩).payload, by decide⟩

def partition : Node :=
  ⟨.hardDrive, (Node.HardDrive.spec ⟨1, 63, 2048, ⟨List.replicate 16 0, by decide⟩, 1, 0⟩).payload, by decide⟩

def partitionHandle : Handle := ⟨0x1000, by decide⟩

def board : Machine.Board where
  entries :=
    [⟨⟨0x4000, by decide⟩, some (DevicePath.mk [floppy] (by decide)).bytes, some ⟨0, false, 512, 2879⟩, some 0,
        true, true, true, true⟩,
      ⟨partitionHandle, some (DevicePath.mk [disk, partition] (by decide)).bytes, some ⟨0, false, 512, 2047⟩, some 1,
        true, true, true, true⟩,
      ⟨⟨0x2000, by decide⟩, some (DevicePath.mk [disk] (by decide)).bytes, some ⟨0, false, 512, 4095⟩, some 1,
        true, true, true, true⟩,
      ⟨⟨0x3000, by decide⟩, some (DevicePath.mk [optical] (by decide)).bytes, some ⟨0, true, 2048, 999⟩, some 2,
        true, true, true, true⟩]
  locate := .success

def context : Context Nat := .init board.firmware {}

def walker : Walker := Machine.Table.walker [⟨0x80, [⟨1, 7, ⟨63, 2048⟩⟩], none, .success⟩]

end Sample

namespace Context

variable {α : Type} {fw : Firmware α} {config : Config} {w : Walker} {drive partition : UInt32} {h : Handle} {i : Nat}

/-- **A partition's leaf is no drive's.** -/
theorem slotOf?_eq_none_of_extent {c : Device α} {x : Extent} (hx : Extent.ofNode? c.leaf = some x) :
    (init fw config).slotOf? c.path = none := by
  refine slotOf?_eq_none fun kind d hd hpath => ?_
  refine (init_wellPlaced fw config).leaf_ne_hardDrive hd ?_
  rw [Device.leaf_eq_of_path_eq hpath, Extent.nodeType_of_ofNode? hx]

/-! ## Partitions, the handle first -/

/-- **The pair that a partition's handle is answered with leads back to that partition**: to the first device that is
the same part of the same disk, and to the handle itself if there is no other. -/
theorem handleFor_of_pairForHandle (hcount : (init fw config).drives.hardDisks.size ≤ 0x80)
    (hclear : config.OpticalOutside 0x80 (init fw config).drives.hardDisks.size)
    (hindices : ((w.listing drive).used.map PartitionEntry.index).Nodup)
    (hpair : ((init fw config).pairForHandle fw w h).outcome = .ok (drive, partition))
    (hpart : partition ≠ wholeDisk) :
    ∃ survey disk bs path leaf x child, fw.survey = .ok survey ∧ (init fw config).device? drive = some disk ∧
      fw.pathBytes? h = some bs ∧ DevicePath.ofBytes bs = .ok path ∧
      (path.truncateAt .cdRom).leaf? = some leaf ∧ Extent.ofNode? leaf = some x ∧
      child ∈ survey.devices ∧ child.IsPartitionOf disk x ∧
      ((init fw config).handleFor fw w drive partition).outcome = .ok child.handle ∧
      ((∀ d ∈ survey.devices, d.IsPartitionOf disk x → d.handle = h) → child.handle = h) := by
  obtain ⟨bs, path, hbs, hpath, hok⟩ := of_pairForHandle hpair
  have hnone := slotOf?_eq_none_of_ok hok hpart
  obtain ⟨survey, i, x, entry, hsurvey, hamong, hnumber, hentry, rfl⟩ := (pairForPath_partition hnone).1 hok
  obtain ⟨disk, first, hdisk, hfirst, hparent, hcut, hx⟩ := of_partitionAmong? hamong
  rw [init_config] at hnumber
  -- the number is read as the disk's slot, so the second search starts at the same disk
  have hslot := Slot.ofNumber?_of_hardDisk hnumber (Roster.lt_size_of_get? hdisk) hcount hclear
  have hslot' : Slot.ofNumber? (init fw config).config drive = some ⟨.hardDisk, i⟩ := by rw [init_config, hslot]
  -- and the walk by number stops where the walk by extent did
  obtain ⟨hmem, hused, hextent⟩ := Walker.of_found_byExtent hentry
  have hentry' := Walker.found_byIndex hindices hmem hused
  have htest : (Extent.ofNode? first.leaf == some entry.extent) = true := by
    rw [hx, hextent]
    exact beq_self_eq_true _
  obtain ⟨child, hchild⟩ : ∃ c, disk.findChild? survey.devices (fun d => Extent.ofNode? d.leaf == some entry.extent) =
      some c := Device.exists_findChild? hfirst hparent htest
  have hhandle := (handleFor_partition hslot' hpart).2
    ⟨disk, entry, survey, child, hdisk, hentry', hsurvey, hchild, rfl⟩
  obtain ⟨hin, hchildOf, hextent'⟩ := Device.findChild?_eq_some hchild
  rw [beq_iff_eq, hextent] at hextent'
  have hpartOf : child.IsPartitionOf disk x := Device.isPartitionOf_iff.2 ⟨hchildOf, hextent'⟩
  refine ⟨survey, disk, bs, path, first.leaf, x, child, hsurvey, ?_, hbs, hpath, ?_, hx, hin, hpartOf, hhandle,
    fun honly => honly child hin hpartOf⟩
  · rw [device?_of_slot hslot', hdisk]
  · rw [← hcut, Device.leaf?_path]

theorem handleFor_of_pairForHandle_on_sample :
    (Sample.context.pairForHandle Sample.board.firmware Sample.walker Sample.partitionHandle).outcome = .ok (0x80, 1) ∧
    ∃ survey disk x child, Sample.board.firmware.survey = .ok survey ∧
      Sample.context.device? 0x80 = some disk ∧ child ∈ survey.devices ∧ child.IsPartitionOf disk x ∧
      (Sample.context.handleFor Sample.board.firmware Sample.walker 0x80 1).outcome = .ok child.handle := by
  have hpair : (Sample.context.pairForHandle Sample.board.firmware Sample.walker Sample.partitionHandle).outcome =
      .ok (0x80, 1) := by cbv
  obtain ⟨survey, disk, -, -, -, x, child, hsurvey, hdisk, -, -, -, -, hin, hpartOf, hhandle, -⟩ :=
    handleFor_of_pairForHandle (by decide +kernel) (by decide +kernel) (by decide +kernel) hpair (by decide)
  exact ⟨hpair, survey, disk, x, child, hsurvey, hdisk, hin, hpartOf, hhandle⟩

/-! ## Partitions, the pair first -/

/-- **The handle that a pair is answered with leads back to the pair.** -/
theorem pairForHandle_of_handleFor (hslot : Slot.ofNumber? config drive = some ⟨.hardDisk, i⟩)
    (hpart : partition ≠ wholeDisk) (hextents : ((w.listing drive).used.map PartitionEntry.extent).Nodup)
    (hplain : ∀ disk, (init fw config).device? drive = some disk → ∀ n ∈ disk.path.nodes, n.nodeType ≠ .cdRom)
    (hhandle : ((init fw config).handleFor fw w drive partition).outcome = .ok h) :
    ((init fw config).pairForHandle fw w h).outcome = .ok (drive, partition) := by
  have hslot' : Slot.ofNumber? (init fw config).config drive = some ⟨.hardDisk, i⟩ := by rw [init_config, hslot]
  obtain ⟨disk, entry, survey, child, hdisk, hentry, hsurvey, hchild, rfl⟩ :=
    (handleFor_partition hslot' hpart).1 hhandle
  obtain ⟨hin, hparent, htest⟩ := Device.findChild?_eq_some hchild
  have hx : Extent.ofNode? child.leaf = some entry.extent := beq_iff_eq.1 htest
  obtain ⟨-, bs, hbs, hpath⟩ := Firmware.examine_eq_ok (Firmware.examine_of_mem_devices hsurvey hin)
  -- no node of the child's path is a CD-ROM node: neither one of the disk's nor the hard drive node
  have hcut : child.path.truncateAt .cdRom = child.path := by
    refine DevicePath.truncateAt_eq_self fun n hn => ?_
    rw [Device.isChildOf_iff.1 hparent, List.mem_append, List.mem_singleton] at hn
    rcases hn with hn | rfl
    · exact hplain disk (by rw [device?_of_slot hslot', hdisk]) n hn
    · rw [Extent.nodeType_of_ofNode? hx]
      decide
  have hnone : (init fw config).slotOf? (child.path.truncateAt .cdRom) = none := by
    rw [hcut]
    exact slotOf?_eq_none_of_extent hx
  have hamong : (init fw config).partitionAmong? survey.devices (child.path.truncateAt .cdRom) =
      some (i, entry.extent) := by
    rw [hcut]
    exact partitionAmong?_of_child ((init_wellPlaced fw config).sorted .hardDisk) hdisk hin hparent hx
  have hnumber : Slot.number? (init fw config).config ⟨.hardDisk, i⟩ = some drive :=
    Slot.number?_hardDisk.2 (Slot.ofNumber?_hardDisk.1 hslot').2.2.2
  obtain ⟨hmem, hused, hindex⟩ := Walker.of_found_byIndex hentry
  have hentry' := Walker.found_byExtent hextents hmem hused
  rw [pairForHandle_of_path hbs hpath]
  exact (pairForPath_partition hnone).2 ⟨survey, i, _, entry, hsurvey, hamong, hnumber, hentry', hindex⟩

theorem pairForHandle_of_handleFor_on_sample :
    (Sample.context.handleFor Sample.board.firmware Sample.walker 0x80 1).outcome = .ok Sample.partitionHandle ∧
    (Sample.context.pairForHandle Sample.board.firmware Sample.walker Sample.partitionHandle).outcome =
      .ok (0x80, 1) := by
  have hhandle : (Sample.context.handleFor Sample.board.firmware Sample.walker 0x80 1).outcome =
      .ok Sample.partitionHandle := by cbv
  have hplain : ∀ disk, Sample.context.device? 0x80 = some disk →
      ∀ n ∈ disk.path.nodes, n.nodeType ≠ .cdRom := by
    intro disk hdisk
    have hnodes : (Sample.context.device? 0x80).map (fun d => d.path.nodes) = some [Sample.disk] := by
      decide +kernel
    rw [hdisk, Option.map_some, Option.some.injEq] at hnodes
    rw [hnodes]
    decide
  exact ⟨hhandle, pairForHandle_of_handleFor (i := 0) (by decide) (by decide) (by decide +kernel) hplain hhandle⟩

/-! ## Whole drives -/

/-- What keeps apart the numbers of the drives, and the paths by which they are found. -/
structure Apart (ctx : Context α) : Prop where
  floppies_le : ctx.drives.floppies.size ≤ 0x20
  hardDisks_le : ctx.drives.hardDisks.size ≤ 0x80
  not_reserved : ctx.config.opticalDrive ≠ invalidDrive ∧ ctx.config.opticalDrive ≠ networkDrive
  not_floppy : ctx.config.OpticalOutside 0 ctx.drives.floppies.size
  not_hardDisk : ctx.config.OpticalOutside 0x80 ctx.drives.hardDisks.size
  plain : ∀ kind, ∀ d ∈ (ctx.drives.roster kind).devices, ∀ n ∈ d.path.nodes, n.nodeType ≠ .cdRom
  path_ne : ∀ d ∈ ctx.drives.hardDisks.devices, ∀ e ∈ ctx.drives.opticals.devices, d.path ≠ e.path

variable {slot : Slot} {d : Device α}

theorem Apart.exists_number? {ctx : Context α} (ha : ctx.Apart) (hd : ctx.deviceAt? slot = some d)
    (hfirst : slot.kind = .optical → slot.index = 0) :
    ∃ n, slot.number? ctx.config = some n ∧ Slot.ofNumber? ctx.config n = some slot := by
  have hi : slot.index < (ctx.drives.roster slot.kind).size := Roster.lt_size_of_get? hd
  obtain ⟨kind, i⟩ := slot
  cases kind with
  | floppy => exact Slot.exists_number?_floppy hi ha.floppies_le ha.not_floppy
  | hardDisk => exact Slot.exists_number?_hardDisk hi ha.hardDisks_le ha.not_hardDisk
  | optical =>
    obtain rfl : i = 0 := hfirst rfl
    exact Slot.exists_number?_optical ha.not_reserved

/-- A listed drive's path is found in the drive's own slot, for all that other rosters are asked before.  Only a hard
disk's may be an optical drive's too. -/
theorem slotOf?_path {ctx : Context α} {P : Device α → Prop} (hw : ctx.drives.WellPlaced P)
    (hd : ctx.deviceAt? slot = some d) (hfirst : slot.kind = .optical → slot.index = 0)
    (hone : slot.kind = .hardDisk → ∀ e ∈ ctx.drives.opticals.devices, e.path ≠ d.path) :
    ctx.slotOf? d.path = some slot := by
  have hmem := mem_roster hd
  obtain ⟨kind, i⟩ := slot
  cases kind with
  | floppy =>
    refine slotOf?_floppy (hw.sorted .floppy) hd (fun e he hpath => ?_) (fun e he hpath => ?_)
    · have hcategory : DriveKind.optical.category = DriveKind.floppy.category := hw.category_eq he hmem hpath
      cases hcategory
    · have hcategory : DriveKind.hardDisk.category = DriveKind.floppy.category := hw.category_eq he hmem hpath
      cases hcategory
  | hardDisk => exact slotOf?_hardDisk (hw.sorted .hardDisk) hd (hone rfl)
  | optical =>
    obtain rfl : i = 0 := hfirst rfl
    exact slotOf?_optical hd

theorem Apart.slotOf?_path {ctx : Context α} {P : Device α → Prop} (ha : ctx.Apart) (hw : ctx.drives.WellPlaced P)
    (hd : ctx.deviceAt? slot = some d) (hfirst : slot.kind = .optical → slot.index = 0) :
    ctx.slotOf? d.path = some slot := by
  have hmem := mem_roster hd
  refine Context.slotOf?_path hw hd hfirst fun hkind e he hpath => ?_
  rw [hkind] at hmem
  exact ha.path_ne d hmem e he hpath.symm

/-- **Every listed drive but the later optical ones has exactly one number**, which leads to its handle and back.  The
walker is not called for it, and whatever firmware says now it is asked for the path only. -/
theorem existsUnique_drive (ha : (init fw config).Apart) (hd : (init fw config).deviceAt? slot = some d)
    (hfirst : slot.kind = .optical → slot.index = 0) :
    ∃ drive, (∀ n, (init fw config).device? n = some d ↔ n = drive) ∧ ∀ (now : Firmware α) (w : Walker),
      (init fw config).handleFor now w drive wholeDisk = ⟨.ok d.handle, 0, []⟩ ∧
      (now.pathBytes? d.handle = fw.pathBytes? d.handle →
        (init fw config).pairForHandle now w d.handle = ⟨.ok (drive, wholeDisk), 0, []⟩) := by
  have hw := init_wellPlaced fw config
  obtain ⟨drive, hnumber, hslot⟩ := ha.exists_number? hd hfirst
  refine ⟨drive, fun n => ⟨fun hn => ?_, ?_⟩, fun now w => ⟨handleFor_whole hslot hd (.inr rfl), fun hsame => ?_⟩⟩
  · obtain ⟨slot', hslot', hd'⟩ := Option.bind_eq_some_iff.1 hn
    rw [slot_eq_of_deviceAt? hw hd' hd] at hslot'
    exact Slot.ofNumber?_inj hslot' hslot
  · rintro rfl
    rw [device?_of_slot hslot, hd]
  · have hmem := mem_roster hd
    obtain ⟨-, bs, hbs, hpath⟩ := Firmware.examine_eq_ok (hw.holds slot.kind d hmem)
    have hcut : d.path.truncateAt .cdRom = d.path := DevicePath.truncateAt_eq_self (ha.plain slot.kind d hmem)
    rw [pairForHandle_of_path (hsame.trans hbs) hpath]
    exact pairForPath_slot (by rw [hcut, ha.slotOf?_path hw hd hfirst]) hnumber

theorem existsUnique_drive_on_sample : ∃ d drive, Sample.context.deviceAt? ⟨.optical, 0⟩ = some d ∧
    (∀ n, Sample.context.device? n = some d ↔ n = drive) ∧ ∀ (now : Firmware Nat) (w : Walker),
      Sample.context.handleFor now w drive wholeDisk = ⟨.ok d.handle, 0, []⟩ ∧
      (now.pathBytes? d.handle = Sample.board.firmware.pathBytes? d.handle →
        Sample.context.pairForHandle now w d.handle = ⟨.ok (drive, wholeDisk), 0, []⟩) := by
  have hapart : Sample.context.Apart := by
    constructor
    case plain =>
      intro kind
      cases kind <;> decide +kernel
    all_goals decide +kernel
  have hsome : (Sample.context.deviceAt? ⟨.optical, 0⟩).isSome = true := by decide +kernel
  obtain ⟨d, hd⟩ := Option.isSome_iff_exists.1 hsome
  obtain ⟨drive, hdrive⟩ := existsUnique_drive hapart hd fun _ => rfl
  exact ⟨d, drive, hd, hdrive⟩

end Context
end DriveMap
