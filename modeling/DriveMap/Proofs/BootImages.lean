import DriveMap.Proofs.PathAnswers
/-!
# Boot images

Firmware that boots from an optical drive gives the image it starts a path of its own: the drive's, a CD-ROM node, and
what is inside the image.  Such a path stands for the drive.  That is so of every listed drive and whatever comes behind
the first CD-ROM node, since a path is looked up by what comes before it (`Context.pairForPath_of_image`).
-/
namespace DriveMap

namespace DevicePath

/-- The path is that of a drive, which has no CD-ROM node, and behind it a CD-ROM node and any others. -/
structure IsImageOn (path drive : DevicePath) : Prop where
  plain : ∀ n ∈ drive.nodes, n.nodeType ≠ .cdRom
  image : ∃ n rest, path.nodes = drive.nodes ++ n :: rest ∧ n.nodeType = .cdRom

theorem IsImageOn.truncateAt_eq {path drive : DevicePath} (h : path.IsImageOn drive) :
    path.truncateAt .cdRom = drive := by
  obtain ⟨n, rest, hnodes, hn⟩ := h.image
  refine ext_nodes ?_
  change path.nodes.takeWhile (fun n => n.nodeType != .cdRom) = drive.nodes
  rw [hnodes, List.takeWhile_append_of_pos fun m hm => bne_iff_ne.2 (h.plain m hm),
    List.takeWhile_cons_of_neg (by simp [hn]), List.append_nil]

end DevicePath

namespace Context

variable {α : Type} {ctx : Context α} {P : Device α → Prop} {fw : Firmware α} {w : Walker} {survey : Survey α}
  {path : DevicePath} {slot : Slot} {d : Device α} {drive : UInt32} {i : Nat}

theorem pairForPath_congr {path' : DevicePath} (h : path.truncateAt .cdRom = path'.truncateAt .cdRom) :
    ctx.pairForPath fw w path = ctx.pairForPath fw w path' := by
  rw [pairForPath_eq, pairForPath_eq, h]

theorem pairForPath_of_no_partition (hs : ctx.slotOf? (path.truncateAt .cdRom) = none) (hf : fw.survey = .ok survey)
    (hp : ctx.partitionAmong? survey.devices (path.truncateAt .cdRom) = none) :
    ctx.pairForPath fw w path = ⟨.error .notFound, 0, survey.log⟩ := by
  rw [pairForPath_eq]
  simp only [hs, hf, Resolution.devicesOf_ok_bind, hp, Resolution.require_none_bind, List.append_nil]

/-- No listed drive is taken for a partition. -/
theorem partitionAmong?_path {devices : List (Device α)} (hw : ctx.drives.WellPlaced P)
    (hd : ctx.deviceAt? slot = some d) : ctx.partitionAmong? devices d.path = none := by
  refine Option.eq_none_iff_forall_ne_some.2 fun (i, x) h => ?_
  obtain ⟨_, child, -, -, -, hpath, hx⟩ := of_partitionAmong? h
  rw [Device.leaf_eq_of_path_eq hpath] at hx
  exact hw.leaf_ne_hardDrive (mem_roster hd) (Extent.nodeType_of_ofNode? hx)

/-- The path is one of the hard disks' and one of the optical drives' at once. -/
def PathShared (ctx : Context α) (path : DevicePath) : Prop :=
  (∃ e ∈ ctx.drives.hardDisks.devices, e.path = path) ∧ ∃ e ∈ ctx.drives.opticals.devices, e.path = path

theorem slotOf?_of_later_optical (hw : ctx.drives.WellPlaced P) (hd : ctx.deviceAt? ⟨.optical, i⟩ = some d)
    (hi : 0 < i) (hone : ¬ctx.PathShared d.path) : ctx.slotOf? d.path = none := by
  -- of the optical drives only the first is asked, and no floppy ends as an optical drive does
  have hfirst : ∀ e, ctx.deviceAt? ⟨.optical, 0⟩ = some e → e.path ≠ d.path := fun e he hpath =>
    hi.ne ((hw.sorted .optical).eq_of_path_eq he hd hpath)
  have hdisk : ∀ e ∈ ctx.drives.hardDisks.devices, e.path ≠ d.path := fun e he hpath =>
    hone ⟨⟨e, he, hpath⟩, d, mem_roster hd, rfl⟩
  have hfloppy : ∀ e ∈ ctx.drives.floppies.devices, e.path ≠ d.path := fun e he hpath => by
    have hcategory : DriveKind.floppy.category = DriveKind.optical.category :=
      hw.category_eq he (mem_roster hd) hpath
    cases hcategory
  rw [slotOf?_of_not_first_optical hfirst, Roster.positionOf?_eq_none.2 hdisk, Roster.positionOf?_eq_none.2 hfloppy]
  rfl

/-! ## Images on the drives of a context -/

theorem pairForPath_image (hw : ctx.drives.WellPlaced P) (hd : ctx.deviceAt? slot = some d)
    (hone : ¬ctx.PathShared d.path) (himage : path.IsImageOn d.path)
    (hfirst : slot.kind = .optical → slot.index = 0) (hn : slot.number? ctx.config = some drive) :
    ctx.pairForPath fw w path = ⟨.ok (drive, wholeDisk), 0, []⟩ := by
  have hmem := mem_roster hd
  refine pairForPath_slot ?_ hn
  rw [himage.truncateAt_eq]
  refine slotOf?_path hw hd hfirst fun hkind e he hpath => ?_
  rw [hkind] at hmem
  exact hone ⟨⟨d, hmem, rfl⟩, e, he, hpath⟩

theorem pairForPath_image_of_later_optical (hw : ctx.drives.WellPlaced P)
    (hd : ctx.deviceAt? ⟨.optical, i⟩ = some d) (hi : 0 < i) (hone : ¬ctx.PathShared d.path)
    (himage : path.IsImageOn d.path) (hf : fw.survey = .ok survey) :
    ctx.pairForPath fw w path = ⟨.error .notFound, 0, survey.log⟩ := by
  refine pairForPath_of_no_partition ?_ hf ?_ <;> rw [himage.truncateAt_eq]
  · exact slotOf?_of_later_optical hw hd hi hone
  · exact partitionAmong?_path hw hd

variable {fw₀ : Firmware α} {config : Config}

/-- **A boot image stands for the drive it is on.**  Its path is answered as the drive's is: for the first optical
drive, for a hard disk and for a floppy that has a number, by that number and all of the drive, without a look at
firmware or tables; for a later optical drive by a refusal, if firmware can be asked.  Only a path that a hard disk
shares with an optical drive is left out. -/
theorem pairForPath_of_image (hcount : (init fw₀ config).drives.hardDisks.size ≤ UInt32.size - 0x80)
    (hd : (init fw₀ config).deviceAt? slot = some d) (hone : ¬(init fw₀ config).PathShared d.path)
    (himage : path.IsImageOn d.path) (fw : Firmware α) (w : Walker) :
    (init fw₀ config).pairForPath fw w path = (init fw₀ config).pairForPath fw w d.path ∧
    (slot = ⟨.optical, 0⟩ →
      (init fw₀ config).pairForPath fw w path = ⟨.ok (config.opticalDrive, wholeDisk), 0, []⟩) ∧
    (slot.kind = .hardDisk → ∃ drive : UInt32, drive.toNat = 0x80 + slot.index ∧
      (init fw₀ config).pairForPath fw w path = ⟨.ok (drive, wholeDisk), 0, []⟩) ∧
    (slot.kind = .floppy → slot.index < 0x80 → ∃ drive : UInt32, drive.toNat = slot.index ∧
      (init fw₀ config).pairForPath fw w path = ⟨.ok (drive, wholeDisk), 0, []⟩) ∧
    (slot.kind = .optical → 0 < slot.index → ∀ survey, fw.survey = .ok survey →
      (init fw₀ config).pairForPath fw w path = ⟨.error .notFound, 0, survey.log⟩) := by
  have hw := init_wellPlaced fw₀ config
  obtain ⟨kind, i⟩ := slot
  refine ⟨pairForPath_congr ?_, fun h => ?_, fun h => ?_, fun h hi => ?_, fun h hi survey hf => ?_⟩
  · rw [himage.truncateAt_eq, DevicePath.truncateAt_eq_self himage.plain]
  · cases h
    exact pairForPath_image hw hd hone himage (fun _ => rfl) (by rw [init_config]; rfl)
  · obtain rfl : kind = .hardDisk := h
    obtain ⟨drive, hdrive⟩ := exists_drive_of_lt hcount (Roster.lt_size_of_get? hd)
    exact ⟨drive, hdrive, pairForPath_image hw hd hone himage nofun (Slot.number?_hardDisk.2 hdrive)⟩
  · obtain rfl : kind = .floppy := h
    have hdrive : (UInt32.ofNat i).toNat = i := UInt32.toNat_ofNat_of_lt (Nat.lt_trans hi (by decide))
    exact ⟨_, hdrive, pairForPath_image hw hd hone himage nofun (Slot.number?_floppy.2 ⟨hi, hdrive⟩)⟩
  · obtain rfl : kind = .optical := h
    exact pairForPath_image_of_later_optical hw hd hi hone himage hf

/-- Behind the first CD-ROM node, which holds less than one has to, come a partition and another CD-ROM node. -/
theorem pairForPath_of_image_on_sample :
    let image : Node := ⟨.cdRom, [0], by decide⟩
    let path := DevicePath.mk [Sample.optical, image, Sample.partition, image] (by decide)
    Sample.context.drives.hardDisks.size ≤ UInt32.size - 0x80 ∧
    ∃ d, Sample.context.deviceAt? ⟨.optical, 0⟩ = some d ∧ ¬Sample.context.PathShared d.path ∧
      path.IsImageOn d.path ∧
      Sample.context.pairForPath Sample.board.firmware Sample.walker path = ⟨.ok (0xe0, wholeDisk), 0, []⟩ := by
  intro image path
  have hcount : Sample.context.drives.hardDisks.size ≤ UInt32.size - 0x80 := by decide +kernel
  have hat : (Sample.context.deviceAt? ⟨.optical, 0⟩).map (fun d => d.path.nodes) = some [Sample.optical] := by
    decide +kernel
  have hdisks : ∀ e ∈ Sample.context.drives.hardDisks.devices, e.path.nodes ≠ [Sample.optical] := by decide +kernel
  obtain ⟨d, hd, hnodes⟩ := Option.map_eq_some_iff.1 hat
  have hone : ¬Sample.context.PathShared d.path := by
    rintro ⟨⟨e, he, hpath⟩, -⟩
    exact hdisks e he (by rw [hpath, hnodes])
  have himage : path.IsImageOn d.path := by
    refine ⟨?_, image, [Sample.partition, image], by rw [hnodes]; rfl, rfl⟩
    rw [hnodes]
    decide
  exact ⟨hcount, d, hd, hone, himage, (pairForPath_of_image hcount hd hone himage _ _).2.1 rfl⟩

end Context
end DriveMap
