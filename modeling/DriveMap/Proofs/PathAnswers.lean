import DriveMap.Proofs.RoundTrips
/-!
# What a path is answered with

`Context.Answers` says, without a search, what the nodes of a cut path stand for: a listed drive, a partition of the one
disk that they extend, or nothing.  `Context.pairForPath` asks the rosters in turn, then every disk for a child among
the devices, then the table; it ends in that answer and in no other (`Context.outcome_pairForPath_iff`), because a
roster lists a path once and a path has one parent.
-/
namespace DriveMap

namespace Context

open Resolution

variable {α : Type}

/-! ## The answers -/

/-- The drive in the slot has the path with nodes `T`. -/
def HasDrive (ctx : Context α) (slot : Slot) (T : List Node) : Prop :=
  ∃ d, ctx.deviceAt? slot = some d ∧ d.path.nodes = T

/-- `T` is the path of no drive that a path is looked up among: later optical drives are not. -/
structure Unlisted (ctx : Context α) (T : List Node) : Prop where
  optical : ¬ ctx.HasDrive ⟨.optical, 0⟩ T
  hardDisk : ∀ i, ¬ ctx.HasDrive ⟨.hardDisk, i⟩ T
  floppy : ∀ i, ¬ ctx.HasDrive ⟨.floppy, i⟩ T

/-- Hard disk `i` is the one listed disk that `T` extends by a node; that node is the hard drive node `node`, and one of
the devices has the path. -/
structure IsPartition (ctx : Context α) (devices : List (Device α)) (T : List Node) (i : Nat) (node : Node.HardDrive) :
    Prop where
  parent : ∃ disk n, ctx.deviceAt? ⟨.hardDisk, i⟩ = some disk ∧ T = disk.path.nodes ++ [n] ∧
    Node.HardDrive.ofNode? n = some node
  only : ∀ j disk n, ctx.deviceAt? ⟨.hardDisk, j⟩ = some disk → T = disk.path.nodes ++ [n] → j = i
  present : ∃ d ∈ devices, d.path.nodes = T

/-- The first used entry of a listing with the extent that the node tells. -/
def entryOf? (listing : Listing) (node : Node.HardDrive) : Option PartitionEntry :=
  listing.entries.find? fun e => e.kind != 0 && e.extent == ⟨node.start, node.size⟩

/-- What the path with nodes `T` is answered with, now that firmware is `fw`. -/
inductive Answers (ctx : Context α) (fw : Firmware α) (w : Walker) (T : List Node) : Outcome (UInt32 × UInt32) → Prop
  -- a listed drive; a kind that is asked later answers only if the earlier ones do not
  | optical : ctx.HasDrive ⟨.optical, 0⟩ T → Answers ctx fw w T (.ok (ctx.config.opticalDrive, wholeDisk))
  | hardDisk (i : Nat) (drive : UInt32) : ¬ ctx.HasDrive ⟨.optical, 0⟩ T → ctx.HasDrive ⟨.hardDisk, i⟩ T →
      drive.toNat = 0x80 + i → Answers ctx fw w T (.ok (drive, wholeDisk))
  | floppy (i : Nat) (drive : UInt32) : ¬ ctx.HasDrive ⟨.optical, 0⟩ T → (∀ j, ¬ ctx.HasDrive ⟨.hardDisk, j⟩ T) →
      ctx.HasDrive ⟨.floppy, i⟩ T → i < 0x80 → drive.toNat = i → Answers ctx fw w T (.ok (drive, wholeDisk))
  | farFloppy (i : Nat) : ¬ ctx.HasDrive ⟨.optical, 0⟩ T → (∀ j, ¬ ctx.HasDrive ⟨.hardDisk, j⟩ T) →
      ctx.HasDrive ⟨.floppy, i⟩ T → 0x80 ≤ i → Answers ctx fw w T (.error .notFound)
  -- no listed drive: firmware is asked for its devices
  | noSurvey (f : Failure Unit) : ctx.Unlisted T → fw.survey = .error f → Answers ctx fw w T (.error f)
  | nowhere (survey : Survey α) : ctx.Unlisted T → fw.survey = .ok survey →
      (∀ i node, ¬ ctx.IsPartition survey.devices T i node) → Answers ctx fw w T (.error .notFound)
  -- a partition of a listed disk: the table is asked for its number
  | partition (survey : Survey α) (i : Nat) (node : Node.HardDrive) (drive : UInt32) (e : PartitionEntry) :
      ctx.Unlisted T → fw.survey = .ok survey → ctx.IsPartition survey.devices T i node → drive.toNat = 0x80 + i →
      entryOf? (w.listing drive) node = some e → Answers ctx fw w T (.ok (drive, e.index))
  | unread (survey : Survey α) (i : Nat) (node : Node.HardDrive) (drive : UInt32) (f : Failure Unit) :
      ctx.Unlisted T → fw.survey = .ok survey → ctx.IsPartition survey.devices T i node → drive.toNat = 0x80 + i →
      entryOf? (w.listing drive) node = none → (w.listing drive).ending = .error f → Answers ctx fw w T (.error f)
  | unknown (survey : Survey α) (i : Nat) (node : Node.HardDrive) (drive : UInt32) :
      ctx.Unlisted T → fw.survey = .ok survey → ctx.IsPartition survey.devices T i node → drive.toNat = 0x80 + i →
      entryOf? (w.listing drive) node = none → (w.listing drive).ending = .ok () →
      Answers ctx fw w T (.error .notFound)

variable {ctx : Context α} {fw : Firmware α} {w : Walker} {path : DevicePath} {slot : Slot} {drive : UInt32} {i : Nat}
  {devices : List (Device α)} {node : Node.HardDrive}

/-! ## Drives -/

theorem positionOf?_roster {kind : DriveKind} (hs : (ctx.drives.roster kind).Sorted) :
    (ctx.drives.roster kind).positionOf? path = some i ↔ ctx.HasDrive ⟨kind, i⟩ path.nodes := by
  rw [hs.positionOf?_eq_some]
  constructor
  · rintro ⟨d, hd, rfl⟩
    exact ⟨d, hd, rfl⟩
  · rintro ⟨d, hd, hnodes⟩
    exact ⟨d, hd, DevicePath.ext_nodes hnodes⟩

theorem positionOf?_roster_eq_none {kind : DriveKind} (hs : (ctx.drives.roster kind).Sorted)
    (h : ∀ i, ¬ ctx.HasDrive ⟨kind, i⟩ path.nodes) : (ctx.drives.roster kind).positionOf? path = none :=
  Option.eq_none_iff_forall_ne_some.2 fun i hi => h i ((positionOf?_roster hs).1 hi)

theorem path_ne_of_not_hasDrive (h : ¬ ctx.HasDrive slot path.nodes) :
    ∀ d, ctx.deviceAt? slot = some d → d.path ≠ path := by
  rintro d hd rfl
  exact h ⟨d, hd, rfl⟩

theorem slotOf?_of_first_optical (h : ctx.HasDrive ⟨.optical, 0⟩ path.nodes) :
    ctx.slotOf? path = some ⟨.optical, 0⟩ := by
  obtain ⟨d, hd, hnodes⟩ := h
  rw [← DevicePath.ext_nodes hnodes]
  exact slotOf?_optical hd

theorem slotOf?_of_hardDisk (hs : (ctx.drives.roster .hardDisk).Sorted)
    (ho : ¬ ctx.HasDrive ⟨.optical, 0⟩ path.nodes) (h : ctx.HasDrive ⟨.hardDisk, i⟩ path.nodes) :
    ctx.slotOf? path = some ⟨.hardDisk, i⟩ := by
  have hpos : ctx.drives.hardDisks.positionOf? path = some i := (positionOf?_roster hs).2 h
  rw [slotOf?_of_not_first_optical (path_ne_of_not_hasDrive ho), hpos]
  rfl

theorem slotOf?_of_no_hardDisk (hs : (ctx.drives.roster .hardDisk).Sorted)
    (ho : ¬ ctx.HasDrive ⟨.optical, 0⟩ path.nodes) (hh : ∀ i, ¬ ctx.HasDrive ⟨.hardDisk, i⟩ path.nodes) :
    ctx.slotOf? path = ((ctx.drives.roster .floppy).positionOf? path).map (Slot.mk .floppy) := by
  have hpos : ctx.drives.hardDisks.positionOf? path = none := positionOf?_roster_eq_none hs hh
  rw [slotOf?_of_not_first_optical (path_ne_of_not_hasDrive ho), hpos]
  rfl

theorem slotOf?_of_floppy (hs : ∀ kind, (ctx.drives.roster kind).Sorted)
    (ho : ¬ ctx.HasDrive ⟨.optical, 0⟩ path.nodes) (hh : ∀ j, ¬ ctx.HasDrive ⟨.hardDisk, j⟩ path.nodes)
    (h : ctx.HasDrive ⟨.floppy, i⟩ path.nodes) : ctx.slotOf? path = some ⟨.floppy, i⟩ := by
  rw [slotOf?_of_no_hardDisk (hs .hardDisk) ho hh, (positionOf?_roster (hs .floppy)).2 h]
  rfl

/-! ## Partitions -/

theorem partitionAmong?_eq_some {x : Extent} (hs : ctx.drives.hardDisks.Sorted) :
    ctx.partitionAmong? devices path = some (i, x) ↔
      ∃ node, ctx.IsPartition devices path.nodes i node ∧ x = ⟨node.start, node.size⟩ := by
  constructor
  · intro h
    obtain ⟨disk, child, hdisk, hin, hparent, rfl, hx⟩ := of_partitionAmong? h
    obtain ⟨n, hn, hnx⟩ := Device.isPartitionOf_iff.2 ⟨hparent, hx⟩
    obtain ⟨node, hnode, rfl⟩ := Option.map_eq_some_iff.1 hnx
    refine ⟨node, ⟨⟨disk, n, hdisk, hn, hnode⟩, fun j other m hother hm => ?_, child, hin, rfl⟩, rfl⟩
    refine hs.eq_of_path_eq hother hdisk (DevicePath.ext_nodes ?_)
    exact (List.append_inj' (hm.symm.trans hn) rfl).1
  · rintro ⟨node, ⟨⟨disk, n, hdisk, hn, hnode⟩, -, d, hin, hd⟩, rfl⟩
    have hpart : d.IsPartitionOf disk ⟨node.start, node.size⟩ :=
      ⟨n, hd.trans hn, Option.map_eq_some_iff.2 ⟨node, hnode, rfl⟩⟩
    obtain ⟨hparent, hx⟩ := Device.isPartitionOf_iff.1 hpart
    rw [← DevicePath.ext_nodes hd]
    exact partitionAmong?_of_child hs hdisk hin hparent hx

theorem partitionAmong?_eq_none (hs : ctx.drives.hardDisks.Sorted)
    (h : ∀ i node, ¬ ctx.IsPartition devices path.nodes i node) : ctx.partitionAmong? devices path = none := by
  refine Option.eq_none_iff_forall_ne_some.2 fun ⟨i, x⟩ hx => ?_
  obtain ⟨node, hnode, -⟩ := (partitionAmong?_eq_some hs).1 hx
  exact h i node hnode

theorem found_byExtent_eq (w : Walker) (drive : UInt32) (node : Node.HardDrive) :
    (w.byExtent drive ⟨node.start, node.size⟩).found =
      match entryOf? (w.listing drive) node with
      | some e => .ok (some e)
      | none => (w.listing drive).ending.map fun _ => none := Walker.found_search w drive _

/-! ## The search -/

theorem outcome_of_slot (hs : ctx.slotOf? (path.truncateAt .cdRom) = some slot) :
    (ctx.pairForPath fw w path).outcome =
      (slot.number? ctx.config).elim (.error .notFound) fun drive => .ok (drive, wholeDisk) := by
  rw [pairForPath_eq]
  simp only [hs]
  cases slot.number? ctx.config <;> rfl

/-- A path of no slot is looked for among the partitions, and then in the table of the disk. -/
theorem outcome_of_no_slot (hs : ctx.slotOf? (path.truncateAt .cdRom) = none) :
    (ctx.pairForPath fw w path).outcome = fw.survey >>= fun survey =>
      (ctx.partitionAmong? survey.devices (path.truncateAt .cdRom)).elim (.error .notFound) fun (i, x) =>
        (Slot.number? ctx.config ⟨.hardDisk, i⟩).elim (.error .notFound) fun drive =>
          (w.byExtent drive x).found >>= fun found =>
            found.elim (.error .notFound) fun e => .ok (drive, e.index) := by
  rw [pairForPath_eq]
  simp only [hs, outcome_bind, outcome_devicesOf, outcome_require, outcome_entryOf]
  cases fw.survey with
  | error f => rfl
  | ok survey =>
    simp only [Except.map, bind, Except.bind]
    cases ctx.partitionAmong? survey.devices (path.truncateAt .cdRom) with
    | none => rfl
    | some found =>
      simp only [Option.elim_some]
      cases Slot.number? ctx.config ⟨.hardDisk, found.1⟩ with
      | none => rfl
      | some drive =>
        simp only [Option.elim_some]
        cases (w.byExtent drive found.2).found with
        | error f => rfl
        | ok e => cases e <;> rfl

variable {fw₀ : Firmware α} {config : Config} {T : List Node}

theorem Unlisted.slotOf?_eq_none (hs : ∀ kind, (ctx.drives.roster kind).Sorted) (h : ctx.Unlisted path.nodes) :
    ctx.slotOf? path = none := by
  rw [slotOf?_of_no_hardDisk (hs .hardDisk) h.optical h.hardDisk, positionOf?_roster_eq_none (hs .floppy) h.floppy]
  rfl

theorem outcome_of_isPartition {survey : Survey α} (hs : ∀ kind, (ctx.drives.roster kind).Sorted)
    (hu : ctx.Unlisted (path.truncateAt .cdRom).nodes) (hf : fw.survey = .ok survey)
    (hp : ctx.IsPartition survey.devices (path.truncateAt .cdRom).nodes i node) (hdrive : drive.toNat = 0x80 + i) :
    (ctx.pairForPath fw w path).outcome =
      match entryOf? (w.listing drive) node with
      | some e => .ok (drive, e.index)
      | none => (w.listing drive).ending >>= fun _ => .error .notFound := by
  have hamong : ctx.partitionAmong? survey.devices (path.truncateAt .cdRom) = some (i, ⟨node.start, node.size⟩) :=
    (partitionAmong?_eq_some (hs .hardDisk)).2 ⟨node, hp, rfl⟩
  rw [outcome_of_no_slot (hu.slotOf?_eq_none hs), hf]
  simp only [bind, Except.bind, hamong, Option.elim_some, Slot.number?_hardDisk.2 hdrive, found_byExtent_eq]
  cases entryOf? (w.listing drive) node with
  | some e => rfl
  | none => cases (w.listing drive).ending <;> rfl

/-- **An answer is what the search ends in.** -/
theorem Answers.outcome_eq (hs : ∀ kind, (ctx.drives.roster kind).Sorted) {o : Outcome (UInt32 × UInt32)}
    (h : ctx.Answers fw w (path.truncateAt .cdRom).nodes o) : (ctx.pairForPath fw w path).outcome = o := by
  cases h with
  | optical hd =>
    rw [outcome_of_slot (slotOf?_of_first_optical hd)]
    rfl
  | hardDisk i drive ho hd hdrive =>
    rw [outcome_of_slot (slotOf?_of_hardDisk (hs .hardDisk) ho hd), Slot.number?_hardDisk.2 hdrive]
    rfl
  | floppy i drive ho hh hd hi hdrive =>
    rw [outcome_of_slot (slotOf?_of_floppy hs ho hh hd), Slot.number?_floppy.2 ⟨hi, hdrive⟩]
    rfl
  | farFloppy i ho hh hd hi =>
    have hnumber : Slot.number? ctx.config ⟨.floppy, i⟩ = none := if_neg (Nat.not_lt.2 hi)
    rw [outcome_of_slot (slotOf?_of_floppy hs ho hh hd), hnumber]
    rfl
  | noSurvey f hu hf =>
    rw [outcome_of_no_slot (hu.slotOf?_eq_none hs), hf]
    rfl
  | nowhere survey hu hf hp =>
    rw [outcome_of_no_slot (hu.slotOf?_eq_none hs), hf]
    change (ctx.partitionAmong? survey.devices (path.truncateAt .cdRom)).elim _ _ = _
    rw [partitionAmong?_eq_none (hs .hardDisk) hp]
    rfl
  | partition survey i node drive e hu hf hp hdrive he =>
    rw [outcome_of_isPartition hs hu hf hp hdrive, he]
  | unread survey i node drive f hu hf hp hdrive he hend =>
    rw [outcome_of_isPartition hs hu hf hp hdrive, he, hend]
    rfl
  | unknown survey i node drive hu hf hp hdrive he hend =>
    rw [outcome_of_isPartition hs hu hf hp hdrive, he, hend]
    rfl

theorem exists_drive_of_lt (hcount : ctx.drives.hardDisks.size ≤ UInt32.size - 0x80)
    (hi : i < ctx.drives.hardDisks.size) : ∃ drive : UInt32, drive.toNat = 0x80 + i :=
  ⟨UInt32.ofNat (0x80 + i), UInt32.toNat_ofNat_of_lt (by omega)⟩

/-- **Every path has an answer.** -/
theorem exists_answers (ctx : Context α) (hcount : ctx.drives.hardDisks.size ≤ UInt32.size - 0x80)
    (fw : Firmware α) (w : Walker) (T : List Node) : ∃ o, ctx.Answers fw w T o := by
  by_cases ho : ctx.HasDrive ⟨.optical, 0⟩ T
  · exact ⟨_, .optical ho⟩
  by_cases hh : ∃ i, ctx.HasDrive ⟨.hardDisk, i⟩ T
  · obtain ⟨i, d, hd, hnodes⟩ := hh
    obtain ⟨drive, hdrive⟩ := exists_drive_of_lt hcount (Roster.lt_size_of_get? hd)
    exact ⟨_, .hardDisk i drive ho ⟨d, hd, hnodes⟩ hdrive⟩
  have hh := not_exists.1 hh
  by_cases hf : ∃ i, ctx.HasDrive ⟨.floppy, i⟩ T
  · obtain ⟨i, hd⟩ := hf
    by_cases hi : i < 0x80
    · exact ⟨_, .floppy i (UInt32.ofNat i) ho hh hd hi (UInt32.toNat_ofNat_of_lt (Nat.lt_trans hi (by decide)))⟩
    · exact ⟨_, .farFloppy i ho hh hd (Nat.le_of_not_lt hi)⟩
  have hu : ctx.Unlisted T := ⟨ho, hh, not_exists.1 hf⟩
  cases hs : fw.survey with
  | error f => exact ⟨_, .noSurvey f hu hs⟩
  | ok survey =>
    by_cases hp : ∃ i node, ctx.IsPartition survey.devices T i node
    · obtain ⟨i, node, hp⟩ := hp
      obtain ⟨disk, -, hd, -⟩ := hp.parent
      obtain ⟨drive, hdrive⟩ := exists_drive_of_lt hcount (Roster.lt_size_of_get? hd)
      cases he : entryOf? (w.listing drive) node with
      | some e => exact ⟨_, .partition survey i node drive e hu hs hp hdrive he⟩
      | none =>
        cases hend : (w.listing drive).ending with
        | error f => exact ⟨_, .unread survey i node drive f hu hs hp hdrive he hend⟩
        | ok _ => exact ⟨_, .unknown survey i node drive hu hs hp hdrive he hend⟩
    · exact ⟨_, .nowhere survey hu hs fun i node h => hp ⟨i, node, h⟩⟩

/-- **The search and the answers agree**, whatever firmware says by then: some answer is right, and the search ends in
each that is. -/
theorem outcome_pairForPath_iff (hcount : (init fw₀ config).drives.hardDisks.size ≤ UInt32.size - 0x80)
    (fw : Firmware α) (w : Walker) (path : DevicePath) (o : Outcome (UInt32 × UInt32)) :
    ((init fw₀ config).pairForPath fw w path).outcome = o ↔
      (init fw₀ config).Answers fw w (path.nodes.takeWhile fun n => n.nodeType != .cdRom) o := by
  have hs := (init_wellPlaced fw₀ config).sorted
  constructor
  · rintro rfl
    obtain ⟨o, h⟩ := exists_answers _ hcount fw w (path.truncateAt .cdRom).nodes
    rw [Answers.outcome_eq hs h]
    exact h
  · intro h
    exact Answers.outcome_eq hs h

theorem outcome_pairForPath_iff_on_sample :
    Sample.context.drives.hardDisks.size ≤ UInt32.size - 0x80 ∧
    (Sample.context.pairForPath Sample.board.firmware Sample.walker
      (DevicePath.mk [Sample.disk, Sample.partition] (by decide))).outcome = .ok (0x80, 1) ∧
    Sample.context.Answers Sample.board.firmware Sample.walker [Sample.disk, Sample.partition] (.ok (0x80, 1)) := by
  have hcount : Sample.context.drives.hardDisks.size ≤ UInt32.size - 0x80 := by decide +kernel
  have hok : (Sample.context.pairForPath Sample.board.firmware Sample.walker
      (DevicePath.mk [Sample.disk, Sample.partition] (by decide))).outcome = .ok (0x80, 1) := by cbv
  exact ⟨hcount, hok, (outcome_pairForPath_iff hcount _ _ _ _).1 hok⟩

end Context
end DriveMap
