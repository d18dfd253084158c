import DriveMap.Proofs.ReportOrder
/-!
# What a pair is answered with

`Context.Denotes` says, without a search, what a pair of a drive and a partition stands for: a listed drive, the device
that firmware reported last among those that are the named part of a listed hard disk, or nothing.  `Context.handleFor`
reads the number, walks the table, surveys the firmware and looks through the disk's children; it ends in that answer
and in no other (`Context.outcome_handleFor_iff`).
-/
namespace DriveMap

/-- The first item of a list that has a property. -/
def IsFirst {β : Type} (P : β → Prop) (l : List β) (a : β) : Prop :=
  ∃ before after, l = before ++ a :: after ∧ P a ∧ ∀ b ∈ before, ¬P b

theorem IsFirst.mem {β : Type} {P : β → Prop} {l : List β} {a : β} (h : IsFirst P l a) : a ∈ l ∧ P a := by
  obtain ⟨before, after, rfl, ha, -⟩ := h
  exact ⟨List.mem_append_right before List.mem_cons_self, ha⟩

theorem find?_eq_some_iff_isFirst {β : Type} {P : β → Prop} {test : β → Bool} (h : ∀ b, test b = true ↔ P b)
    {l : List β} {a : β} : l.find? test = some a ↔ IsFirst P l a := by
  rw [List.find?_eq_some_iff_append]
  simp only [Bool.not_eq_true', Bool.eq_false_iff, ne_eq, h]
  constructor
  · rintro ⟨ha, before, after, hl, hb⟩
    exact ⟨before, after, hl, ha, hb⟩
  · rintro ⟨before, after, hl, ha, hb⟩
    exact ⟨ha, before, after, hl, hb⟩

theorem find?_eq_none_iff_forall {β : Type} {P : β → Prop} {test : β → Bool} (h : ∀ b, test b = true ↔ P b)
    {l : List β} : l.find? test = none ↔ ∀ b ∈ l, ¬P b := by
  rw [List.find?_eq_none]
  simp only [h]

def PartitionEntry.IsNumbered (index : UInt32) (e : PartitionEntry) : Prop := e.kind ≠ 0 ∧ e.index = index

theorem PartitionEntry.hasIndex_iff {index : UInt32} (e : PartitionEntry) :
    e.hasIndex index = true ↔ e.IsNumbered index := by
  simp only [hasIndex, isUsed, IsNumbered, Bool.and_eq_true, bne_iff_ne, beq_iff_eq]

namespace Firmware

variable {α : Type} {fw : Firmware α} {handles : List Handle} {disk : Device α} {x : Extent} {h : Handle}

/-- The handle is a device, and a partition of the disk with extent `x`. -/
def HasPartition (fw : Firmware α) (disk : Device α) (x : Extent) (h : Handle) : Prop :=
  ∃ d, fw.examine h = .ok d ∧ d.IsPartitionOf disk x

def hasPartition (fw : Firmware α) (disk : Device α) (x : Extent) (h : Handle) : Bool :=
  (fw.examine h).toOption.any fun d => d.isChildOf disk && Extent.ofNode? d.leaf == some x

theorem hasPartition_iff (h : Handle) : fw.hasPartition disk x h = true ↔ fw.HasPartition disk x h := by
  unfold hasPartition HasPartition
  cases hd : fw.examine h with
  | error why => simp [Except.toOption]
  | ok d => simp [Except.toOption, Device.isPartitionOf_iff]

/-- **A search among the surveyed devices is a search among the reported handles**, the last of them first. -/
theorem map_handle_findChild? (fw : Firmware α) (handles : List Handle) (disk : Device α) (x : Extent) :
    (disk.findChild? (fw.usable handles).reverse fun d => Extent.ofNode? d.leaf == some x).map Device.handle =
      handles.reverse.find? (fw.hasPartition disk x) := by
  have hfind : (disk.findChild? (fw.usable handles).reverse fun d => Extent.ofNode? d.leaf == some x) =
      (handles.reverse.find? (fw.hasPartition disk x)).bind fun h => (fw.examine h).toOption := by
    rw [Device.findChild?, Device.children, List.find?_filter, usable, ← List.filterMap_reverse, List.find?_filterMap]
    simp only [Bool.decide_and, Bool.decide_eq_true]
    rfl
  rw [hfind]
  cases hfound : handles.reverse.find? (fw.hasPartition disk x) with
  | none => rfl
  | some h =>
    obtain ⟨d, hd, -⟩ := (hasPartition_iff h).1 (List.find?_some hfound)
    rw [Option.bind_some, hd]
    exact congrArg some (examine_eq_ok hd).1

end Firmware

namespace Context

open Resolution Firmware

variable {α : Type}

/-! ## The answers -/

/-- The drive is a listed hard disk, and not all of it is asked for. -/
structure AsksPart (ctx : Context α) (drive partition : UInt32) (disk : Device α) : Prop where
  listed : ∃ i, Slot.ofNumber? ctx.config drive = some ⟨.hardDisk, i⟩ ∧ ctx.deviceAt? ⟨.hardDisk, i⟩ = some disk
  part : partition ≠ wholeDisk

/-- The drive is listed, and it answers itself: it is no hard disk, or all of it is asked for. -/
def AsksWhole (ctx : Context α) (drive partition : UInt32) (d : Device α) : Prop :=
  ∃ slot, Slot.ofNumber? ctx.config drive = some slot ∧ ctx.deviceAt? slot = some d ∧
    (slot.kind ≠ .hardDisk ∨ partition = wholeDisk)

/-- What a pair is answered with, now that firmware is `fw`. -/
inductive Denotes (ctx : Context α) (fw : Firmware α) (w : Walker) (drive partition : UInt32) : Outcome Handle → Prop
  | noDrive : ctx.device? drive = none → Denotes ctx fw w drive partition (.error .notFound)
  | whole (d : Device α) : ctx.AsksWhole drive partition d → Denotes ctx fw w drive partition (.ok d.handle)
  -- a part of a hard disk: its table is walked up to the first used entry with the number
  | unread (disk : Device α) (f : Failure Unit) : ctx.AsksPart drive partition disk →
      (∀ e ∈ (w.listing drive).entries, ¬e.IsNumbered partition) → (w.listing drive).ending = .error f →
      Denotes ctx fw w drive partition (.error f)
  | unknown (disk : Device α) : ctx.AsksPart drive partition disk →
      (∀ e ∈ (w.listing drive).entries, ¬e.IsNumbered partition) → (w.listing drive).ending = .ok () →
      Denotes ctx fw w drive partition (.error .notFound)
  -- then firmware is asked for the device that the entry describes
  | noSurvey (disk : Device α) (e : PartitionEntry) (f : Failure Unit) : ctx.AsksPart drive partition disk →
      IsFirst (PartitionEntry.IsNumbered partition) (w.listing drive).entries e → fw.locate .diskIo = .error f →
      Denotes ctx fw w drive partition (.error f)
  | absent (disk : Device α) (e : PartitionEntry) (handles : List Handle) : ctx.AsksPart drive partition disk →
      IsFirst (PartitionEntry.IsNumbered partition) (w.listing drive).entries e → fw.locate .diskIo = .ok handles →
      (∀ h ∈ handles, ¬fw.HasPartition disk e.extent h) → Denotes ctx fw w drive partition (.error .notFound)
  | part (disk : Device α) (e : PartitionEntry) (handles : List Handle) (h : Handle) :
      ctx.AsksPart drive partition disk →
      IsFirst (PartitionEntry.IsNumbered partition) (w.listing drive).entries e → fw.locate .diskIo = .ok handles →
      IsFirst (fw.HasPartition disk e.extent) handles.reverse h → Denotes ctx fw w drive partition (.ok h)

variable {ctx : Context α} {fw : Firmware α} {w : Walker} {drive partition : UInt32} {disk d : Device α}

/-! ## The search -/

theorem AsksWhole.handleFor_eq (h : ctx.AsksWhole drive partition d) (fw : Firmware α) (w : Walker) :
    ctx.handleFor fw w drive partition = ⟨.ok d.handle, 0, []⟩ := by
  obtain ⟨slot, hslot, hd, hp⟩ := h
  exact handleFor_whole hslot hd hp

theorem AsksPart.outcome_handleFor (h : ctx.AsksPart drive partition disk) (fw : Firmware α) (w : Walker) :
    (ctx.handleFor fw w drive partition).outcome = (w.byIndex drive partition).found >>= fun found =>
      found.elim (.error .notFound) fun e => fw.survey >>= fun survey =>
        (disk.findChild? survey.devices fun d => Extent.ofNode? d.leaf == some e.extent).elim (.error .notFound)
          fun c => .ok c.handle := by
  obtain ⟨i, hslot, hdisk⟩ := h.listed
  have hwhole : ¬(DriveKind.hardDisk ≠ .hardDisk ∨ partition = wholeDisk) := by simp [h.part]
  rw [handleFor_eq]
  simp only [outcome_require, outcome_devicesOf, outcome_entryOf, hslot, hdisk, Option.elim_some, bind, Except.bind,
    if_neg hwhole]
  cases (w.byIndex drive partition).found with
  | error f => rfl
  | ok found =>
    cases found with
    | none => rfl
    | some e =>
      simp only [Option.elim_some]
      cases fw.survey with
      | error f => rfl
      | ok survey =>
        simp only [Except.map]
        cases disk.findChild? survey.devices fun d => Extent.ofNode? d.leaf == some e.extent <;> rfl

theorem found_byIndex_of_isFirst {e : PartitionEntry}
    (h : IsFirst (PartitionEntry.IsNumbered partition) (w.listing drive).entries e) :
    (w.byIndex drive partition).found = .ok (some e) :=
  Walker.found_search_eq_some.2 ((find?_eq_some_iff_isFirst PartitionEntry.hasIndex_iff).2 h)

theorem found_byIndex_of_none (h : ∀ e ∈ (w.listing drive).entries, ¬e.IsNumbered partition) :
    (w.byIndex drive partition).found = (w.listing drive).ending.map fun _ => none := by
  have hnone := (find?_eq_none_iff_forall PartitionEntry.hasIndex_iff).2 h
  rw [Walker.byIndex, Walker.found_search, Listing.find?, hnone]

/-- With an entry to look for, what is left is the search among the reported handles. -/
theorem AsksPart.outcome_of_isFirst (h : ctx.AsksPart drive partition disk) {e : PartitionEntry}
    (he : IsFirst (PartitionEntry.IsNumbered partition) (w.listing drive).entries e) {handles : List Handle}
    (hl : fw.locate .diskIo = .ok handles) :
    (ctx.handleFor fw w drive partition).outcome =
      (handles.reverse.find? (fw.hasPartition disk e.extent)).elim (.error .notFound) .ok := by
  obtain ⟨survey, hsurvey, hdevices⟩ := survey_of_locate hl
  rw [h.outcome_handleFor, found_byIndex_of_isFirst he, hsurvey, ← map_handle_findChild?]
  simp only [bind, Except.bind, Option.elim_some, hdevices]
  cases disk.findChild? (fw.usable handles).reverse fun d => Extent.ofNode? d.leaf == some e.extent <;> rfl

/-- **An answer is what the search ends in.** -/
theorem Denotes.outcome_eq {o : Outcome Handle} (h : ctx.Denotes fw w drive partition o) :
    (ctx.handleFor fw w drive partition).outcome = o := by
  cases h with
  | noDrive hd => rw [handleFor_of_no_device hd]
  | whole d hd => rw [hd.handleFor_eq]
  | unread disk f hask he hend =>
    rw [hask.outcome_handleFor, found_byIndex_of_none he, hend]
    rfl
  | unknown disk hask he hend =>
    rw [hask.outcome_handleFor, found_byIndex_of_none he, hend]
    rfl
  | noSurvey disk e f hask he hl =>
    rw [hask.outcome_handleFor, found_byIndex_of_isFirst he, survey, hl]
    rfl
  | absent disk e handles hask he hl hnone =>
    have hfound := (find?_eq_none_iff_forall hasPartition_iff).2 fun h hh => hnone h (List.mem_reverse.1 hh)
    rw [hask.outcome_of_isFirst he hl, hfound]
    rfl
  | part disk e handles h hask he hl hfirst =>
    rw [hask.outcome_of_isFirst he hl, (find?_eq_some_iff_isFirst hasPartition_iff).2 hfirst]
    rfl

theorem exists_denotes (ctx : Context α) (fw : Firmware α) (w : Walker) (drive partition : UInt32) :
    ∃ o, ctx.Denotes fw w drive partition o := by
  cases hd : ctx.device? drive with
  | none => exact ⟨_, .noDrive hd⟩
  | some disk =>
    obtain ⟨⟨kind, i⟩, hslot, hdisk⟩ := Option.bind_eq_some_iff.1 hd
    by_cases hwhole : kind ≠ .hardDisk ∨ partition = wholeDisk
    · exact ⟨_, .whole disk ⟨_, hslot, hdisk, hwhole⟩⟩
    rw [not_or, not_not] at hwhole
    obtain ⟨rfl, hpart⟩ := hwhole
    have hask : ctx.AsksPart drive partition disk := ⟨⟨i, hslot, hdisk⟩, hpart⟩
    cases he : (w.listing drive).entries.find? fun e => e.hasIndex partition with
    | none =>
      have he := (find?_eq_none_iff_forall PartitionEntry.hasIndex_iff).1 he
      cases hend : (w.listing drive).ending with
      | error f => exact ⟨_, .unread disk f hask he hend⟩
      | ok _ => exact ⟨_, .unknown disk hask he hend⟩
    | some e =>
      have he := (find?_eq_some_iff_isFirst PartitionEntry.hasIndex_iff).1 he
      cases hl : fw.locate .diskIo with
      | error f => exact ⟨_, .noSurvey disk e f hask he hl⟩
      | ok handles =>
        cases hfound : handles.reverse.find? (fw.hasPartition disk e.extent) with
        | none =>
          have hnone := (find?_eq_none_iff_forall hasPartition_iff).1 hfound
          exact ⟨_, .absent disk e handles hask he hl fun h hh => hnone h (List.mem_reverse.2 hh)⟩
        | some h =>
          exact ⟨_, .part disk e handles h hask he hl ((find?_eq_some_iff_isFirst hasPartition_iff).1 hfound)⟩

/-- **The search and the answers agree**, whatever firmware says by then.  A pair that asks for a whole drive is
answered without a look at the table or at firmware; one that asks for a part is never answered with a device further
down than a child, with a child of another disk, or for the sake of an entry that is not in use. -/
theorem outcome_handleFor_iff (fw₀ : Firmware α) (config : Config) (fw : Firmware α) (w : Walker)
    (drive partition : UInt32) :
    (∀ o, ((init fw₀ config).handleFor fw w drive partition).outcome = o ↔
      (init fw₀ config).Denotes fw w drive partition o) ∧
    (∀ d, (init fw₀ config).AsksWhole drive partition d →
      (init fw₀ config).handleFor fw w drive partition = ⟨.ok d.handle, 0, []⟩) ∧
    ∀ disk h, (init fw₀ config).AsksPart drive partition disk →
      ((init fw₀ config).handleFor fw w drive partition).outcome = .ok h →
      (∃ e ∈ (w.listing drive).entries, e.kind ≠ 0 ∧ e.index = partition) ∧
      ∃ d, fw.examine h = .ok d ∧ (∀ more, d.path.nodes = disk.path.nodes ++ more → more.length = 1) ∧
        ∀ other ∈ (init fw₀ config).drives.hardDisks.devices, ∀ n, d.path.nodes = other.path.nodes ++ [n] →
          other = disk := by
  have hiff : ∀ o, ((init fw₀ config).handleFor fw w drive partition).outcome = o ↔
      (init fw₀ config).Denotes fw w drive partition o := by
    intro o
    constructor
    · rintro rfl
      obtain ⟨o, h⟩ := exists_denotes (init fw₀ config) fw w drive partition
      rw [h.outcome_eq]
      exact h
    · exact Denotes.outcome_eq
  refine ⟨hiff, fun d hd => hd.handleFor_eq fw w, fun disk h hask hok => ?_⟩
  obtain ⟨i, hslot, hdisk⟩ := hask.listed
  obtain ⟨disk', e, survey, d, hdisk', he, hsurvey, hd, rfl⟩ := (handleFor_partition hslot hask.part).1 hok
  obtain rfl : disk' = disk := Option.some.inj (hdisk'.symm.trans hdisk)
  obtain ⟨hin, hparent, -⟩ := Device.findChild?_eq_some hd
  have hn := Device.isChildOf_iff.1 hparent
  have he := (find?_eq_some_iff_isFirst PartitionEntry.hasIndex_iff).1 (Walker.found_search_eq_some.1 he)
  refine ⟨⟨e, he.mem⟩, d, examine_of_mem_devices hsurvey hin, fun more hmore => ?_, fun other hother m hm => ?_⟩
  · rw [← List.append_cancel_left (hn.symm.trans hmore), List.length_singleton]
  · refine ((init_wellPlaced fw₀ config).sorted .hardDisk).eq_of_mem hother (mem_roster hdisk) (DevicePath.ext_nodes ?_)
    exact (List.append_inj' (hm.symm.trans hn) rfl).1

end Context
end DriveMap
