import DriveMap.Proofs.RoundTrips
/-!
# No two names for one handle

A pair of a hard disk and a partition is answered with a device of the firmware: the listed disk, or a device whose path
is the disk's and one hard drive node more (`Context.device_of_handleFor`).  A handle is one device, its path has one
parent, and a path that ends in a hard drive node is in no roster.  So two pairs with the same answer say the same: the
same drive, both or neither of them all of it, and if not, table entries with one extent.
-/
namespace DriveMap

/-- **A device is a partition of one disk, and at one place of it.** -/
theorem Device.IsPartitionOf.unique {α : Type} {d disk disk' : Device α} {x x' : Extent} (h : d.IsPartitionOf disk x)
    (h' : d.IsPartitionOf disk' x') : disk.path = disk'.path ∧ x = x' := by
  obtain ⟨n, hn, hx⟩ := h
  obtain ⟨n', hn', hx'⟩ := h'
  obtain ⟨hnodes, hleaf⟩ := List.append_inj' (hn.symm.trans hn') rfl
  cases hleaf
  rw [hx] at hx'
  exact ⟨DevicePath.ext_nodes hnodes, Option.some.inj hx'⟩

theorem Drives.WellPlaced.not_isPartitionOf {α : Type} {ds : Drives α} {P : Device α → Prop} {kind : DriveKind}
    {d disk : Device α} {x : Extent} (h : ds.WellPlaced P) (hd : d ∈ (ds.roster kind).devices) :
    ¬d.IsPartitionOf disk x := fun hpart =>
  h.leaf_ne_hardDrive hd (Extent.nodeType_of_ofNode? (Device.isPartitionOf_iff.1 hpart).2)

namespace Context

variable {α : Type} {fw : Firmware α} {config : Config} {w : Walker} {h : Handle}

/-- **What a pair of a hard disk and a partition is answered with.** -/
theorem device_of_handleFor {drive partition : UInt32} {i : Nat}
    (hslot : Slot.ofNumber? config drive = some ⟨.hardDisk, i⟩)
    (hok : ((init fw config).handleFor fw w drive partition).outcome = .ok h) :
    ∃ disk d, (init fw config).deviceAt? ⟨.hardDisk, i⟩ = some disk ∧ fw.examine h = .ok d ∧
      (partition = wholeDisk ∧ d = disk ∨
        partition ≠ wholeDisk ∧ ∃ e, (w.listing drive).entries.find? (fun e => e.hasIndex partition) = some e ∧
          d.IsPartitionOf disk e.extent) := by
  have hslot' : Slot.ofNumber? (init fw config).config drive = some ⟨.hardDisk, i⟩ := by rw [init_config, hslot]
  by_cases hp : partition = wholeDisk
  · obtain ⟨disk, hdisk⟩ := exists_deviceAt?_of_handleFor hslot' hok
    rw [handleFor_whole hslot' hdisk (.inr hp)] at hok
    cases hok
    exact ⟨disk, disk, hdisk, (init_wellPlaced fw config).holds _ disk (mem_roster hdisk), .inl ⟨hp, rfl⟩⟩
  · obtain ⟨disk, entry, survey, child, hdisk, hentry, hsurvey, hchild, rfl⟩ :=
      (handleFor_partition hslot' hp).1 hok
    obtain ⟨hin, hparent, htest⟩ := Device.findChild?_eq_some hchild
    have hpart : child.IsPartitionOf disk entry.extent := Device.isPartitionOf_iff.2 ⟨hparent, beq_iff_eq.1 htest⟩
    exact ⟨disk, child, hdisk, Firmware.examine_of_mem_devices hsurvey hin,
      .inr ⟨hp, entry, Walker.found_search_eq_some.1 hentry, hpart⟩⟩

variable {drive₁ drive₂ partition₁ partition₂ : UInt32} {i j : Nat}

/-- **Two pairs of a hard disk and a partition that are answered with one handle name one thing**: the same drive, and
of it both the whole disk or both a partition, of one extent. -/
theorem pair_unique_of_handleFor (hslot₁ : Slot.ofNumber? config drive₁ = some ⟨.hardDisk, i⟩)
    (hslot₂ : Slot.ofNumber? config drive₂ = some ⟨.hardDisk, j⟩)
    (h₁ : ((init fw config).handleFor fw w drive₁ partition₁).outcome = .ok h)
    (h₂ : ((init fw config).handleFor fw w drive₂ partition₂).outcome = .ok h) :
    drive₁ = drive₂ ∧ (partition₁ = wholeDisk ↔ partition₂ = wholeDisk) ∧
      (partition₁ ≠ wholeDisk → ∃ e₁ e₂,
        (w.listing drive₁).entries.find? (fun e => e.hasIndex partition₁) = some e₁ ∧
        (w.listing drive₁).entries.find? (fun e => e.hasIndex partition₂) = some e₂ ∧ e₁.extent = e₂.extent) := by
  have hw := init_wellPlaced fw config
  obtain ⟨disk₁, d, hdisk₁, hd, hcase₁⟩ := device_of_handleFor hslot₁ h₁
  obtain ⟨disk₂, d', hdisk₂, hd', hcase₂⟩ := device_of_handleFor hslot₂ h₂
  -- one handle is one device, so what is left is what that device may be to the two disks
  obtain rfl : d = d' := Except.ok.inj (hd.symm.trans hd')
  rcases hcase₁ with ⟨hp₁, rfl⟩ | ⟨hp₁, e₁, he₁, hpart₁⟩
  · rcases hcase₂ with ⟨hp₂, rfl⟩ | ⟨-, _, -, hpart₂⟩
    · obtain rfl : i = j := (hw.sorted .hardDisk).eq_of_path_eq hdisk₁ hdisk₂ rfl
      exact ⟨Slot.ofNumber?_inj hslot₁ hslot₂, iff_of_true hp₁ hp₂, fun hne => absurd hp₁ hne⟩
    · exact absurd hpart₂ (hw.not_isPartitionOf (mem_roster hdisk₁))
  · rcases hcase₂ with ⟨-, rfl⟩ | ⟨hp₂, e₂, he₂, hpart₂⟩
    · exact absurd hpart₁ (hw.not_isPartitionOf (mem_roster hdisk₂))
    · obtain ⟨hpath, hextent⟩ := hpart₁.unique hpart₂
      obtain rfl : i = j := (hw.sorted .hardDisk).eq_of_path_eq hdisk₁ hdisk₂ hpath
      obtain rfl : drive₁ = drive₂ := Slot.ofNumber?_inj hslot₁ hslot₂
      exact ⟨rfl, iff_of_false hp₁ hp₂, fun _ => ⟨e₁, e₂, he₁, he₂, hextent⟩⟩

/-- A table may number one extent twice, and then both numbers are answered with one handle. -/
theorem pair_unique_of_handleFor_on_twins :
    let twins := Machine.Table.walker [⟨0x80, [⟨1, 7, ⟨63, 2048⟩⟩, ⟨5, 7, ⟨63, 2048⟩⟩], none, .success⟩]
    (Sample.context.handleFor Sample.board.firmware twins 0x80 1).outcome = .ok Sample.partitionHandle ∧
    (Sample.context.handleFor Sample.board.firmware twins 0x80 5).outcome = .ok Sample.partitionHandle ∧
    ∃ e₁ e₂, (twins.listing 0x80).entries.find? (fun e => e.hasIndex 1) = some e₁ ∧
      (twins.listing 0x80).entries.find? (fun e => e.hasIndex 5) = some e₂ ∧ e₁.extent = e₂.extent := by
  intro twins
  have h₁ : (Sample.context.handleFor Sample.board.firmware twins 0x80 1).outcome = .ok Sample.partitionHandle := by cbv
  have h₂ : (Sample.context.handleFor Sample.board.firmware twins 0x80 5).outcome = .ok Sample.partitionHandle := by cbv
  have hslot : Slot.ofNumber? {} 0x80 = some ⟨.hardDisk, 0⟩ := by decide
  exact ⟨h₁, h₂, (pair_unique_of_handleFor hslot hslot h₁ h₂).2.2 (by decide)⟩

end Context
end DriveMap
