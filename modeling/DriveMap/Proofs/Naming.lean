import DriveMap.Proofs.PairAnswers
/-!
# Naming devices in batches

Devices may be placed in one go or batch after batch.  A batch is placed device by device, so only the order of the
devices counts (`Drives.placeBatches_eq`).  Each roster is given the devices of its kind and of those with a path lists
the first; what kind a device is its leaf decides, and a floppy's leaf is no other drive's
(`Drives.placeBatches_lists`).
-/
namespace DriveMap

theorem Device.category_of_kind? {α : Type} {d : Device α} {kind : DriveKind} (h : d.kind? = some kind) :
    d.leaf.nodeType.category = .messaging ∨ d.leaf.nodeType.category = .acpi := by
  rw [category_leaf h]
  cases kind with
  | floppy => exact .inr rfl
  | hardDisk | optical => exact .inl rfl

theorem DriveKind.category_ne_floppy {kind : DriveKind} (h : kind ≠ .floppy) :
    kind.category ≠ DriveKind.floppy.category := by
  cases kind with
  | floppy => exact absurd rfl h
  | hardDisk | optical => decide

namespace Drives

variable {α : Type}

/-- The drives with several batches of devices placed, one after another. -/
def placeBatches (ds : Drives α) (batches : List (List (Device α))) : Drives α :=
  batches.foldl (fun ds devices => (ds.placeAll devices).1) ds

theorem placeAll_append : ∀ (ds : Drives α) (first second : List (Device α)),
    (ds.placeAll (first ++ second)).1 = ((ds.placeAll first).1.placeAll second).1
  | _, [], _ => rfl
  | ds, d :: first, second => placeAll_append (ds.place d).1 first second

/-- **Batches are their devices, one after another.** -/
theorem placeBatches_eq : ∀ (ds : Drives α) (batches : List (List (Device α))),
    ds.placeBatches batches = (ds.placeAll batches.flatten).1
  | _, [] => rfl
  | ds, devices :: rest => by
    rw [List.flatten_cons, placeAll_append]
    exact placeBatches_eq (ds.placeAll devices).1 rest

variable {given : List (Device α)} {kind : DriveKind} {d : Device α}

theorem wellPlaced_given (given : List (Device α)) : ((empty : Drives α).placeAll given).1.WellPlaced (· ∈ given) :=
  wellPlaced_empty.placeAll fun _ hd => hd

theorem mem_roster_placeAll : d ∈ (((empty : Drives α).placeAll given).1.roster kind).devices ↔
    IsFirst (fun e => e.kind? = some kind ∧ e.path = d.path) given d := by
  rw [← find?_eq_some_iff_isFirst fun e => decide_eq_true_iff, ← find?_roster_placeAll,
    ((wellPlaced_given given).sorted kind).find?_eq_some, and_iff_left rfl]

theorem mem_map_path_roster_placeAll {p : DevicePath} :
    p ∈ (((empty : Drives α).placeAll given).1.roster kind).devices.map Device.path ↔
      ∃ d ∈ given, d.kind? = some kind ∧ d.path = p := by
  rw [← Roster.isSome_find?, find?_roster_placeAll, List.find?_isSome]
  simp only [decide_eq_true_eq]

/-- **A roster lists the first given device of its kind with each path, and no other.**  However the devices are cut
into batches, the rosters are the same; what is neither a messaging nor an ACPI leaf is in none, and no roster but that
of the floppies has the path of a floppy. -/
theorem placeBatches_lists (batches : List (List (Device α))) :
    let ds := (empty : Drives α).placeBatches batches
    let given := batches.flatten
    (∀ kind d, d ∈ (ds.roster kind).devices ↔ IsFirst (fun e => e.kind? = some kind ∧ e.path = d.path) given d) ∧
    (∀ kind, ((ds.roster kind).devices.map Device.path).Nodup ∧
      ∀ p, p ∈ (ds.roster kind).devices.map Device.path ↔ ∃ d ∈ given, d.kind? = some kind ∧ d.path = p) ∧
    (∀ kind, ∀ d ∈ (ds.roster kind).devices, d.kind? = some kind) ∧
    (∀ d : Device α, d.leaf.nodeType.category ≠ .messaging → d.leaf.nodeType.category ≠ .acpi →
      ∀ kind, d ∉ (ds.roster kind).devices) ∧
    (∀ f : Device α, f.kind? = some .floppy → ∀ kind ≠ .floppy, ∀ d ∈ (ds.roster kind).devices, d.path ≠ f.path) ∧
    ∀ others : List (List (Device α)), others.flatten = given → empty.placeBatches others = ds := by
  intro ds given
  have hds : ds = (empty.placeAll given).1 := placeBatches_eq empty batches
  have hw := wellPlaced_given given
  rw [← hds] at hw
  refine ⟨fun kind d => ?_, fun kind => ⟨(hw.sorted kind).nodup_path, fun p => ?_⟩, hw.kind_eq,
    fun d hmessaging hacpi kind hd => ?_, fun f hf kind hkind d hd hpath => ?_, fun others hothers => ?_⟩
  · rw [hds, mem_roster_placeAll]
  · rw [hds, mem_map_path_roster_placeAll]
  · exact (Device.category_of_kind? (hw.kind_eq kind d hd)).elim hmessaging hacpi
  · refine DriveKind.category_ne_floppy hkind ?_
    rw [← hw.category_leaf hd, ← Device.category_leaf hf, Device.leaf_eq_of_path_eq hpath]
  · rw [placeBatches_eq, hothers, hds]

end Drives
end DriveMap
