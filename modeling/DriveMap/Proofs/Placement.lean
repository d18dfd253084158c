import DriveMap.Context.Basic
import DriveMap.Proofs.RosterOrder
/-!
# What a context lists

Every roster of a context is sorted, holds devices of its own kind only, and holds nothing that firmware did not answer
for: `Context.init_wellPlaced`.  One placement keeps this, so any number of them does.
-/
namespace DriveMap

namespace Firmware

variable {α : Type} {fw : Firmware α} {h : Handle} {d : Device α}

/-- **What the device made of a handle is made of.** -/
theorem examine_eq_ok (hd : fw.examine h = .ok d) : d.handle = h ∧
    ∃ bs, fw.pathBytes? h = some bs ∧ DevicePath.ofBytes bs = .ok d.path := by
  unfold examine at hd
  split at hd
  · cases hd
  rename_i bs hbs
  split at hd
  · cases hd
  rename_i path hpath
  split at hd
  · cases hd
  split at hd
  · cases hd
  split at hd
  · cases hd
  cases hd
  exact ⟨rfl, bs, hbs, hpath⟩

theorem examine_of_mem_devices {s : Survey α} (hs : fw.survey = .ok s) (hd : d ∈ s.devices) :
    fw.examine d.handle = .ok d := by
  unfold survey at hs
  cases hl : fw.locate .diskIo with
  | error f => rw [hl] at hs; cases hs
  | ok handles =>
    rw [hl] at hs
    cases hs
    obtain ⟨f, hf, hfd⟩ := List.mem_filterMap.1 hd
    obtain ⟨k, -, rfl⟩ := List.mem_map.1 hf
    have hk : fw.examine k = .ok d := by
      cases he : fw.examine k with
      | error why => simp only [he, Except.toOption] at hfd; cases hfd
      | ok d' => simp only [he, Except.toOption] at hfd; cases hfd; rfl
    rw [(examine_eq_ok hk).1, hk]

end Firmware

/-- The category that the leaf of a drive of a kind has. -/
def DriveKind.category : DriveKind → Category
  | .floppy => .acpi
  | .hardDisk | .optical => .messaging

theorem Device.category_leaf {α : Type} {d : Device α} {kind : DriveKind} (h : d.kind? = some kind) :
    d.leaf.nodeType.category = kind.category := by
  unfold Device.kind? DriveKind.ofLeaf? at h
  split at h
  · rename_i hm
    cases h
    rw [hm]
    split <;> rfl
  · split at h
    · rename_i ha
      cases h
      exact ha
    · cases h

namespace Drives

variable {α : Type} {P : Device α → Prop} {ds : Drives α} {d : Device α}

theorem roster_setRoster (ds : Drives α) (kind kind' : DriveKind) (r : Roster α) :
    (ds.setRoster kind r).roster kind' = if kind' = kind then r else ds.roster kind' := by
  cases kind <;> cases kind' <;> rfl

theorem roster_empty (kind : DriveKind) : (empty : Drives α).roster kind = .empty := by cases kind <;> rfl

/-- Sorted rosters of devices of their own kind, each of which has the property `P`. -/
structure WellPlaced (P : Device α → Prop) (ds : Drives α) : Prop where
  sorted : ∀ kind, (ds.roster kind).Sorted
  kind_eq : ∀ kind, ∀ d ∈ (ds.roster kind).devices, d.kind? = some kind
  holds : ∀ kind, ∀ d ∈ (ds.roster kind).devices, P d

theorem wellPlaced_empty : (empty : Drives α).WellPlaced P := by
  constructor
  · intro kind
    rw [roster_empty]
    exact Roster.sorted_empty
  all_goals
    intro kind d hd
    rw [roster_empty] at hd
    cases hd

/-- **One placement keeps rosters well placed.** -/
theorem WellPlaced.place (h : ds.WellPlaced P) (hd : P d) : (ds.place d).1.WellPlaced P := by
  unfold Drives.place
  split
  · exact h
  rename_i kind hkind
  split
  · exact h
  rename_i r hr
  have hmem : ∀ e ∈ r.devices, e = d ∨ e ∈ (ds.roster kind).devices := fun e he =>
    (Roster.mem_insert? (h.sorted kind) hr).1 he
  refine ⟨fun k => ?_, fun k e he => ?_, fun k e he => ?_⟩ <;> rw [roster_setRoster] at *
  · split
    · exact (h.sorted kind).insert? hr
    · exact h.sorted k
  · split at he
    · rename_i hk
      subst hk
      rcases hmem e he with rfl | he
      · exact hkind
      · exact h.kind_eq k e he
    · exact h.kind_eq k e he
  · split at he
    · rcases hmem e he with rfl | he
      · exact hd
      · exact h.holds kind e he
    · exact h.holds k e he

theorem WellPlaced.category_leaf (h : ds.WellPlaced P) {kind : DriveKind} (hd : d ∈ (ds.roster kind).devices) :
    d.leaf.nodeType.category = kind.category := Device.category_leaf (h.kind_eq kind d hd)

/-- What a partition's path ends in, no drive's does. -/
theorem WellPlaced.leaf_ne_hardDrive (h : ds.WellPlaced P) {kind : DriveKind} (hd : d ∈ (ds.roster kind).devices) :
    d.leaf.nodeType ≠ .hardDrive := by
  intro hleaf
  have hcategory := h.category_leaf hd
  rw [hleaf] at hcategory
  cases kind <;> cases hcategory

theorem WellPlaced.category_eq (h : ds.WellPlaced P) {kind kind' : DriveKind} {e : Device α}
    (hd : d ∈ (ds.roster kind).devices) (he : e ∈ (ds.roster kind').devices) (hp : d.path = e.path) :
    kind.category = kind'.category := by
  rw [← h.category_leaf hd, ← h.category_leaf he, Device.leaf_eq_of_path_eq hp]

theorem WellPlaced.placeAll : ∀ {devices : List (Device α)} {ds : Drives α}, ds.WellPlaced P →
    (∀ d ∈ devices, P d) → (ds.placeAll devices).1.WellPlaced P
  | [], _, h, _ => h
  | d :: rest, ds, h, hd => by
    obtain ⟨hd, hrest⟩ := List.forall_mem_cons.1 hd
    exact (h.place hd).placeAll hrest

end Drives

namespace Context

variable {α : Type}

theorem mem_roster {ctx : Context α} {slot : Slot} {d : Device α} (hd : ctx.deviceAt? slot = some d) :
    d ∈ (ctx.drives.roster slot.kind).devices := Roster.mem_of_get? hd

/-- **A device stands in one slot.** -/
theorem slot_eq_of_deviceAt? {ctx : Context α} {P : Device α → Prop} (h : ctx.drives.WellPlaced P) {s s' : Slot}
    {d : Device α} (hd : ctx.deviceAt? s = some d) (hd' : ctx.deviceAt? s' = some d) : s = s' := by
  have hkind := h.kind_eq s.kind d (mem_roster hd)
  have hkind' := h.kind_eq s'.kind d (mem_roster hd')
  obtain ⟨kind, i⟩ := s
  obtain ⟨kind', j⟩ := s'
  obtain rfl : kind = kind' := Option.some.inj (hkind.symm.trans hkind')
  obtain rfl : i = j := (h.sorted kind).eq_of_path_eq hd hd' rfl
  rfl

theorem init_config (fw : Firmware α) (config : Config) : (init fw config).config = config := by
  unfold init start
  split <;> rfl

/-- **The drives of a context are well placed**, and each is what firmware said of its handle. -/
theorem init_wellPlaced (fw : Firmware α) (config : Config) :
    (init fw config).drives.WellPlaced fun d => fw.examine d.handle = .ok d := by
  unfold init start
  split
  · rename_i s hs
    exact Drives.wellPlaced_empty.placeAll fun d hd => Firmware.examine_of_mem_devices hs hd
  · exact Drives.wellPlaced_empty

end Context
end DriveMap
