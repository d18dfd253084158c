import DriveMap.Proofs.RosterView
import DriveMap.Proofs.RoundTrips
/-!
# The order of reports

Firmware may report its handles in any order.  What a context lists is told by the usable handles alone: of those with
one kind and one path the last reported is listed (`Context.keepsLast_init`), and places follow from paths.  So another
order of the same handles leaves every path in its place, and, where no two usable handles of a kind share a path, every
drive number with its device (`Context.init_of_reorders`).
-/
namespace DriveMap

namespace Firmware

variable {α : Type} {fw fw' : Firmware α} {handles handles' : List Handle}

/-- The devices among reported handles, in the order of the report. -/
def usable (fw : Firmware α) (handles : List Handle) : List (Device α) :=
  handles.filterMap fun h => (fw.examine h).toOption

theorem survey_of_locate (h : fw.locate .diskIo = .ok handles) :
    ∃ s, fw.survey = .ok s ∧ s.devices = (fw.usable handles).reverse := by
  refine ⟨_, by rw [survey, h]; rfl, ?_⟩
  rw [Survey.devices, List.filterMap_map, List.filterMap_reverse]
  rfl

theorem mem_usable {d : Device α} : d ∈ fw.usable handles ↔ d.handle ∈ handles ∧ fw.examine d.handle = .ok d := by
  rw [usable, List.mem_filterMap]
  constructor
  · rintro ⟨h, hh, hd⟩
    cases hx : fw.examine h with
    | error why => rw [hx] at hd; cases hd
    | ok d' =>
      rw [hx] at hd
      cases hd
      obtain rfl := (examine_eq_ok hx).1
      exact ⟨hh, hx⟩
  · rintro ⟨hh, hd⟩
    exact ⟨d.handle, hh, by rw [hd]; rfl⟩

/-- The second firmware reports the handles of the first in another order, and says the same of each of them. -/
structure Reorders (fw fw' : Firmware α) (handles handles' : List Handle) : Prop where
  locate : fw.locate .diskIo = .ok handles
  locate' : fw'.locate .diskIo = .ok handles'
  perm : handles'.Perm handles
  answers : ∀ h ∈ handles, fw'.pathBytes? h = fw.pathBytes? h ∧ fw'.medium? h = fw.medium? h ∧ fw'.io? h = fw.io? h

theorem Reorders.examine_eq (hr : fw.Reorders fw' handles handles') {h : Handle} (hh : h ∈ handles) :
    fw'.examine h = fw.examine h := by
  obtain ⟨hpath, hmedium, hio⟩ := hr.answers h hh
  simp only [examine, hpath, hmedium, hio]

theorem Reorders.usable_perm (hr : fw.Reorders fw' handles handles') :
    (fw'.usable handles').Perm (fw.usable handles) := by
  have hsame : fw'.usable handles = fw.usable handles :=
    List.filterMap_congr fun h hh => by rw [hr.examine_eq hh]
  exact hsame ▸ hr.perm.filterMap _

end Firmware

namespace Drives

variable {α : Type}

theorem roster_place (ds : Drives α) (d : Device α) (kind : DriveKind) :
    (ds.place d).1.roster kind = if d.kind? = some kind then (ds.roster kind).add d else ds.roster kind := by
  cases hkind : d.kind? with
  | none => simp [place, hkind]
  | some k =>
    by_cases hk : k = kind
    · subst hk
      cases hr : (ds.roster k).insert? d with
      | none => simp [place, Roster.add, hkind, hr]
      | some r => simp [place, Roster.add, hkind, hr, roster_setRoster]
    · cases hr : (ds.roster k).insert? d with
      | none => simp [place, hkind, hr, hk]
      | some r => simp [place, hkind, hr, roster_setRoster, hk, Ne.symm hk]

theorem ext_roster {ds ds' : Drives α} (h : ∀ kind, ds.roster kind = ds'.roster kind) : ds = ds' := by
  have hfloppies := h .floppy
  have hhardDisks := h .hardDisk
  have hopticals := h .optical
  cases ds; cases ds'
  simp only [roster] at hfloppies hhardDisks hopticals
  rw [hfloppies, hhardDisks, hopticals]

/-- **A roster is given the devices of its kind.** -/
theorem roster_placeAll (kind : DriveKind) : ∀ (ds : Drives α) (devices : List (Device α)),
    (ds.placeAll devices).1.roster kind = (ds.roster kind).addAll (devices.filter fun d => d.kind? = some kind)
  | ds, [] => rfl
  | ds, d :: rest => by
    change ((ds.place d).1.placeAll rest).1.roster kind = _
    rw [roster_placeAll kind _ rest, roster_place, List.filter_cons]
    by_cases hk : d.kind? = some kind
    · simp only [hk, decide_true, if_true]
      rfl
    · simp only [hk, decide_false, if_false]
      rfl

/-- Of the devices of a kind with a path the first placed is listed. -/
theorem find?_roster_placeAll (kind : DriveKind) (devices : List (Device α)) (p : DevicePath) :
    (((empty : Drives α).placeAll devices).1.roster kind).find? p =
      devices.find? fun d => d.kind? = some kind ∧ d.path = p := by
  rw [roster_placeAll, roster_empty, Roster.sorted_empty.find?_addAll, List.find?_filter]
  simp only [decide_eq_true_eq, DevicePath.same_iff]
  rfl

end Drives

namespace Context

open Firmware

variable {α : Type} {fw fw' : Firmware α} {config : Config} {handles handles' : List Handle} {kind : DriveKind}

theorem find?_roster_init (h : fw.locate .diskIo = .ok handles) (p : DevicePath) :
    ((init fw config).drives.roster kind).find? p =
      ((fw.usable handles).filter fun d => d.kind? = some kind ∧ d.path = p).getLast? := by
  obtain ⟨s, hs, hdevices⟩ := survey_of_locate h
  have hroster : (init fw config).drives = (Drives.empty.placeAll (fw.usable handles).reverse).1 := by
    rw [← hdevices, init, start, hs]
  rw [hroster, Drives.find?_roster_placeAll, List.getLast?_filter]

/-- Of the reported devices with one kind and one path the last is listed, and no others are. -/
def KeepsLast (ctx : Context α) (reported : List (Device α)) : Prop :=
  ∀ kind d, d ∈ (ctx.drives.roster kind).devices ↔
    (reported.filter fun e => e.kind? = some kind ∧ e.path = d.path).getLast? = some d

theorem keepsLast_init (h : fw.locate .diskIo = .ok handles) : (init fw config).KeepsLast (fw.usable handles) :=
  fun kind d => by
    rw [← find?_roster_init h, ((init_wellPlaced fw config).sorted kind).find?_eq_some, and_iff_left rfl]

/-- No two devices of one kind of drive share a path, unless they are one handle. -/
def PathsApart (devices : List (Device α)) : Prop :=
  ∀ d ∈ devices, ∀ e ∈ devices, d.kind? ≠ none → d.kind? = e.kind? → d.path = e.path → d.handle = e.handle

instance (devices : List (Device α)) : Decidable (PathsApart devices) :=
  inferInstanceAs (Decidable (∀ d ∈ devices, ∀ e ∈ devices, _))

theorem getLast?_eq_of_perm {β : Type} {l l' : List β} (hp : l'.Perm l) (h : ∀ a ∈ l, ∀ b ∈ l, a = b) :
    l'.getLast? = l.getLast? := by
  cases hl : l'.getLast? with
  | none =>
    rw [List.getLast?_eq_none_iff.1 hl] at hp
    rw [← hp.nil_eq, List.getLast?_nil]
  | some b =>
    have hb := hp.subset (List.mem_of_getLast? hl)
    cases hl' : l.getLast? with
    | none =>
      rw [List.getLast?_eq_none_iff.1 hl'] at hb
      cases hb
    | some a => rw [h a (List.mem_of_getLast? hl') b hb]

theorem ext_parts {ctx ctx' : Context α} (hc : ctx.config = ctx'.config) (hd : ctx.drives = ctx'.drives) :
    ctx = ctx' := by
  cases ctx; cases ctx'; cases hc; cases hd; rfl

theorem init_eq_of_reorders (hr : fw.Reorders fw' handles handles') (hapart : PathsApart (fw.usable handles)) :
    init fw' config = init fw config := by
  have hw := init_wellPlaced fw config
  have hw' := init_wellPlaced fw' config
  have hdrives : (init fw' config).drives = (init fw config).drives := by
    refine Drives.ext_roster fun kind => (hw'.sorted kind).ext (hw.sorted kind) fun p => ?_
    rw [find?_roster_init hr.locate, find?_roster_init hr.locate']
    refine getLast?_eq_of_perm (hr.usable_perm.filter _) fun d hd e he => ?_
    simp only [List.mem_filter, decide_eq_true_eq] at hd he
    obtain ⟨hd, hkind, rfl⟩ := hd
    obtain ⟨he, hkind', hpath⟩ := he
    have hhandle := hapart d hd e he (by rw [hkind]; nofun) (hkind.trans hkind'.symm) hpath.symm
    have hd := (mem_usable.1 hd).2
    rw [hhandle, (mem_usable.1 he).2] at hd
    exact (Except.ok.inj hd).symm
  exact ext_parts (by rw [init_config, init_config]) hdrives

theorem map_path_init_of_reorders (hr : fw.Reorders fw' handles handles') (kind : DriveKind) :
    ((init fw' config).drives.roster kind).devices.map Device.path =
      ((init fw config).drives.roster kind).devices.map Device.path := by
  refine ((init_wellPlaced fw' config).sorted kind).map_path_eq ((init_wellPlaced fw config).sorted kind) fun p => ?_
  rw [find?_roster_init hr.locate, find?_roster_init hr.locate', Bool.eq_iff_iff, List.getLast?_isSome,
    List.getLast?_isSome, ← List.length_pos_iff, ← List.length_pos_iff, (hr.usable_perm.filter _).length_eq]

/-- **Another order of the same reports leaves every path in its place**; of devices with one kind and one path each
order lists its last.  If there is only one such device each time, all drive numbers stay as they are. -/
theorem init_of_reorders (hr : fw.Reorders fw' handles handles') (config : Config) :
    (∀ kind, ((init fw' config).drives.roster kind).devices.map Device.path =
      ((init fw config).drives.roster kind).devices.map Device.path) ∧
    (init fw config).KeepsLast (fw.usable handles) ∧ (init fw' config).KeepsLast (fw'.usable handles') ∧
    (PathsApart (fw.usable handles) → ∀ drive, (init fw' config).device? drive = (init fw config).device? drive ∧
      (init fw' config).geometry drive = (init fw config).geometry drive) := by
  refine ⟨map_path_init_of_reorders hr, keepsLast_init hr.locate, keepsLast_init hr.locate', fun hapart drive => ?_⟩
  rw [init_eq_of_reorders hr hapart]
  exact ⟨rfl, rfl⟩

theorem init_of_reorders_on_sample :
    let board : Machine.Board := Sample.board
    let handles := board.entries.map Machine.HandleEntry.handle
    let backwards : Machine.Board := ⟨board.entries.reverse, .success⟩
    board.firmware.Reorders backwards.firmware handles handles.reverse ∧ PathsApart (board.firmware.usable handles) ∧
    ∀ drive, (init backwards.firmware {}).device? drive = (init board.firmware {}).device? drive ∧
      (init backwards.firmware {}).geometry drive = (init board.firmware {}).geometry drive := by
  intro board handles backwards
  have hr : board.firmware.Reorders backwards.firmware handles handles.reverse :=
    ⟨rfl, rfl, handles.reverse_perm, by decide +kernel⟩
  have hapart : PathsApart (board.firmware.usable handles) := by decide +kernel
  exact ⟨hr, hapart, (init_of_reorders hr {}).2.2.2 hapart⟩

end Context
end DriveMap
