import DriveMap.Proofs.ReportOrder
import DriveMap.Survey.Visit
/-!
# Every handle is accounted for

Two loops stand between the handles that firmware reports and the drives: the visits, each of which may end in six ways,
and the placements, each of which may end in three.  A visit says one thing, and finds a device or none; a placement
lists the device and is silent, or leaves it out and says so.  So the lines of the log and the drives add up to the
handles (`Context.handles_accounted`).
-/
namespace DriveMap

namespace DevicePath

/-- A path is as long as its end alone exactly if it has no leaf. -/
theorem size_eq_header_iff {p : DevicePath} : p.size = Header.size ↔ p.leafOffset? = none := by
  rw [size_eq, leafOffset?, List.getLast?_eq_none_iff, offsets]
  cases p.nodes with
  | nil => simp [Node.totalSize, offsetsFrom]
  | cons n rest =>
    have hpos := n.size_pos
    simp only [Node.totalSize, offsetsFrom, reduceCtorEq, iff_false]
    omega

end DevicePath

namespace Device

variable {α : Type}

/-- **A path that is not empty makes a device.** -/
theorem new?_eq_some {path : DevicePath} {o : Nat} (ho : path.leafOffset? = some o) (h : Handle) (m : Medium) (io : α) :
    new? h path m io = some ⟨h, path, o, ho, m, io⟩ := by
  unfold new?
  split
  · rename_i hnone
    cases ho.symm.trans hnone
  · rename_i o' ho'
    cases ho.symm.trans ho'
    rfl

end Device

namespace Firmware

variable {α : Type} {fw : Firmware α} {h : Handle} {bs : Bytes} {path : DevicePath} {o : Nat}

theorem examine_of_empty (hb : fw.pathBytes? h = some bs) (hp : DevicePath.ofBytes bs = .ok path)
    (ho : path.leafOffset? = none) : fw.examine h = .error .emptyPath := by
  simp only [examine, hb, hp]
  split
  · rfl
  · rename_i o' ho'
    cases ho.symm.trans ho'

theorem examine_of_leaf (hb : fw.pathBytes? h = some bs) (hp : DevicePath.ofBytes bs = .ok path)
    (ho : path.leafOffset? = some o) : fw.examine h =
      match fw.medium? h with
      | none => .error .noBlockIo
      | some medium =>
        match fw.io? h with
        | none => .error .noDiskIo
        | some io => .ok ⟨h, path, o, ho, medium, io⟩ := by
  simp only [examine, hb, hp]
  split
  · rename_i ho'
    cases ho.symm.trans ho'
  · rename_i o' ho'
    cases ho.symm.trans ho'
    rfl

/-- **A visit says one thing**, and finds what an examination finds. -/
theorem visit_eq (fw : Firmware α) (h : Handle) :
    fw.visit h = ([Finding.event ⟨h, fw.examine h⟩], (fw.examine h).toOption) := by
  unfold visit
  cases hb : fw.pathBytes? h with
  | none =>
    have hx : fw.examine h = .error .noPath := by simp only [examine, hb]
    rw [hx]
    rfl
  | some bs =>
    cases hp : DevicePath.ofBytes bs with
    | error fault =>
      have hx : fw.examine h = .error (.malformedPath fault) := by simp only [examine, hb, hp]
      rw [hx]
      simp only [hp]
      rfl
    | ok path =>
      simp only [hp, DevicePath.size_eq_header_iff]
      cases ho : path.leafOffset? with
      | none =>
        rw [examine_of_empty hb hp ho]
        rfl
      | some o =>
        rw [examine_of_leaf hb hp ho, if_neg (Option.some_ne_none o)]
        cases fw.medium? h with
        | none => rfl
        | some medium =>
          cases fw.io? h with
          | none => rfl
          | some io =>
            simp only [Device.new?_eq_some ho]
            rfl

theorem visitAll_eq (fw : Firmware α) : ∀ handles : List Handle, fw.visitAll handles =
    (handles.map fun h => Finding.event ⟨h, fw.examine h⟩, handles.filterMap fun h => (fw.examine h).toOption)
  | [] => rfl
  | h :: rest => by
    rw [visitAll, visit_eq, visitAll_eq fw rest, List.filterMap_cons]
    cases (fw.examine h).toOption <;> rfl

end Firmware

/-! ## What the visits leave -/

/-- The line about a handle that was kept. -/
def Device.keptLine {α : Type} (d : Device α) : Event := .kept d.handle d.leaf.nodeType d.medium

namespace Event

/-- The lines of a log that are of a level. -/
def linesAt (level : Level) (log : List Event) : List Event := log.filter fun e => e.level = level

variable {level : Level} {log log' : List Event}

theorem linesAt_append : linesAt level (log ++ log') = linesAt level log ++ linesAt level log' := List.filter_append ..

theorem linesAt_of_all (h : ∀ e ∈ log, e.level = level) : linesAt level log = log :=
  List.filter_eq_self.2 fun e he => decide_eq_true (h e he)

theorem linesAt_of_none (h : ∀ e ∈ log, e.level ≠ level) : linesAt level log = [] :=
  List.filter_eq_nil_iff.2 fun e he => by simp [h e he]

/-- A log of three parts that share no level, taken apart again. -/
theorem linesAt_parts {said left : List Event} {last : Event} (hsaid : ∀ e ∈ said, e.level = .warn ∨ e.level = .debug)
    (hleft : ∀ e ∈ left, e.level = .trace) (hlast : last.level = .info) :
    linesAt .warn (said ++ left ++ [last]) = linesAt .warn said ∧ linesAt .trace (said ++ left ++ [last]) = left ∧
    linesAt .info (said ++ left ++ [last]) = [last] := by
  have hsaid' : ∀ {level}, level = .trace ∨ level = .info → linesAt level said = [] := by
    intro level hlevel
    refine linesAt_of_none fun e he => ?_
    rcases hsaid e he with h | h <;> rcases hlevel with rfl | rfl <;> simp [h]
  have hleft' : ∀ {level}, level = .warn ∨ level = .info → linesAt level left = [] := by
    intro level hlevel
    refine linesAt_of_none fun e he => ?_
    rcases hlevel with rfl | rfl <;> simp [hleft e he]
  have hlast' : ∀ {level}, linesAt level [last] = if level = .info then [last] else [] := by
    intro level
    by_cases h : level = .info <;> simp [linesAt, hlast, h, eq_comm]
  simp only [linesAt_append, hlast']
  refine ⟨?_, ?_, ?_⟩
  · simp [hleft' (.inl rfl)]
  · simp [hsaid' (.inl rfl), linesAt_of_all hleft]
  · simp [hsaid' (.inr rfl), hleft' (.inr rfl)]

end Event

namespace Firmware

open Event (linesAt)

variable {α : Type} {fw : Firmware α} {handles : List Handle}

/-- What is said about a handle: why it is skipped, or what the device is that it was found to be. -/
inductive Says (fw : Firmware α) (h : Handle) : Event → Prop
  | skipped {why : Skip} : fw.examine h = .error why → Says fw h (.skipped h why)
  | kept {d : Device α} : fw.examine h = .ok d → d.handle = h → Says fw h d.keptLine

/-- **A visit skips its handle or keeps it**, and says which. -/
theorem visit_cases (fw : Firmware α) (h : Handle) :
    (∃ why, fw.examine h = .error why ∧ fw.visit h = ([.skipped h why], none)) ∨
    ∃ d, fw.examine h = .ok d ∧ d.handle = h ∧ fw.visit h = ([d.keptLine], some d) := by
  rw [visit_eq]
  cases hx : fw.examine h with
  | error why => exact .inl ⟨why, rfl, rfl⟩
  | ok d =>
    have hd := (examine_eq_ok hx).1
    refine .inr ⟨d, rfl, hd, ?_⟩
    rw [Device.keptLine, hd]
    rfl

theorem forall₂_says (fw : Firmware α) : ∀ handles : List Handle,
    List.Forall₂ fw.Says handles (fw.visitAll handles).1
  | [] => .nil
  | h :: rest => by
    have ih := forall₂_says fw rest
    rcases fw.visit_cases h with ⟨why, hx, hv⟩ | ⟨d, hx, hd, hv⟩
    · simp only [visitAll, hv, List.singleton_append]
      exact .cons (.skipped hx) ih
    · simp only [visitAll, hv, List.singleton_append]
      exact .cons (.kept hx hd) ih

/-- The lines about what was kept are about the devices, in order. -/
theorem linesAt_debug_visitAll (fw : Firmware α) : ∀ handles : List Handle,
    linesAt .debug (fw.visitAll handles).1 = (fw.visitAll handles).2.map Device.keptLine
  | [] => rfl
  | h :: rest => by
    have ih := linesAt_debug_visitAll fw rest
    rcases fw.visit_cases h with ⟨why, hx, hv⟩ | ⟨d, hx, hd, hv⟩
    · simp only [visitAll, hv]
      exact ih
    · simp only [visitAll, hv]
      exact congrArg (d.keptLine :: ·) ih

theorem length_visitAll (fw : Firmware α) : ∀ handles : List Handle,
    (linesAt .warn (fw.visitAll handles).1).length + (fw.visitAll handles).2.length = handles.length
  | [] => rfl
  | h :: rest => by
    have ih := length_visitAll fw rest
    rw [List.length_cons, ← ih]
    rcases fw.visit_cases h with ⟨why, hx, hv⟩ | ⟨d, hx, hd, hv⟩
    · have hline : linesAt .warn [.skipped h why] = [.skipped h why] := rfl
      simp only [visitAll, hv, Event.linesAt_append, hline]
      simp only [List.length_append, List.length_singleton, Option.toList_none, List.length_nil]
      omega
    · have hline : linesAt .warn [d.keptLine] = [] := rfl
      simp only [visitAll, hv, Event.linesAt_append, hline]
      simp only [List.length_append, List.length_singleton, Option.toList_some, List.length_nil]
      omega

theorem level_of_mem_visitAll {e : Event} (he : e ∈ (fw.visitAll handles).1) : e.level = .warn ∨ e.level = .debug := by
  rw [visitAll_eq, List.mem_map] at he
  obtain ⟨h, -, rfl⟩ := he
  rw [Finding.event]
  cases fw.examine h with
  | error why => exact .inl rfl
  | ok d => exact .inr rfl

theorem survey_eq_visitAll (h : fw.locate .diskIo = .ok handles) :
    ∃ s, fw.survey = .ok s ∧ fw.visitAll handles.reverse = (s.log, s.devices) := by
  refine ⟨_, by rw [survey, h]; rfl, ?_⟩
  rw [visitAll_eq, Survey.log, Survey.devices, List.map_map, List.filterMap_map]
  rfl

end Firmware

/-! ## What the placements leave -/

/-- The line about a device that was not listed. -/
def Device.leftOutLine {α : Type} (d : Device α) : Event :=
  match d.kind? with
  | none => .notADrive d.handle
  | some kind => .duplicate d.handle kind

theorem Device.level_leftOutLine {α : Type} (d : Device α) : d.leftOutLine.level = .trace := by
  rw [leftOutLine]
  split <;> rfl

namespace Drives

variable {α : Type} {P : Device α → Prop} {ds ds' : Drives α} {d e : Device α} {kind : DriveKind}

/-- All that is listed. -/
def listed (ds : Drives α) : List (Device α) := ds.floppies.devices ++ ds.hardDisks.devices ++ ds.opticals.devices

/-- There is no place for a device: it is no drive, or its roster has its path. -/
inductive LeavesOut (ds : Drives α) (d : Device α) : Prop
  | notADrive : d.kind? = none → LeavesOut ds d
  | duplicate {kind : DriveKind} {e : Device α} : d.kind? = some kind → e ∈ (ds.roster kind).devices →
    e.path = d.path → LeavesOut ds d

theorem listed_setRoster {r : Roster α} (h : r.devices.Perm (d :: (ds.roster kind).devices)) :
    (ds.setRoster kind r).listed.Perm (d :: ds.listed) := by
  cases kind with
  | floppy => exact (h.append_right _).append_right _
  | hardDisk => exact ((h.append_left _).trans List.perm_middle).append_right _
  | optical => exact (h.append_left _).trans List.perm_middle

/-- **A placement lists the device and says nothing, or leaves it out and says so.** -/
theorem WellPlaced.place_cases (h : ds.WellPlaced P) (d : Device α) :
    (ds.LeavesOut d ∧ ds.place d = (ds, [d.leftOutLine])) ∨
    ∃ ds', ds.place d = (ds', []) ∧ ds'.listed.Perm (d :: ds.listed) := by
  unfold Drives.place
  cases hkind : d.kind? with
  | none => exact .inl ⟨.notADrive hkind, by simp [Device.leftOutLine, hkind]⟩
  | some kind =>
    cases hr : (ds.roster kind).insert? d with
    | none =>
      obtain ⟨e, he, hpath⟩ := (Roster.insert?_eq_none (h.sorted kind)).1 hr
      exact .inl ⟨.duplicate hkind he hpath, by simp [Device.leftOutLine, hkind, hr]⟩
    | some r =>
      obtain ⟨pre, post, hpre, hpost, -, -⟩ := Roster.insert?_eq_some (h.sorted kind) hr
      refine .inr ⟨ds.setRoster kind r, by simp only [hr], listed_setRoster ?_⟩
      rw [hpre, hpost]
      exact List.perm_middle

theorem WellPlaced.mem_place (h : ds.WellPlaced P) (d : Device α) (he : e ∈ (ds.roster kind).devices) :
    e ∈ ((ds.place d).1.roster kind).devices := by
  rw [roster_place]
  split
  · exact (h.sorted kind).mem_add.2 (.inl he)
  · exact he

theorem WellPlaced.mem_placeAll : ∀ {devices : List (Device α)} {ds : Drives α}, ds.WellPlaced P →
    (∀ d ∈ devices, P d) → e ∈ (ds.roster kind).devices → e ∈ ((ds.placeAll devices).1.roster kind).devices
  | [], _, _, _, he => he
  | d :: rest, _, h, hd, he => by
    obtain ⟨hd, hrest⟩ := List.forall_mem_cons.1 hd
    exact (h.place hd).mem_placeAll hrest (h.mem_place d he)

theorem LeavesOut.placeAll {devices : List (Device α)} (hout : ds.LeavesOut d) (h : ds.WellPlaced P)
    (hd : ∀ d ∈ devices, P d) : (ds.placeAll devices).1.LeavesOut d := by
  cases hout with
  | notADrive hkind => exact .notADrive hkind
  | duplicate hkind he hpath => exact .duplicate hkind (h.mem_placeAll hd he) hpath

theorem placeAll_cons (ds : Drives α) (d : Device α) (rest : List (Device α)) : ds.placeAll (d :: rest) =
    (((ds.place d).1.placeAll rest).1, (ds.place d).2 ++ ((ds.place d).1.placeAll rest).2) := rfl

/-- **All that is placed is listed or left out**, and what is left out is what is spoken of, in order. -/
theorem WellPlaced.placeAll_accounts : ∀ {devices : List (Device α)} {ds : Drives α}, ds.WellPlaced P →
    (∀ d ∈ devices, P d) → ∃ left, left.Sublist devices ∧ (ds.placeAll devices).2 = left.map Device.leftOutLine ∧
      ((ds.placeAll devices).1.listed ++ left).Perm (ds.listed ++ devices) ∧
      ∀ d ∈ left, (ds.placeAll devices).1.LeavesOut d
  | [], _, _, _ => ⟨[], .slnil, rfl, .refl _, nofun⟩
  | d :: rest, ds, h, hall => by
    obtain ⟨hd, hrest⟩ := List.forall_mem_cons.1 hall
    obtain ⟨left, hsub, hsaid, hperm, hleft⟩ := (h.place hd).placeAll_accounts hrest
    have hcons := ds.placeAll_cons d rest
    rcases h.place_cases d with ⟨hout, hplace⟩ | ⟨ds', hplace, hlisted⟩
    · rw [hplace] at hsaid hperm hleft hcons
      have hout' := hout.placeAll h hrest
      rw [hcons]
      refine ⟨d :: left, hsub.cons_cons d, ?_, ?_, ?_⟩
      · rw [hsaid]
        rfl
      · exact List.perm_middle.trans ((hperm.cons d).trans List.perm_middle.symm)
      · exact List.forall_mem_cons.2 ⟨hout', hleft⟩
    · rw [hplace] at hsaid hperm hleft hcons
      rw [hcons]
      refine ⟨left, hsub.cons d, ?_, ?_, hleft⟩
      · rw [hsaid]
        rfl
      · exact hperm.trans ((hlisted.append_right rest).trans List.perm_middle.symm)

end Drives

namespace Context

open Event (linesAt)

variable {α : Type} {fw : Firmware α} {handles : List Handle}

/-- **Every reported handle is accounted for once.**  A survey leaves one line for each handle, the last reported first,
and keeps the devices that its lines name, in that order; no visit ends in silence.  Of the devices each is listed once
or left out with one line of its own, and the last line tells how many are listed. -/
theorem handles_accounted (hl : fw.locate .diskIo = .ok handles) (config : Config) :
    let drives := (init fw config).drives
    let log := initLog fw config
    ∃ s left, fw.survey = .ok s ∧ fw.visitAll handles.reverse = (s.log, s.devices) ∧
      List.Forall₂ fw.Says handles.reverse s.log ∧
      linesAt .debug s.log = s.devices.map Device.keptLine ∧
      left.Sublist s.devices ∧ (drives.listed ++ left).Perm s.devices ∧ (∀ d ∈ left, drives.LeavesOut d) ∧
      log = s.log ++ left.map Device.leftOutLine ++ [drives.summary] ∧
      linesAt .warn log = linesAt .warn s.log ∧
      linesAt .trace log = left.map Device.leftOutLine ∧
      linesAt .info log = [.numbered drives.floppies.size drives.hardDisks.size drives.opticals.size] ∧
      handles.length = (linesAt .warn log).length + (linesAt .trace log).length + drives.floppies.size +
        drives.hardDisks.size + drives.opticals.size := by
  intro drives log
  obtain ⟨s, hs, hvisits⟩ := Firmware.survey_eq_visitAll hl
  have hsays := fw.forall₂_says handles.reverse
  have hkept := fw.linesAt_debug_visitAll handles.reverse
  have hcount := fw.length_visitAll handles.reverse
  have hlevel : ∀ e ∈ (fw.visitAll handles.reverse).1, _ := fun e => Firmware.level_of_mem_visitAll
  simp only [hvisits, List.length_reverse] at hsays hkept hcount hlevel
  have hempty : (Drives.empty : Drives α).WellPlaced fun _ => True := Drives.wellPlaced_empty
  have hall : ∀ d ∈ s.devices, True := fun _ _ => trivial
  obtain ⟨left, hsub, hsaid, hperm, hleft⟩ := hempty.placeAll_accounts hall
  have hdrives : (Drives.empty.placeAll s.devices).1 = drives := by
    simp only [drives, init, start, hs]
  have hlog : log = s.log ++ left.map Device.leftOutLine ++ [drives.summary] := by
    simp only [log, initLog, start, hs, ← hdrives, ← hsaid]
  rw [hdrives] at hperm hleft
  have hlevel' : ∀ e ∈ left.map Device.leftOutLine, e.level = .trace := by
    intro e he
    obtain ⟨d, -, rfl⟩ := List.mem_map.1 he
    exact d.level_leftOutLine
  obtain ⟨hwarn, htrace, hinfo⟩ := Event.linesAt_parts hlevel hlevel' (rfl : drives.summary.level = .info)
  rw [← hlog] at hwarn htrace hinfo
  have hsizes : handles.length = (linesAt .warn log).length + (linesAt .trace log).length + drives.floppies.size +
      drives.hardDisks.size + drives.opticals.size := by
    have hlen := hperm.length_eq
    rw [Drives.listed, List.length_append, List.length_append, List.length_append] at hlen
    rw [← hcount, hwarn, htrace, List.length_map, Roster.size, Roster.size, Roster.size]
    have hnil : (Drives.empty.listed ++ s.devices).length = s.devices.length := rfl
    omega
  exact ⟨s, left, hs, hvisits, hsays, hkept, hsub, hperm, hleft, hlog, hwarn, htrace, hinfo, hsizes⟩

/-- A handle without a path, a partition and a second disk with the path of the first, beside one drive of each kind. -/
theorem handles_accounted_on_six :
    let disk : Bytes := (DevicePath.mk [Sample.disk] (by decide)).bytes
    let board : Machine.Board := ⟨Sample.board.entries ++
      [⟨⟨0x5000, by decide⟩, none, none, none, true, true, true, true⟩,
        ⟨⟨0x6000, by decide⟩, some disk, some ⟨0, false, 512, 99⟩, some 1, true, true, true, true⟩], .success⟩
    let handles := board.entries.map Machine.HandleEntry.handle
    let log := initLog board.firmware {}
    board.firmware.locate .diskIo = .ok handles ∧
    linesAt .info log = [.numbered 1 1 1] ∧ (linesAt .warn log).length + (linesAt .trace log).length = 3 := by
  intro disk board handles log
  have hl : board.firmware.locate .diskIo = .ok handles := rfl
  obtain ⟨s, left, -, -, -, -, -, -, -, -, -, -, hinfo, hcount⟩ := handles_accounted hl {}
  have hsizes : ((init board.firmware {}).drives.floppies.size, (init board.firmware {}).drives.hardDisks.size,
      (init board.firmware {}).drives.opticals.size) = (1, 1, 1) := by decide +kernel
  simp only [Prod.mk.injEq] at hsizes
  obtain ⟨hfloppies, hhardDisks, hopticals⟩ := hsizes
  have hlen : handles.length = 6 := rfl
  rw [hfloppies, hhardDisks, hopticals] at hinfo hcount
  change handles.length = (linesAt .warn log).length + (linesAt .trace log).length + 1 + 1 + 1 at hcount
  exact ⟨hl, hinfo, by omega⟩

end Context
end DriveMap
