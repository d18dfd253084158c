import DriveMap.Proofs.ReportOrder
/-!
# Handles that are no devices

A handle that lacks something is left out of a survey, and that is all that comes of it: what it lacks is said in the
log and is nobody else's concern.  So handles of that sort may be put into a report anywhere, and neither the devices
nor the drives nor any lookup tells the difference (`Context.anomalous_unseen`).  All that a lookup has of a report is
the devices in it, so it is enough to compare these.
-/
namespace DriveMap

/-- The second list is the first with items put in that have the property, any number of them in any places. -/
inductive Interspersed {β : Type} (P : β → Prop) : List β → List β → Prop
  | nil : Interspersed P [] []
  | keep (a : β) {l l' : List β} : Interspersed P l l' → Interspersed P (a :: l) (a :: l')
  | put (a : β) {l l' : List β} : P a → Interspersed P l l' → Interspersed P l (a :: l')

theorem Interspersed.filterMap_eq {β γ : Type} {P : β → Prop} {f : β → Option γ} (hf : ∀ a, P a → f a = none)
    {l l' : List β} (h : Interspersed P l l') : l'.filterMap f = l.filterMap f := by
  induction h with
  | nil => rfl
  | keep a _ ih => rw [List.filterMap_cons, List.filterMap_cons, ih]
  | put a ha _ ih => rw [List.filterMap_cons_none (hf a ha), ih]

namespace Firmware

variable {α : Type} {fw fw' : Firmware α} {h : Handle} {d : Device α} {handles handles' : List Handle}

/-- The handle lacks something that a device has: a path that can be read and is not empty, or one of the two
interfaces. -/
inductive Anomalous (fw : Firmware α) (h : Handle) : Prop
  | noPath : fw.pathBytes? h = none → Anomalous fw h
  | malformedPath (bs : Bytes) (fault : PathError) : fw.pathBytes? h = some bs → DevicePath.ofBytes bs = .error fault →
      Anomalous fw h
  | emptyPath (bs : Bytes) (path : DevicePath) : fw.pathBytes? h = some bs → DevicePath.ofBytes bs = .ok path →
      path.nodes = [] → Anomalous fw h
  | noBlockIo : fw.medium? h = none → Anomalous fw h
  | noDiskIo : fw.io? h = none → Anomalous fw h

theorem interfaces_of_examine (hd : fw.examine h = .ok d) : fw.medium? h = some d.medium ∧ fw.io? h = some d.io := by
  unfold examine at hd
  split at hd
  · cases hd
  split at hd
  · cases hd
  split at hd
  · cases hd
  split at hd
  · cases hd
  rename_i hmedium
  split at hd
  · cases hd
  rename_i hio
  cases hd
  exact ⟨hmedium, hio⟩

theorem Anomalous.examine_ne_ok (ha : fw.Anomalous h) (d : Device α) : fw.examine h ≠ .ok d := by
  intro hd
  obtain ⟨-, bs, hbs, hpath⟩ := examine_eq_ok hd
  obtain ⟨hmedium, hio⟩ := interfaces_of_examine hd
  cases ha with
  | noPath hnone => cases hbs.symm.trans hnone
  | malformedPath bs' fault hbs' hfault =>
    cases hbs.symm.trans hbs'
    cases hpath.symm.trans hfault
  | emptyPath bs' path hbs' hpath' hnil =>
    cases hbs.symm.trans hbs'
    cases hpath.symm.trans hpath'
    exact DevicePath.nodes_ne_nil d.leaf_at hnil
  | noBlockIo hnone => cases hmedium.symm.trans hnone
  | noDiskIo hnone => cases hio.symm.trans hnone

theorem Anomalous.toOption_examine (ha : fw.Anomalous h) : (fw.examine h).toOption = none := by
  cases hx : fw.examine h with
  | error why => rfl
  | ok d => exact absurd hx (ha.examine_ne_ok d)

/-- The same firmware with another report of its disk handles. -/
def reporting (fw : Firmware α) (handles : List Handle) : Firmware α :=
  { fw with locate := fun g => if g = .diskIo then .ok handles else fw.locate g }

/-- The devices of a firmware, the last reported first. -/
def enumerate (fw : Firmware α) : Outcome (List (Device α)) := fw.survey.map Survey.devices

theorem enumerate_of_locate (hl : fw.locate .diskIo = .ok handles) :
    fw.enumerate = .ok (fw.usable handles).reverse := by
  obtain ⟨s, hs, hdevices⟩ := survey_of_locate hl
  rw [enumerate, hs, ← hdevices]
  rfl

theorem enumerate_reporting (fw : Firmware α) (handles : List Handle) :
    (fw.reporting handles).enumerate = .ok (fw.usable handles).reverse :=
  enumerate_of_locate (by simp [reporting])

theorem usable_append (fw : Firmware α) (first second : List Handle) :
    fw.usable (first ++ second) = fw.usable first ++ fw.usable second := List.filterMap_append

theorem usable_interspersed (h : Interspersed fw.Anomalous handles handles') : fw.usable handles' = fw.usable handles :=
  h.filterMap_eq fun _ ha => ha.toOption_examine

end Firmware

/-! ## Lookups and the report -/

namespace Resolution

variable {α β : Type} {x y : Resolution α} {f g : α → Resolution β}

/-- What a resolution comes to and how often it called the walker; what it logged is left out. -/
def silent (r : Resolution α) : Outcome α × Nat := (r.outcome, r.calls)

theorem silent_bind (hx : x.silent = y.silent) (hf : ∀ a, (f a).silent = (g a).silent) :
    (x >>= f).silent = (y >>= g).silent := by
  obtain ⟨houtcome, hcalls⟩ := Prod.mk.inj hx
  simp only [silent, bind, houtcome, hcalls]
  cases y.outcome with
  | error e => rfl
  | ok a =>
    obtain ⟨houtcome, hcalls⟩ := Prod.mk.inj (hf a)
    simp only [houtcome, hcalls]

theorem silent_devicesOf {s s' : Outcome (Survey α)} (h : s'.map Survey.devices = s.map Survey.devices) :
    (devicesOf s').silent = (devicesOf s).silent := by
  rw [← outcome_devicesOf, ← outcome_devicesOf] at h
  refine Prod.ext h ?_
  cases s <;> cases s' <;> rfl

end Resolution

namespace Context

open Firmware Resolution

variable {α : Type} {fw fw' : Firmware α} {handles handles' : List Handle}

theorem init_of_enumerate (h : fw'.enumerate = fw.enumerate) (config : Config) : init fw' config = init fw config := by
  unfold enumerate at h
  unfold init start
  cases hs' : fw'.survey with
  | error f' =>
    cases hs : fw.survey with
    | error f => rfl
    | ok s =>
      rw [hs, hs'] at h
      cases h
  | ok s' =>
    cases hs : fw.survey with
    | error f =>
      rw [hs, hs'] at h
      cases h
    | ok s =>
      rw [hs, hs'] at h
      have hdevices : s'.devices = s.devices := Except.ok.inj h
      simp only [hdevices]

theorem silent_handleFor (h : fw'.enumerate = fw.enumerate) (ctx : Context α) (w : Walker) (drive partition : UInt32) :
    (ctx.handleFor fw' w drive partition).silent = (ctx.handleFor fw w drive partition).silent := by
  rw [handleFor_eq, handleFor_eq]
  refine silent_bind rfl fun slot => silent_bind rfl fun disk => ?_
  split
  · rfl
  · exact silent_bind rfl fun entry => silent_bind (silent_devicesOf h) fun devices => rfl

theorem silent_pairForPath (h : fw'.enumerate = fw.enumerate) (ctx : Context α) (w : Walker) (path : DevicePath) :
    (ctx.pairForPath fw' w path).silent = (ctx.pairForPath fw w path).silent := by
  rw [pairForPath_eq, pairForPath_eq]
  split
  · rfl
  · exact silent_bind (silent_devicesOf h) fun devices => rfl

theorem silent_pairForHandle (h : fw'.enumerate = fw.enumerate) (hpath : fw'.pathBytes? = fw.pathBytes?)
    (ctx : Context α) (w : Walker) (handle : Handle) :
    (ctx.pairForHandle fw' w handle).silent = (ctx.pairForHandle fw w handle).silent := by
  rw [pairForHandle_eq, pairForHandle_eq, hpath]
  exact silent_bind rfl fun bytes => silent_bind rfl fun path => silent_pairForPath h ctx w path

/-- **Anomalous handles are not seen.**  Put into a report, however many and wherever, they change neither the devices
nor the drives, nor what any handle or pair is answered with; each stretch of a report adds its own devices, a later one
before those of an earlier. -/
theorem anomalous_unseen (hl : fw.locate .diskIo = .ok handles) (hin : Interspersed fw.Anomalous handles handles')
    (config : Config) :
    let noisy := fw.reporting handles'
    noisy.enumerate = fw.enumerate ∧
    init noisy config = init fw config ∧
    (∀ (ctx : Context α) (w : Walker) (drive partition : UInt32),
      (ctx.handleFor noisy w drive partition).silent = (ctx.handleFor fw w drive partition).silent) ∧
    (∀ (ctx : Context α) (w : Walker) (h : Handle),
      (ctx.pairForHandle noisy w h).silent = (ctx.pairForHandle fw w h).silent) ∧
    ∀ first second : List Handle, ∃ found found' : List (Device α),
      (fw.reporting first).enumerate = .ok found ∧ (fw.reporting second).enumerate = .ok found' ∧
      (fw.reporting (first ++ second)).enumerate = .ok (found' ++ found) := by
  intro noisy
  have hsame : noisy.enumerate = fw.enumerate := by
    rw [enumerate_reporting, usable_interspersed hin, enumerate_of_locate hl]
  refine ⟨hsame, init_of_enumerate hsame config, silent_handleFor hsame, silent_pairForHandle hsame rfl, ?_⟩
  intro first second
  refine ⟨_, _, enumerate_reporting fw first, enumerate_reporting fw second, ?_⟩
  rw [enumerate_reporting, usable_append, List.reverse_append]

/-- One handle for each thing that may be missing, two before the others and three behind them. -/
theorem anomalous_unseen_on_five :
    let hidden (address : UInt64) (nonzero : address ≠ 0) (path : Option Bytes) (medium : Option Medium)
        (disk : Option Nat) : Machine.HandleEntry := ⟨⟨address, nonzero⟩, path, medium, disk, false, true, true, true⟩
    let bytes : Bytes := (DevicePath.mk [Sample.disk] (by decide)).bytes
    let medium : Medium := ⟨0, false, 512, 4095⟩
    let board : Machine.Board :=
      ⟨[hidden 0x5000 (by decide) none (some medium) (some 1),
          hidden 0x6000 (by decide) (some [3, 18, 2, 0]) (some medium) (some 1)] ++ Sample.board.entries ++
        [hidden 0x7000 (by decide) (some DevicePath.empty.bytes) (some medium) (some 1),
          hidden 0x8000 (by decide) (some bytes) none (some 1),
          hidden 0x9000 (by decide) (some bytes) (some medium) none], .success⟩
    let fw := board.firmware
    let handles := Sample.board.entries.map Machine.HandleEntry.handle
    let handles' := board.entries.map Machine.HandleEntry.handle
    let noisy := fw.reporting handles'
    fw.locate .diskIo = .ok handles ∧ Interspersed fw.Anomalous handles handles' ∧ init noisy {} = init fw {} ∧
    ((init noisy {}).handleFor noisy Sample.walker 0x80 1).silent =
      ((init fw {}).handleFor fw Sample.walker 0x80 1).silent := by
  intro hidden bytes medium board fw handles handles' noisy
  have hl : fw.locate .diskIo = .ok handles := rfl
  have hin : Interspersed fw.Anomalous handles handles' := by
    refine .put _ (.noPath (by decide +kernel)) (.put _ ?_ (.keep _ (.keep _ (.keep _ (.keep _ (.put _ ?_
      (.put _ (.noBlockIo (by decide +kernel)) (.put _ (.noDiskIo (by decide +kernel)) .nil))))))))
    · exact .malformedPath [3, 18, 2, 0] (.lengthTooSmall 0 2) (by decide +kernel) (by cbv)
    · exact .emptyPath DevicePath.empty.bytes .empty (by decide +kernel) (by cbv) rfl
  obtain ⟨-, hinit, hhandle, -, -⟩ := anomalous_unseen hl hin {}
  refine ⟨hl, hin, hinit, ?_⟩
  rw [hinit]
  exact hhandle _ _ _ _

end Context
end DriveMap
