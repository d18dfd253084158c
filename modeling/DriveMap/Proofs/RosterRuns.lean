import DriveMap.Proofs.RosterView
/-!
# A roster under any run

What is done to a roster one action after another: devices are inserted, and a listed device is given another interface.
The second changes neither an order nor a path, so up to interfaces a run is the insertions alone
(`Roster.bare_run`).  Hence the roster stays sorted, and lists under each path that was ever inserted the first
device inserted with it (`Roster.run_lists`).
-/
namespace DriveMap
namespace Roster

variable {α : Type}

/-- What may be done to a roster. -/
inductive Action (α : Type) where
  | insert (d : Device α)
  /-- Gives the device at a place another interface. -/
  | setIo (place : Nat) (io : α)

/-- The roster after an action, and what the action answers: whether the device was inserted, or whether there is one at
the place. -/
def step (r : Roster α) : Action α → Roster α × Bool
  | .insert d =>
    match r.insert? d with
    | none => (r, false)
    | some r' => (r', true)
  | .setIo i io => (r.setIo i io, decide (i < r.size))

def run (r : Roster α) (actions : List (Action α)) : Roster α := actions.foldl (fun r a => (r.step a).1) r

/-- The devices that actions insert, in order, those included that are refused. -/
def inserted : List (Action α) → List (Device α)
  | [] => []
  | .insert d :: rest => d :: inserted rest
  | .setIo .. :: rest => inserted rest

/-- The roster with the interfaces left out. -/
def bare (r : Roster α) : Roster Unit := ⟨r.devices.map fun d => d.withIo ()⟩

variable {r : Roster α} {d : Device α}

theorem step_insert : (r.step (.insert d)).1 = r.add d := by
  simp only [step, add]
  cases r.insert? d <;> rfl

/-! ## Without the interfaces -/

theorem insertInto_withIo : ∀ l : List (Device α),
    insertInto (d.withIo ()) (l.map fun e => e.withIo ()) = (insertInto d l).map fun l => l.map fun e => e.withIo ()
  | [] => rfl
  | e :: rest => by
    have hcompare : compare (e.withIo ()) (d.withIo ()) = compare e d := rfl
    rw [List.map_cons, insertInto, insertInto, hcompare]
    cases compare e d with
    | lt =>
      simp only
      rw [insertInto_withIo rest]
      cases insertInto d rest <;> rfl
    | eq => rfl
    | gt => rfl

theorem bare_add (r : Roster α) (d : Device α) : (r.add d).bare = r.bare.add (d.withIo ()) := by
  unfold add insert?
  simp only [bare, insertInto_withIo]
  cases insertInto d r.devices <;> rfl

theorem bare_setIo (r : Roster α) (i : Nat) (io : α) : (r.setIo i io).bare = r.bare := by
  refine congrArg Roster.mk (List.ext_getElem? fun j => ?_)
  rw [List.getElem?_map, List.getElem?_map, setIo, List.getElem?_modify]
  cases r.devices[j]? with
  | none => rfl
  | some d =>
    by_cases hij : i = j
    · simp [hij, Device.withIo]
    · simp [hij]

theorem sorted_bare : r.bare.Sorted ↔ r.Sorted := List.pairwise_map

theorem find?_bare (p : DevicePath) : r.bare.find? p = (r.find? p).map fun d => d.withIo () := List.find?_map

/-- **A run is its insertions**, but for the interfaces. -/
theorem bare_run : ∀ (r : Roster α) (actions : List (Action α)),
    (r.run actions).bare = r.bare.addAll ((inserted actions).map fun d => d.withIo ())
  | _, [] => rfl
  | r, .insert d :: rest => by
    change ((r.step (.insert d)).1.run rest).bare = _
    rw [step_insert, bare_run, bare_add]
    rfl
  | r, .setIo i io :: rest => by
    change ((r.setIo i io).run rest).bare = _
    rw [bare_run, bare_setIo]
    rfl

theorem Sorted.run (hs : r.Sorted) (actions : List (Action α)) : (r.run actions).Sorted := by
  rw [← sorted_bare, bare_run]
  exact (sorted_bare.2 hs).addAll _

/-! ## What a run leaves -/

theorem Sorted.step_insert_eq_iff (hs : r.Sorted) :
    r.step (.insert d) = (r, false) ↔ ∃ e ∈ r.devices, e.path = d.path := by
  rw [← insert?_eq_none hs]
  cases hr : r.insert? d <;> simp [step, hr]

theorem Sorted.exists_step_insert (hs : r.Sorted) (h : r.step (.insert d) ≠ (r, false)) :
    ∃ pre post, r.devices = pre ++ post ∧ r.step (.insert d) = (⟨pre ++ d :: post⟩, true) := by
  cases hr : r.insert? d with
  | none => exact absurd (by simp only [step, hr]) h
  | some r' =>
    obtain ⟨pre, post, hpre, hpost, -, -⟩ := insert?_eq_some hs hr
    exact ⟨pre, post, hpre, by simp only [step, hr, ← hpost]⟩

theorem find?_run (actions : List (Action α)) (p : DevicePath) :
    (((empty : Roster α).run actions).find? p).map (fun d => d.withIo ()) =
      ((inserted actions).find? fun d => d.path.same p).map fun d => d.withIo () := by
  rw [← find?_bare, bare_run]
  exact ((sorted_bare.2 sorted_empty).find?_addAll _ p).trans List.find?_map

/-- **A run lists each path that was ever inserted once**, in order and with the first device inserted with it.  An
insertion is then refused, and changes nothing, exactly if its path is listed; otherwise it puts the device in one place
and leaves the others as they are. -/
theorem run_lists (actions : List (Action α)) :
    let r := (empty : Roster α).run actions
    r.Sorted ∧ r.devices.Pairwise (fun a b => a.path.bytes ≠ b.path.bytes) ∧
    (∀ d, (r.step (.insert d) = (r, false) ↔ ∃ e ∈ r.devices, e.path.bytes = d.path.bytes) ∧
      (r.step (.insert d) ≠ (r, false) →
        ∃ pre post, r.devices = pre ++ post ∧ r.step (.insert d) = (⟨pre ++ d :: post⟩, true))) ∧
    (∀ p, (∃ e ∈ r.devices, e.path = p) ↔ ∃ d ∈ inserted actions, d.path = p) ∧
    ∀ e ∈ r.devices, ∃ d, (inserted actions).find? (fun d => d.path.same e.path) = some d ∧ e = d.withIo e.io := by
  intro r
  have hs : r.Sorted := sorted_empty.run actions
  simp only [DevicePath.bytes_inj]
  refine ⟨hs, hs.imp fun {a b} hab hbytes => ?_, fun d => ⟨hs.step_insert_eq_iff, hs.exists_step_insert⟩, fun p => ?_,
    fun e he => ?_⟩
  · rw [Device.compare_eq_iff.2 (DevicePath.bytes_inj.1 hbytes)] at hab
    cases hab
  · have hsome := congrArg Option.isSome (find?_run actions p)
    rw [Option.isSome_map, Option.isSome_map, Bool.eq_iff_iff] at hsome
    simpa only [find?, List.find?_isSome, DevicePath.same_iff] using hsome
  · have hfound := find?_run actions e.path
    rw [hs.find?_eq_some.2 ⟨he, rfl⟩, Option.map_some, eq_comm, Option.map_eq_some_iff] at hfound
    obtain ⟨d, hd, hbare⟩ := hfound
    exact ⟨d, hd, (congrArg (fun b => b.withIo e.io) hbare).symm⟩

end Roster
end DriveMap
