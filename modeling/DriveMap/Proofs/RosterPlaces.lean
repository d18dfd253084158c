import DriveMap.Proofs.RosterRuns
/-!
# Places in a roster

A device's place in a sorted roster is the number of listed devices that come before it (`Roster.Sorted.place_eq`).  So
an insertion shifts by one the places that are not below the new device's own, and a path is found where the device with
it stands (`Roster.run_places`).
-/
namespace DriveMap
namespace Roster

open Std (OrientedCmp)

variable {α : Type}

/-- How many listed devices come before a device. -/
def rank (r : Roster α) (d : Device α) : Nat := r.devices.countP fun e => compare e d == .lt

/-- Where a place goes when a device is put at place `k`. -/
def shift (k i : Nat) : Nat := if i < k then i else i + 1

variable {r r' : Roster α} {d e : Device α} {p : DevicePath} {i k : Nat}

/-- Between what comes before it and what comes after it, a device's rank is the length of the first. -/
theorem rank_of_split {pre post : List (Device α)} (hr : r.devices = pre ++ post)
    (hpre : ∀ e ∈ pre, compare e d = .lt) (hpost : ∀ e ∈ post, compare e d ≠ .lt) : r.rank d = pre.length := by
  have hall : pre.countP (fun e => compare e d == .lt) = pre.length :=
    List.countP_eq_length.2 fun e he => beq_iff_eq.2 (hpre e he)
  have hnone : post.countP (fun e => compare e d == .lt) = 0 :=
    List.countP_eq_zero.2 fun e he h => hpost e he (beq_iff_eq.1 h)
  rw [rank, hr, List.countP_append, hall, hnone, Nat.add_zero]

theorem ne_lt_of_lt {a b : Device α} (h : compare a b = .lt) : compare b a ≠ .lt := by
  have hswap : compare b a = (compare a b).swap := OrientedCmp.eq_swap
  rw [hswap, h]
  exact nofun

/-- **In a sorted roster a device's place is its rank.** -/
theorem Sorted.place_eq (hs : r.Sorted) (h : r.get? i = some d) : i = r.rank d := by
  obtain ⟨hi, rfl⟩ := List.getElem?_eq_some_iff.1 h
  have hsplit : r.devices = r.devices.take i ++ r.devices[i] :: r.devices.drop (i + 1) := by
    rw [← List.drop_eq_getElem_cons hi, List.take_append_drop]
  have hpairs := hs
  unfold Sorted at hpairs
  rw [hsplit, List.pairwise_append, List.pairwise_cons] at hpairs
  obtain ⟨-, ⟨hbehind, -⟩, hbefore⟩ := hpairs
  rw [rank_of_split hsplit (fun e he => hbefore e he _ List.mem_cons_self), List.length_take_of_le (Nat.le_of_lt hi)]
  intro e he
  rcases List.mem_cons.1 he with rfl | he
  · rw [Device.compare_eq_iff.2 rfl]
    exact nofun
  · exact ne_lt_of_lt (hbehind e he)

theorem get?_of_split {pre post : List (Device α)} (hr : r.devices = pre ++ post) (hr' : r'.devices = pre ++ d :: post)
    (i : Nat) : r'.get? (shift pre.length i) = r.get? i := by
  unfold get? shift
  rw [hr, hr']
  split
  · rename_i hi
    rw [List.getElem?_append_left hi, List.getElem?_append_left hi]
  · rename_i hi
    have hle := Nat.le_of_not_lt hi
    rw [List.getElem?_append_right hle, List.getElem?_append_right (Nat.le_succ_of_le hle), Nat.succ_sub hle,
      List.getElem?_cons_succ]

/-- **What an insertion does to places**: the new device stands at its rank, and the places from there on are
shifted. -/
theorem Sorted.places_insert? (hs : r.Sorted) (h : r.insert? d = some r') :
    r'.get? (r.rank d) = some d ∧ ∀ i, r'.get? (shift (r.rank d) i) = r.get? i := by
  obtain ⟨pre, post, hr, hr', hpre, hpost⟩ := insert?_eq_some hs h
  rw [rank_of_split hr hpre fun e he => ne_lt_of_lt (hpost e he)]
  refine ⟨?_, get?_of_split hr hr'⟩
  rw [get?, hr', List.getElem?_append_right (Nat.le_refl _), Nat.sub_self, List.getElem?_cons_zero]

theorem size_insert? (hs : r.Sorted) (h : r.insert? d = some r') : r'.size = r.size + 1 := by
  obtain ⟨pre, post, hr, hr', -, -⟩ := insert?_eq_some hs h
  rw [size, size, hr, hr', List.length_append, List.length_append, List.length_cons, Nat.add_assoc]

/-- **A path is found where the device with it stands, and an insertion shifts places by one.**  A new device stands at
the number of devices that come before it; those below that place keep theirs, and the others move up one. -/
theorem run_places (actions : List (Action α)) :
    let r := (empty : Roster α).run actions
    (∀ p i, r.positionOf? p = some i ↔ ∃ d, r.get? i = some d ∧ d.path.bytes = p.bytes) ∧
    (∀ i, (r.get? i).isSome = true ↔ i < r.size) ∧
    (∀ i d, r.get? i = some d → i = r.rank d) ∧
    ∀ d r', r.step (.insert d) = (r', true) → r'.size = r.size + 1 ∧
      r'.get? (r.rank d) = some d ∧ r'.positionOf? d.path = some (r.rank d) ∧
      ∀ i e, r.get? i = some e →
        r'.get? (shift (r.rank d) i) = some e ∧ r'.positionOf? e.path = some (shift (r.rank d) i) := by
  intro r
  have hs : r.Sorted := sorted_empty.run actions
  refine ⟨fun p i => ?_, fun i => ?_, fun i d => hs.place_eq, fun d r' h => ?_⟩
  · simp only [DevicePath.bytes_inj]
    exact hs.positionOf?_eq_some
  · simp [get?, size]
  · have hinsert : r.insert? d = some r' := by
      unfold step at h
      cases hr : r.insert? d <;> simp_all
    have hs' : r'.Sorted := hs.insert? hinsert
    obtain ⟨hnew, hold⟩ := hs.places_insert? hinsert
    refine ⟨size_insert? hs hinsert, hnew, hs'.positionOf?_path hnew, fun i e he => ?_⟩
    have hget : r'.get? (shift (r.rank d) i) = some e := (hold i).trans he
    exact ⟨hget, hs'.positionOf?_path hget⟩

end Roster
end DriveMap
