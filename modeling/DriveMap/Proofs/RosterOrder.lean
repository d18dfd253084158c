import DriveMap.Drive.Drives
import DriveMap.Proofs.PathOrder
/-!
# Rosters stay in order

Two devices compare equal exactly when their paths are equal.  A roster that is strictly sorted is so again after an
insertion, and then a path stands in one place only: `Roster.positionOf?` and `Roster.get?` are inverse.
-/
namespace DriveMap

open Std (TransCmp LawfulEqOrd TransOrd OrientedCmp)

namespace Device

variable {α β : Type}

instance : TransOrd (Device α) := inferInstanceAs (TransCmp (compareLex (compareOn leafPath) (compareOn path)))

theorem leaf_eq_of_path_eq {a : Device α} {b : Device β} (h : a.path = b.path) : a.leaf = b.leaf := by
  unfold leaf
  congr 1
  exact congrArg DevicePath.nodes h

theorem compare_eq_iff {a b : Device α} : compare a b = .eq ↔ a.path = b.path := by
  change compareLex (compareOn leafPath) (compareOn path) a b = .eq ↔ _
  rw [compareLex_eq_eq, compareOn, compareOn, LawfulEqOrd.compare_eq_iff_eq, LawfulEqOrd.compare_eq_iff_eq]
  refine ⟨fun h => h.2, fun h => ⟨DevicePath.ext_nodes ?_, h⟩⟩
  exact congrArg (fun n => [n]) (leaf_eq_of_path_eq h)

end Device

namespace Roster

variable {α : Type}

/-- Strictly in the order of devices. -/
def Sorted (r : Roster α) : Prop := r.devices.Pairwise fun a b => compare a b = .lt

theorem sorted_empty : (empty : Roster α).Sorted := List.Pairwise.nil

/-- **What an insertion does**: the device goes between those that come before it and those that come after it. -/
theorem insertInto_eq_some {d : Device α} : ∀ {l l' : List (Device α)}, insertInto d l = some l' →
    l.Pairwise (fun a b => compare a b = .lt) → ∃ pre post, l = pre ++ post ∧ l' = pre ++ d :: post ∧
      (∀ e ∈ pre, compare e d = .lt) ∧ (∀ e ∈ post, compare d e = .lt)
  | [], l', h, _ => by
    cases h
    exact ⟨[], [], rfl, rfl, by simp, by simp⟩
  | e :: rest, l', h, hs => by
    obtain ⟨he, hrest⟩ := List.pairwise_cons.1 hs
    unfold insertInto at h
    split at h
    · rename_i hlt
      obtain ⟨l'', hl'', rfl⟩ := Option.map_eq_some_iff.1 h
      obtain ⟨pre, post, rfl, rfl, hpre, hpost⟩ := insertInto_eq_some hl'' hrest
      exact ⟨e :: pre, post, rfl, rfl, List.forall_mem_cons.2 ⟨hlt, hpre⟩, hpost⟩
    · cases h
    · rename_i hgt
      cases h
      have hde : compare d e = .lt := OrientedCmp.gt_iff_lt.1 hgt
      exact ⟨[], e :: rest, rfl, rfl, by simp,
        List.forall_mem_cons.2 ⟨hde, fun f hf => TransCmp.lt_trans hde (he f hf)⟩⟩

variable {r r' : Roster α} {d : Device α}

theorem insert?_eq_some (hs : r.Sorted) (h : r.insert? d = some r') : ∃ pre post, r.devices = pre ++ post ∧
    r'.devices = pre ++ d :: post ∧ (∀ e ∈ pre, compare e d = .lt) ∧ (∀ e ∈ post, compare d e = .lt) := by
  obtain ⟨l, hl, rfl⟩ := Option.map_eq_some_iff.1 h
  exact insertInto_eq_some hl hs

theorem mem_insert? (hs : r.Sorted) (h : r.insert? d = some r') {e : Device α} :
    e ∈ r'.devices ↔ e = d ∨ e ∈ r.devices := by
  obtain ⟨pre, post, hr, hr', -, -⟩ := insert?_eq_some hs h
  rw [hr, hr', List.mem_append, List.mem_append, List.mem_cons]
  exact or_left_comm

/-- **An insertion keeps a roster sorted.** -/
theorem Sorted.insert? (hs : r.Sorted) (h : r.insert? d = some r') : r'.Sorted := by
  obtain ⟨pre, post, hr, hr', hpre, hpost⟩ := insert?_eq_some hs h
  unfold Sorted at hs ⊢
  rw [hr, List.pairwise_append] at hs
  rw [hr', List.pairwise_append, List.pairwise_cons]
  refine ⟨hs.1, ⟨hpost, hs.2.1⟩, fun a ha b hb => ?_⟩
  rcases List.mem_cons.1 hb with rfl | hb
  · exact hpre a ha
  · exact hs.2.2 a ha b hb

/-- **In a sorted roster a path stands in one place.** -/
theorem Sorted.eq_of_path_eq (hs : r.Sorted) {i j : Nat} {a b : Device α} (ha : r.get? i = some a)
    (hb : r.get? j = some b) (h : a.path = b.path) : i = j := by
  obtain ⟨hi, rfl⟩ := List.getElem?_eq_some_iff.1 ha
  obtain ⟨hj, rfl⟩ := List.getElem?_eq_some_iff.1 hb
  have heq := Device.compare_eq_iff.2 h
  have heq' := Device.compare_eq_iff.2 h.symm
  rcases Nat.lt_trichotomy i j with hij | hij | hij
  · rw [List.pairwise_iff_getElem.1 hs i j hi hj hij] at heq
    cases heq
  · exact hij
  · rw [List.pairwise_iff_getElem.1 hs j i hj hi hij] at heq'
    cases heq'

theorem mem_of_get? {i : Nat} (h : r.get? i = some d) : d ∈ r.devices := List.mem_of_getElem? h

theorem lt_size_of_get? {i : Nat} (h : r.get? i = some d) : i < r.size := (List.getElem?_eq_some_iff.1 h).1

theorem positionOf?_eq_none {p : DevicePath} : r.positionOf? p = none ↔ ∀ d ∈ r.devices, d.path ≠ p := by
  simp only [positionOf?, List.findIdx?_eq_none_iff, ← Bool.not_eq_true, DevicePath.same_iff, ne_eq]

theorem get?_of_positionOf? {p : DevicePath} {i : Nat} (h : r.positionOf? p = some i) :
    ∃ d, r.get? i = some d ∧ d.path = p := by
  obtain ⟨hi, hp, -⟩ := List.findIdx?_eq_some_iff_getElem.1 h
  exact ⟨r.devices[i], List.getElem?_eq_getElem hi, DevicePath.same_iff.1 hp⟩

theorem Sorted.positionOf?_path (hs : r.Sorted) {i : Nat} (h : r.get? i = some d) :
    r.positionOf? d.path = some i := by
  cases hp : r.positionOf? d.path with
  | none => exact absurd rfl (positionOf?_eq_none.1 hp d (mem_of_get? h))
  | some j =>
    obtain ⟨e, he, hpath⟩ := get?_of_positionOf? hp
    rw [hs.eq_of_path_eq he h hpath]

theorem Sorted.positionOf?_eq_some (hs : r.Sorted) {p : DevicePath} {i : Nat} :
    r.positionOf? p = some i ↔ ∃ d, r.get? i = some d ∧ d.path = p := by
  constructor
  · exact get?_of_positionOf?
  · rintro ⟨d, hd, rfl⟩
    exact hs.positionOf?_path hd

end Roster
end DriveMap
