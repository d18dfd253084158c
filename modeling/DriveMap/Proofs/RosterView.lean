import DriveMap.Proofs.RosterOrder
import Mathlib.Data.List.Basic
import Mathlib.Data.List.TakeDrop
/-!
# What a roster lists

A sorted roster is known by what it lists: under each path one device or none (`Roster.find?`).  An addition lists a
device under its path unless there is one, so of devices added one after another the first with a path is listed
(`Roster.Sorted.find?_addAll`).  The places follow from the paths alone: the order of two devices is that of their
paths, so rosters that list the same paths have them in the same places (`Roster.Sorted.map_path_eq`).
-/
namespace DriveMap

open Std (TransCmp OrientedCmp)

/-- The leaf of a path as a path of its own; the empty path has none. -/
def DevicePath.leafPart (p : DevicePath) : DevicePath := p.drop (p.nodes.length - 1)

/-- The order of paths by which drives are placed: leaves first. -/
def DevicePath.leafFirst : DevicePath → DevicePath → Ordering := compareLex (compareOn leafPart) compare

namespace Device
variable {α β : Type}

theorem leafPath_eq (d : Device α) : d.leafPath = d.path.leafPart := by
  refine DevicePath.ext_nodes ?_
  change [d.leaf] = d.path.nodes.drop _
  rw [List.drop_length_sub_one (DevicePath.nodes_ne_nil d.leaf_at)]
  rfl

theorem compare_eq_leafFirst (a b : Device α) : compare a b = DevicePath.leafFirst a.path b.path := by
  change (compare a.leafPath b.leafPath).then (compare a.path b.path) = _
  rw [leafPath_eq, leafPath_eq]
  rfl

end Device

instance : TransCmp DevicePath.leafFirst :=
  inferInstanceAs (TransCmp (compareLex (compareOn DevicePath.leafPart) compare))

namespace Roster
variable {α : Type}

theorem insertInto_eq_none {d : Device α} : ∀ {l : List (Device α)}, l.Pairwise (fun a b => compare a b = .lt) →
    (insertInto d l = none ↔ ∃ e ∈ l, e.path = d.path)
  | [], _ => by simp [insertInto]
  | e :: rest, hs => by
    obtain ⟨he, hrest⟩ := List.pairwise_cons.1 hs
    simp only [List.mem_cons, exists_eq_or_imp, ← Device.compare_eq_iff (a := e)]
    unfold insertInto
    split
    · rename_i hlt
      simp [hlt, insertInto_eq_none hrest]
    · rename_i heq
      simp [heq]
    · rename_i hgt
      have hbehind : ∀ f ∈ rest, f.path ≠ d.path := by
        intro f hf hpath
        have hdf : compare d f = .lt := TransCmp.lt_trans (OrientedCmp.gt_iff_lt.1 hgt) (he f hf)
        rw [Device.compare_eq_iff.2 hpath.symm] at hdf
        cases hdf
      simpa [hgt] using hbehind

variable {r r' : Roster α} {d e : Device α} {p : DevicePath}

theorem insert?_eq_none (hs : r.Sorted) : r.insert? d = none ↔ ∃ e ∈ r.devices, e.path = d.path := by
  rw [insert?, Option.map_eq_none_iff, insertInto_eq_none hs]

theorem Sorted.eq_of_mem (hs : r.Sorted) (hd : d ∈ r.devices) (he : e ∈ r.devices) (h : d.path = e.path) : d = e := by
  obtain ⟨i, hi⟩ := List.getElem?_of_mem hd
  obtain ⟨j, hj⟩ := List.getElem?_of_mem he
  obtain rfl : i = j := hs.eq_of_path_eq hi hj h
  exact Option.some.inj (hi.symm.trans hj)

/-! ## Under a path -/

/-- The device listed under a path. -/
def find? (r : Roster α) (p : DevicePath) : Option (Device α) := r.devices.find? fun d => d.path.same p

theorem find?_eq_none : r.find? p = none ↔ ∀ d ∈ r.devices, d.path ≠ p := by
  simp only [find?, List.find?_eq_none, DevicePath.same_iff, ne_eq]

theorem of_find? (h : r.find? p = some d) : d ∈ r.devices ∧ d.path = p := by
  have htest : d.path.same p = true := List.find?_some (p := fun e : Device α => e.path.same p) h
  exact ⟨List.mem_of_find?_eq_some h, DevicePath.same_iff.1 htest⟩

theorem isSome_find? : (r.find? p).isSome = true ↔ p ∈ r.devices.map Device.path := by
  simp only [find?, List.find?_isSome, DevicePath.same_iff, List.mem_map]

theorem Sorted.find?_eq_some (hs : r.Sorted) : r.find? p = some d ↔ d ∈ r.devices ∧ d.path = p := by
  refine ⟨of_find?, ?_⟩
  rintro ⟨hd, rfl⟩
  cases h : r.find? d.path with
  | none => exact absurd rfl (find?_eq_none.1 h d hd)
  | some e => rw [hs.eq_of_mem (of_find? h).1 hd (of_find? h).2]

/-! ## Additions -/

/-- The roster with a device added, unless its path is listed. -/
def add (r : Roster α) (d : Device α) : Roster α := (r.insert? d).getD r

theorem Sorted.add (hs : r.Sorted) (d : Device α) : (r.add d).Sorted := by
  unfold Roster.add
  cases h : r.insert? d with
  | none => exact hs
  | some r' => exact hs.insert? h

theorem Sorted.mem_add (hs : r.Sorted) : e ∈ (r.add d).devices ↔
    e ∈ r.devices ∨ e = d ∧ ∀ f ∈ r.devices, f.path ≠ d.path := by
  unfold Roster.add
  cases h : r.insert? d with
  | none =>
    obtain ⟨f, hf, hpath⟩ := (insert?_eq_none hs).1 h
    have hlisted : ¬∀ f ∈ r.devices, f.path ≠ d.path := fun hall => hall f hf hpath
    simp only [Option.getD_none, hlisted, and_false, or_false]
  | some r' =>
    have hnew : ∀ f ∈ r.devices, f.path ≠ d.path := by
      intro f hf hpath
      rw [(insert?_eq_none hs).2 ⟨f, hf, hpath⟩] at h
      cases h
    rw [Option.getD_some, mem_insert? hs h, and_iff_left hnew, or_comm]

/-- **What an addition lists**: what was listed, and under a path that was not the device itself. -/
theorem Sorted.find?_add (hs : r.Sorted) (d : Device α) (p : DevicePath) :
    (r.add d).find? p = (r.find? p).or (if d.path.same p then some d else none) := by
  cases h : r.find? p with
  | some e =>
    obtain ⟨he, hpath⟩ := of_find? h
    exact (hs.add d).find?_eq_some.2 ⟨hs.mem_add.2 (.inl he), hpath⟩
  | none =>
    have hfree := find?_eq_none.1 h
    rw [Option.none_or]
    split
    · rename_i hd
      obtain rfl := DevicePath.same_iff.1 hd
      exact (hs.add d).find?_eq_some.2 ⟨hs.mem_add.2 (.inr ⟨rfl, hfree⟩), rfl⟩
    · rename_i hd
      refine find?_eq_none.2 fun f hf => ?_
      rcases hs.mem_add.1 hf with hf | ⟨rfl, -⟩
      · exact hfree f hf
      · exact fun hpath => hd (DevicePath.same_iff.2 hpath)

/-- The roster with devices added in order. -/
def addAll (r : Roster α) (ds : List (Device α)) : Roster α := ds.foldl add r

theorem Sorted.addAll : ∀ {r : Roster α}, r.Sorted → ∀ ds : List (Device α), (r.addAll ds).Sorted
  | _, hs, [] => hs
  | _, hs, d :: ds => (hs.add d).addAll ds

/-- **Of the devices added with a path the first is listed**, unless the path was listed before. -/
theorem Sorted.find?_addAll : ∀ {r : Roster α}, r.Sorted → ∀ (ds : List (Device α)) (p : DevicePath),
    (r.addAll ds).find? p = (r.find? p).or (ds.find? fun d => d.path.same p)
  | r, _, [], p => Option.or_none.symm
  | r, hs, d :: ds, p => by
    change ((r.add d).addAll ds).find? p = _
    rw [(hs.add d).find?_addAll ds p, hs.find?_add, Option.or_assoc, List.find?_cons]
    cases d.path.same p <;> rfl

/-! ## Places -/

theorem Sorted.map_path (hs : r.Sorted) :
    (r.devices.map Device.path).Pairwise fun p q => DevicePath.leafFirst p q = .lt :=
  List.pairwise_map.2 (hs.imp fun h => (Device.compare_eq_leafFirst _ _).symm.trans h)

theorem Sorted.nodup_path (hs : r.Sorted) : (r.devices.map Device.path).Nodup := by
  refine hs.map_path.imp fun {p q} h hpq => ?_
  subst hpq
  have hself : DevicePath.leafFirst p p = .eq := Std.ReflCmp.compare_self
  rw [hself] at h
  cases h

/-- **Rosters that list the same paths list them in the same order.** -/
theorem Sorted.map_path_eq (hs : r.Sorted) (hs' : r'.Sorted)
    (h : ∀ p, (r.find? p).isSome = (r'.find? p).isSome) :
    r.devices.map Device.path = r'.devices.map Device.path := by
  have hperm : (r.devices.map Device.path).Perm (r'.devices.map Device.path) :=
    (List.perm_ext_iff_of_nodup hs.nodup_path hs'.nodup_path).2 fun p => by
      rw [← isSome_find?, ← isSome_find?, h p]
  refine hperm.eq_of_pairwise (fun p q _ _ hpq hqp => ?_) hs.map_path hs'.map_path
  have hswap : DevicePath.leafFirst p q = (DevicePath.leafFirst q p).swap := OrientedCmp.eq_swap
  rw [hpq, hqp] at hswap
  cases hswap

theorem Sorted.filterMap_find? (hs : r.Sorted) : (r.devices.map Device.path).filterMap r.find? = r.devices := by
  have hfound : ∀ d ∈ r.devices, (r.find? ∘ Device.path) d = some d := fun d hd => hs.find?_eq_some.2 ⟨hd, rfl⟩
  rw [List.filterMap_map, List.filterMap_congr hfound, List.filterMap_some]

/-- **A roster is what it lists.** -/
theorem Sorted.ext (hs : r.Sorted) (hs' : r'.Sorted) (h : ∀ p, r.find? p = r'.find? p) : r = r' := by
  have hpaths := hs.map_path_eq hs' fun p => congrArg Option.isSome (h p)
  have hdevices : r.devices = r'.devices := by
    rw [← hs.filterMap_find?, ← hs'.filterMap_find?, hpaths, funext h]
  cases r; cases r'; cases hdevices; rfl

end Roster
end DriveMap
