import DriveMap.Device.Basic
import DriveMap.Proofs.NodeBytes
/-!
# Children, node by node

`Device.isChildOf` looks at bytes and at a stored offset.  Here it is what it stands for: the child's nodes are the
parent's and one more (`Device.isChildOf_iff`).  A child therefore has one parent path.
-/
namespace DriveMap
namespace DevicePath

theorem leafOffset?_eq {p : DevicePath} {o : Nat} (h : p.leafOffset? = some o) :
    o = Node.totalSize p.nodes.dropLast := by
  have hne := nodes_ne_nil h
  rw [leafOffset?, offsets, ← List.dropLast_concat_getLast hne, offsetsFrom_append, List.getLast?_append] at h
  simp only [offsetsFrom, List.getLast?_singleton, Option.some_or, Option.some.injEq, Nat.zero_add] at h
  exact h.symm

theorem take_bytes_leafOffset {p : DevicePath} {o : Nat} (h : p.leafOffset? = some o) :
    p.bytes.take o = p.nodes.dropLast.flatMap Node.bytes := by
  have hsplit := List.dropLast_concat_getLast (nodes_ne_nil h)
  have hb : p.bytes = p.nodes.dropLast.flatMap Node.bytes ++
      ([p.nodes.getLast (nodes_ne_nil h)].flatMap Node.bytes ++ Node.endEntire.bytes) := by
    rw [← List.append_assoc, ← List.flatMap_append, hsplit, bytes_eq]
  rw [leafOffset?_eq h, hb, ← length_flatMap_bytes, List.take_left]

end DevicePath

namespace Device

variable {α β γ : Type}

theorem dropLast_append_leaf (d : Device α) : d.path.nodes.dropLast ++ [d.leaf] = d.path.nodes :=
  List.dropLast_concat_getLast _

theorem leaf?_path (d : Device α) : d.path.leaf? = some d.leaf := List.getLast?_eq_some_getLast _

theorem isChildOf_iff_dropLast {c : Device β} {p : Device α} :
    c.isChildOf p = true ↔ c.path.nodes.dropLast = p.path.nodes := by
  rw [isChildOf, DevicePath.take_bytes_leafOffset c.leaf_at, DevicePath.take_bytes_size, beq_iff_eq]
  exact ⟨Node.flatMap_bytes_inj, fun h => h ▸ rfl⟩

/-- **A child's path is its parent's path and one node more**, which is then the child's leaf. -/
theorem isChildOf_iff {c : Device β} {p : Device α} :
    c.isChildOf p = true ↔ c.path.nodes = p.path.nodes ++ [c.leaf] := by
  rw [isChildOf_iff_dropLast]
  constructor
  · intro h
    rw [← h, dropLast_append_leaf]
  · intro h
    rw [h, List.dropLast_concat]

theorem path_eq_of_isChildOf {c : Device β} {d : Device γ} {p q : Device α} (hp : c.isChildOf p = true)
    (hq : d.isChildOf q = true) (h : c.path = d.path) : p.path = q.path := by
  rw [isChildOf_iff_dropLast] at hp hq
  exact DevicePath.ext_nodes (by rw [← hp, ← hq, h])

theorem findChild?_eq_some {p : Device α} {devices : List (Device β)} {test : Device β → Bool} {c : Device β}
    (h : p.findChild? devices test = some c) : c ∈ devices ∧ c.isChildOf p = true ∧ test c = true := by
  have hmem := List.mem_of_find?_eq_some h
  rw [children, List.mem_filter] at hmem
  exact ⟨hmem.1, hmem.2, List.find?_some h⟩

/-- A child that passes the test is reason enough for a search to find one. -/
theorem exists_findChild? {p : Device α} {devices : List (Device β)} {test : Device β → Bool} {c : Device β}
    (hc : c ∈ devices) (hp : c.isChildOf p = true) (ht : test c = true) :
    ∃ c', p.findChild? devices test = some c' := by
  rw [← Option.isSome_iff_exists, findChild?, List.find?_isSome]
  exact ⟨c, List.mem_filter.2 ⟨hc, hp⟩, ht⟩

end Device
end DriveMap
