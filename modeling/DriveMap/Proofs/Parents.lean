import DriveMap.Proofs.RawPaths
import DriveMap.Proofs.RosterRuns
/-!
# Parents

Whether a device is a child is read off a prefix of bytes, up to a place that was stored once.  The slow way to ask is
to copy the candidate's path without its leaf and to compare the copy with the parent's path node by node.  Both ask for
the parent's nodes and one more (`Device.isChildOf_iff_truncateLeaf`), so a child is one node longer than its parent,
and a roster holds one parent of it at most.
-/
namespace DriveMap
namespace Device

variable {α β : Type} {c : Device β} {p q : Device α}

theorem exists_truncateLeaf? (d : Device α) :
    ∃ t, d.path.truncateLeaf? = some t ∧ t.nodes = d.path.nodes.dropLast := by
  have hempty : d.path.isEmpty = false := by
    simp [DevicePath.isEmpty, DevicePath.nodes_ne_nil d.leaf_at]
  refine ⟨d.path.take (d.path.nodes.length - 1), ?_, List.dropLast_eq_take.symm⟩
  simp [DevicePath.truncateLeaf?, hempty]

theorem isChildOf_iff_same :
    c.isChildOf p = true ↔ ∃ t, c.path.truncateLeaf? = some t ∧ t.same p.path = true := by
  obtain ⟨t, ht, hnodes⟩ := c.exists_truncateLeaf?
  rw [isChildOf_iff_dropLast, ← hnodes]
  constructor
  · intro h
    exact ⟨t, ht, DevicePath.same_iff.2 (DevicePath.ext_nodes h)⟩
  · rintro ⟨t', ht', hsame⟩
    cases ht.symm.trans ht'
    rw [DevicePath.same_iff.1 hsame]

/-- The copy that is made of bytes is the one that is made of nodes. -/
theorem truncateLeaf_raw_eq_ok {t : DevicePath} :
    c.path.raw.truncateLeaf = .ok t.raw ↔ c.path.truncateLeaf? = some t := by
  obtain ⟨t', ht', -⟩ := c.exists_truncateLeaf?
  rw [DevicePath.truncateLeaf_raw, ht']
  constructor
  · intro h
    have hbytes : t'.bytes = t.bytes := congrArg RawPath.bytes (Except.ok.inj h)
    rw [DevicePath.bytes_inj.1 hbytes]
  · intro h
    cases h
    rfl

theorem isChildOf_iff_concat : c.isChildOf p = true ↔ ∃ n, c.path.nodes = p.path.nodes ++ [n] := by
  rw [isChildOf_iff_dropLast]
  constructor
  · intro h
    exact ⟨c.leaf, by rw [← h, dropLast_append_leaf]⟩
  · rintro ⟨n, h⟩
    rw [h, List.dropLast_concat]

theorem length_of_isChildOf (h : c.isChildOf p = true) : c.path.nodes.length = p.path.nodes.length + 1 := by
  obtain ⟨n, hn⟩ := isChildOf_iff_concat.1 h
  rw [hn, List.length_append, List.length_singleton]

theorem isChildOf_eq_false (h : c.path.nodes.length ≠ p.path.nodes.length + 1) : c.isChildOf p = false := by
  rw [← Bool.not_eq_true]
  exact fun hc => h (length_of_isChildOf hc)

theorem place_eq_of_isChildOf {r : Roster α} (hs : r.Sorted) {i j : Nat} (hi : r.get? i = some p)
    (hj : r.get? j = some q) (hp : c.isChildOf p = true) (hq : c.isChildOf q = true) : i = j :=
  hs.eq_of_path_eq hi hj (path_eq_of_isChildOf hp hq rfl)

/-- **The byte prefix tells a child as the copy does**, and what it tells is one node more.  The test never reaches past
the bytes of either path; no device is its own child, nor its child's, nor a child of its parent's parent; and whatever
has been done to a roster, one place of it at most holds a parent of a device. -/
theorem isChildOf_iff_truncateLeaf (c : Device β) (p : Device α) :
    c.raw.isChildOf p.raw = .ok (c.isChildOf p) ∧
    (c.isChildOf p = true ↔ ∃ t, c.path.truncateLeaf? = some t ∧ t.same p.path = true) ∧
    (c.isChildOf p = true ↔ ∃ t : DevicePath, c.path.raw.truncateLeaf = .ok t.raw ∧ t.same p.path = true) ∧
    (c.isChildOf p = true ↔ ∃ n, c.path.nodes = p.path.nodes ++ [n]) ∧
    p.isChildOf p = false ∧
    (c.isChildOf p = true → p.isChildOf c = false) ∧
    (∀ {γ : Type} (between : Device γ), c.isChildOf between = true → between.isChildOf p = true →
      c.isChildOf p = false) ∧
    (∀ {γ : Type} (q : Device γ), c.isChildOf p = true → c.isChildOf q = true → p.path.bytes = q.path.bytes) ∧
    ∀ (actions : List (Roster.Action α)) (i j : Nat) (q : Device α), (Roster.empty.run actions).get? i = some p →
      (Roster.empty.run actions).get? j = some q → c.isChildOf p = true → c.isChildOf q = true → i = j := by
  refine ⟨isChildOf_raw c p, isChildOf_iff_same, ?_, isChildOf_iff_concat, ?_, ?_, ?_, ?_, ?_⟩
  · simp only [truncateLeaf_raw_eq_ok]
    exact isChildOf_iff_same
  · exact isChildOf_eq_false (Nat.succ_ne_self _).symm
  · intro h
    have hlen := length_of_isChildOf h
    exact isChildOf_eq_false (by omega)
  · intro _ between hc hb
    have hlen := length_of_isChildOf hc
    have hlen' := length_of_isChildOf hb
    exact isChildOf_eq_false (by omega)
  · intro _ q hp hq
    rw [isChildOf_iff_dropLast] at hp hq
    rw [DevicePath.ext_nodes (hp.symm.trans hq)]
  · intro actions i j q hi hj
    exact place_eq_of_isChildOf (Roster.sorted_empty.run actions) hi hj

end Device
end DriveMap
