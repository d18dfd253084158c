import DriveMap.Proofs.RawPaths
/-!
# To append a node and to cut the leaf

A node that is pushed behind the nodes of a path becomes the leaf, and is what a cut takes off; the leaf of a path,
pushed behind what a cut leaves, gives the path back.  On nodes that is a list and its last member.  On bytes it takes a
scan that counts, a builder that copies and an offset that is summed up, and all of them come to the same
(`DevicePath.truncateLeaf_extend`).
-/
namespace DriveMap

namespace RawPath

/-- What is left of a path when so many leaves are cut, one after another. -/
def cutLeaves : Nat → RawPath → Attempt RawPath
  | 0, r => .ok r
  | k + 1, r => do cutLeaves k (← r.truncateLeaf)

end RawPath

namespace DevicePath

variable {p : DevicePath} {n : Node} {s : Node.Spec}

/-! ## Nodes -/

theorem truncateLeaf?_snoc (p : DevicePath) (h : n.isEndEntire = false) : (p.snoc n h).truncateLeaf? = some p := by
  have hne : (p.snoc n h).isEmpty = false := by simp [isEmpty, snoc]
  rw [truncateLeaf?, hne]
  refine congrArg some (ext_nodes ?_)
  change (p.nodes ++ [n]).take ((p.nodes ++ [n]).length - 1) = p.nodes
  rw [← List.dropLast_eq_take, List.dropLast_concat]

theorem leaf?_snoc (p : DevicePath) (h : n.isEndEntire = false) : (p.snoc n h).leaf? = some n :=
  List.getLast?_concat

theorem leafOffset?_snoc (p : DevicePath) (h : n.isEndEntire = false) :
    (p.snoc n h).leafOffset? = some (p.size - Header.size) := by
  rw [leafOffset?, offsets, snoc, offsetsFrom_append, size_eq, Nat.add_sub_cancel, Nat.zero_add]
  exact List.getLast?_concat

/-- **A path that is not empty is another with its leaf behind it.** -/
theorem exists_snoc (h : p.nodes ≠ []) :
    ∃ (q : DevicePath) (n : Node) (hn : n.isEndEntire = false), p = q.snoc n hn := by
  have hn := p.noEnd _ (List.getLast_mem h)
  refine ⟨p.take (p.nodes.length - 1), p.nodes.getLast h, hn, ext_nodes ?_⟩
  change p.nodes = p.nodes.take (p.nodes.length - 1) ++ [p.nodes.getLast h]
  rw [← List.dropLast_eq_take, List.dropLast_concat_getLast]

theorem push_spec (p : DevicePath) (h : n.isEndEntire = false) :
    (Builder.ofPath p).push n.spec = .ok (.ofPath (p.snoc n h)) := by
  obtain ⟨b, hok, hheld⟩ := Builder.push_of_allowed (Node.allowed_spec h) (.ofPath p)
  have hsnoc : (Builder.ofPath (p.snoc n h)).held = (Builder.ofPath p).held ++ [n.spec] := List.map_append
  rw [hok, Builder.ext_held (hheld.trans hsnoc.symm)]

theorem exists_node_of_allowed (h : s.Allowed) : ∃ n : Node, n.isEndEntire = false ∧ n.spec = s :=
  ⟨⟨s.nodeType, s.payload, Nat.lt_succ_of_le h.2⟩, beq_eq_false_iff_ne.2 h.1, rfl⟩

theorem exists_snoc_of_push {b : Builder} (h : (Builder.ofPath p).push s = .ok b) :
    ∃ (n : Node) (hn : n.isEndEntire = false), n.spec = s ∧ b = .ofPath (p.snoc n hn) := by
  by_cases hs : s.Allowed
  · obtain ⟨n, hn, rfl⟩ := exists_node_of_allowed hs
    cases (push_spec p hn).symm.trans h
    exact ⟨n, hn, rfl, rfl⟩
  · obtain ⟨fault, hfault⟩ := Node.Spec.exists_refused hs
    cases (Builder.push_of_refused hfault _).symm.trans h

/-! ## Bytes -/

theorem extend_spec (p : DevicePath) (h : n.isEndEntire = false) : p.raw.extend [n.spec] = .ok (p.snoc n h).raw := by
  rw [extend_raw, Builder.pushAll, push_spec p h]
  rfl

theorem exists_snoc_of_extend {r : RawPath} (h : p.raw.extend [s] = .ok r) :
    ∃ (n : Node) (hn : n.isEndEntire = false), n.spec = s ∧ r = (p.snoc n hn).raw := by
  rw [extend_raw, Builder.pushAll] at h
  cases hpush : (Builder.ofPath p).push s with
  | error fault =>
    rw [hpush] at h
    cases h
  | ok b =>
    obtain ⟨n, hn, hs, rfl⟩ := exists_snoc_of_push hpush
    rw [hpush] at h
    cases h
    exact ⟨n, hn, hs, rfl⟩

theorem extendCopy_bytes (p : DevicePath) (h : n.isEndEntire = false) :
    p.raw.extendCopy n.bytes = .ok (p.snoc n h).raw := by
  have hpush := Builder.push_raw (Builder.ofPath p) n.spec
  rw [push_spec p h] at hpush
  rw [RawPath.extendCopy, pieces_raw]
  simp only [bind, Except.bind, RawBuilder.pushCopies_nodes, RawBuilder.pushCopy_bytes, hpush]
  exact (Builder.ofPath (p.snoc n h)).finalize_raw

theorem truncateLeaf_snoc_raw (p : DevicePath) (h : n.isEndEntire = false) :
    (p.snoc n h).raw.truncateLeaf = .ok p.raw := by
  rw [truncateLeaf_raw, truncateLeaf?_snoc]
  rfl

theorem truncateLeaf_raw_of_nil (h : p.nodes = []) : p.raw.truncateLeaf = .error .absent := by
  have hempty : p.isEmpty = true := List.isEmpty_iff.2 h
  rw [truncateLeaf_raw, truncateLeaf?, if_pos hempty]
  rfl

theorem leaf_snoc_raw (p : DevicePath) (h : n.isEndEntire = false) : (p.snoc n h).raw.leaf = .ok n.bytes := by
  rw [leaf_raw, leaf?_snoc]
  rfl

theorem leafOffset_snoc_raw (p : DevicePath) (h : n.isEndEntire = false) :
    (p.snoc n h).raw.leafOffset = .ok (p.raw.bytes.length - 4) := by
  rw [leafOffset_raw, leafOffset?_snoc, ← length_bytes]
  rfl

/-- **As many leaves as a path has nodes can be cut, and no more.** -/
theorem cutLeaves_raw : ∀ (k : Nat) (p : DevicePath), p.raw.cutLeaves k =
    if k ≤ p.nodes.length then .ok (p.take (p.nodes.length - k)).raw else .error .absent
  | 0, p => by
    have hall : p.take p.nodes.length = p := ext_nodes List.take_length
    rw [if_pos (Nat.zero_le _), Nat.sub_zero, hall]
    rfl
  | k + 1, p => by
    by_cases h : p.nodes = []
    · rw [RawPath.cutLeaves, truncateLeaf_raw_of_nil h, if_neg (by simp [h])]
      rfl
    · obtain ⟨q, n, hn, rfl⟩ := exists_snoc h
      have hlen : (q.snoc n hn).nodes.length = q.nodes.length + 1 := List.length_append
      have htake : (q.snoc n hn).take (q.nodes.length - k) = q.take (q.nodes.length - k) :=
        ext_nodes (List.take_append_of_le_length (Nat.sub_le _ _))
      rw [RawPath.cutLeaves, truncateLeaf_snoc_raw, hlen, Nat.add_sub_add_right, htake]
      simp only [Nat.add_le_add_iff_right]
      exact cutLeaves_raw k q

/-- Nothing stops a cut but that there is no leaf. -/
theorem of_truncateLeaf_raw_error {stop : Stop} (h : p.raw.truncateLeaf = .error stop) :
    stop = .absent ∧ p.nodes = [] := by
  by_cases hne : p.nodes = []
  · cases (truncateLeaf_raw_of_nil hne).symm.trans h
    exact ⟨rfl, hne⟩
  · obtain ⟨q, n, hn, rfl⟩ := exists_snoc hne
    cases (truncateLeaf_snoc_raw q hn).symm.trans h

theorem truncateLeaf_raw_eq_absent : p.raw.truncateLeaf = .error .absent ↔ p.nodes = [] :=
  ⟨fun h => (of_truncateLeaf_raw_error h).2, truncateLeaf_raw_of_nil⟩

theorem cutLeaves_raw_eq_empty {k : Nat} : p.raw.cutLeaves k = .ok empty.raw ↔ k = p.nodes.length := by
  rw [cutLeaves_raw]
  constructor
  · intro h
    split at h
    · rename_i hk
      have hbytes := congrArg RawPath.bytes (Except.ok.inj h)
      have hnodes : p.nodes.take (p.nodes.length - k) = [] := congrArg nodes (bytes_inj.1 hbytes)
      have hlen := congrArg List.length hnodes
      rw [List.length_take, List.length_nil] at hlen
      omega
    · cases h
  · rintro rfl
    have hnone : p.take 0 = empty := rfl
    rw [if_pos (Nat.le_refl _), Nat.sub_self, hnone]

/-- **Cutting the leaf undoes pushing a node, and pushing the leaf undoes the cut.**  Every node that is allowed can be
pushed behind a path; it is the leaf then, it starts where the end of the path was, and a cut leaves the path.  The leaf
of a path can be pushed behind what its cut leaves, and that is the path.  Nothing but the empty path has no leaf to
cut, and it is reached by as many cuts as there are nodes. -/
theorem truncateLeaf_extend (p : DevicePath) :
    (∀ s : Node.Spec, (∃ q, p.raw.extend [s] = .ok q) ↔ s.Allowed) ∧
    (∀ s q, p.raw.extend [s] = .ok q → RawPath.ofBytes q.bytes = .ok q ∧ q.truncateLeaf = .ok p.raw ∧
      q.leaf = .ok s.bytes ∧ q.leafOffset = .ok (p.raw.bytes.length - 4)) ∧
    (p.nodes ≠ [] → ∃ (parent : DevicePath) (leaf : Bytes), p.raw.truncateLeaf = .ok parent.raw ∧
      p.raw.leaf = .ok leaf ∧ parent.raw.extendCopy leaf = .ok p.raw) ∧
    (p.raw.truncateLeaf = .error .absent ↔ p.nodes = []) ∧
    (∀ stop, p.raw.truncateLeaf = .error stop → stop = .absent) ∧
    (∀ k, k ≤ p.nodes.length → ∃ q : DevicePath, p.raw.cutLeaves k = .ok q.raw ∧ q.nodes.length + k = p.nodes.length) ∧
    (∀ k, p.raw.cutLeaves k = .ok empty.raw ↔ k = p.nodes.length) ∧
    (∀ s b, (Builder.ofPath p).push s = .ok b → b.finalize.truncateLeaf? = some p ∧
      b.finalize.leaf?.map Node.spec = some s ∧ b.finalize.leafOffset? = some (p.size - 4)) ∧
    (∀ parent leaf, p.truncateLeaf? = some parent → p.leaf? = some leaf →
      (Builder.ofPath parent).push leaf.spec = .ok (.ofPath p)) ∧
    (p.truncateLeaf? = none ↔ p.nodes = []) := by
  refine ⟨fun s => ⟨?_, ?_⟩, fun s q hq => ?_, fun hne => ?_, truncateLeaf_raw_eq_absent, fun stop hstop => ?_,
    fun k hk => ?_, fun k => cutLeaves_raw_eq_empty, fun s b hb => ?_, fun parent leaf hparent hleaf => ?_, ?_⟩
  · rintro ⟨q, hq⟩
    obtain ⟨n, hn, rfl, -⟩ := exists_snoc_of_extend hq
    exact Node.allowed_spec hn
  · intro hs
    obtain ⟨n, hn, rfl⟩ := exists_node_of_allowed hs
    exact ⟨_, extend_spec p hn⟩
  · obtain ⟨n, hn, rfl, rfl⟩ := exists_snoc_of_extend hq
    have hread : RawPath.ofBytes (p.snoc n hn).raw.bytes = .ok (p.snoc n hn).raw := by
      rw [ofBytes_raw, raw, ofBytes_eq_ok.2 ⟨[], (List.append_nil _).symm⟩]
      rfl
    rw [Node.bytes_spec]
    exact ⟨hread, truncateLeaf_snoc_raw p hn, leaf_snoc_raw p hn, leafOffset_snoc_raw p hn⟩
  · obtain ⟨q, n, hn, rfl⟩ := exists_snoc hne
    exact ⟨q, n.bytes, truncateLeaf_snoc_raw q hn, leaf_snoc_raw q hn, extendCopy_bytes q hn⟩
  · exact (of_truncateLeaf_raw_error hstop).1
  · have hlen : (p.nodes.take (p.nodes.length - k)).length = p.nodes.length - k :=
      List.length_take_of_le (Nat.sub_le _ _)
    refine ⟨p.take (p.nodes.length - k), by rw [cutLeaves_raw, if_pos hk], ?_⟩
    change (p.nodes.take (p.nodes.length - k)).length + k = p.nodes.length
    omega
  · obtain ⟨n, hn, rfl, rfl⟩ := exists_snoc_of_push hb
    refine ⟨truncateLeaf?_snoc p hn, ?_, leafOffset?_snoc p hn⟩
    change (p.snoc n hn).leaf?.map Node.spec = some n.spec
    rw [leaf?_snoc]
    rfl
  · have hne : p.nodes ≠ [] := by
      rintro hnil
      rw [leaf?, hnil] at hleaf
      cases hleaf
    obtain ⟨q, n, hn, rfl⟩ := exists_snoc hne
    cases (truncateLeaf?_snoc q hn).symm.trans hparent
    cases (leaf?_snoc parent hn).symm.trans hleaf
    exact push_spec parent hn
  · simp [truncateLeaf?, isEmpty]

end DevicePath
end DriveMap
