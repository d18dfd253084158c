import DriveMap.Proofs.RawRuns
import Mathlib.Data.List.TakeWhile
/-!
# Cutting a path at a type

A cut at a type keeps the nodes in front of the first one of that type: of the beginnings of the path that are free of
the type, the longest.  Cuts at several types, one after another, come to one cut at the first node of any of them
(`DevicePath.nodes_truncateAtEach`), so neither their order matters nor that one is made twice.  A cut is a copy of what
a scan hands out, and no node that it copies is refused (`DevicePath.truncateAt_longest`).
-/
namespace DriveMap
namespace DevicePath

/-- Of the beginnings of some nodes that are free of type `t`, the longest. -/
structure IsLongestFreeOf (t : NodeType) (front nodes : List Node) : Prop where
  begins : front <+: nodes
  free : ∀ n ∈ front, n.nodeType ≠ t
  longest : ∀ front', front' <+: nodes → (∀ n ∈ front', n.nodeType ≠ t) → front' <+: front

/-- The path cut at one type after another. -/
def truncateAtEach (p : DevicePath) (types : List NodeType) : DevicePath := types.foldl truncateAt p

variable {p : DevicePath} {s t : NodeType} {types types' : List NodeType}

/-- A path without a node of the type is all there is before the first of them. -/
theorem truncateAt_eq_self (h : ∀ n ∈ p.nodes, n.nodeType ≠ t) : p.truncateAt t = p :=
  ext_nodes (List.takeWhile_eq_self_iff.2 fun n hn => bne_iff_ne.2 (h n hn))

theorem ne_of_mem_truncateAt {n : Node} (h : n ∈ (p.truncateAt t).nodes) : n.nodeType ≠ t := by
  change n ∈ p.nodes.takeWhile fun n => n.nodeType != t at h
  have hn := List.mem_takeWhile_imp h
  exact bne_iff_ne.1 hn

theorem truncateAt_eq_self_iff : p.truncateAt t = p ↔ ∀ n ∈ p.nodes, n.nodeType ≠ t := by
  refine ⟨fun h n hn => ?_, truncateAt_eq_self⟩
  rw [← h] at hn
  exact ne_of_mem_truncateAt hn

theorem isLongestFreeOf_truncateAt (p : DevicePath) (t : NodeType) :
    IsLongestFreeOf t (p.truncateAt t).nodes p.nodes where
  begins := List.takeWhile_prefix _
  free _ := ne_of_mem_truncateAt
  longest := by
    rintro front' ⟨rest, hnodes⟩ hfree
    change front' <+: p.nodes.takeWhile fun n => n.nodeType != t
    rw [← hnodes, List.takeWhile_append_of_pos fun n hn => bne_iff_ne.2 (hfree n hn)]
    exact List.prefix_append _ _

/-! ## Several cuts -/

/-- **Several cuts are one**: what is kept is what stands before the first node of any of the types. -/
theorem nodes_truncateAtEach : ∀ (types : List NodeType) (p : DevicePath),
    (p.truncateAtEach types).nodes = p.nodes.takeWhile fun n => decide (n.nodeType ∉ types)
  | [], p => by
    have hall : ∀ n ∈ p.nodes, decide (n.nodeType ∉ ([] : List NodeType)) = true := by simp
    exact (List.takeWhile_eq_self_iff.2 hall).symm
  | t :: types, p => by
    have hrest := nodes_truncateAtEach types (p.truncateAt t)
    have hcut : (p.truncateAt t).nodes = p.nodes.takeWhile fun n => n.nodeType != t := rfl
    rw [hcut, List.takeWhile_takeWhile] at hrest
    refine hrest.trans (congrArg (fun f => p.nodes.takeWhile f) (funext fun n => ?_))
    simp [and_comm]

/-- **Cuts at the same types come to the same**, in whatever order and however often they are made. -/
theorem truncateAtEach_congr (h : ∀ t, t ∈ types ↔ t ∈ types') (p : DevicePath) :
    p.truncateAtEach types = p.truncateAtEach types' := by
  refine ext_nodes ?_
  rw [nodes_truncateAtEach, nodes_truncateAtEach]
  simp only [h]

theorem truncateAt_idem (p : DevicePath) (t : NodeType) : (p.truncateAt t).truncateAt t = p.truncateAt t := by
  have htypes : ∀ u, u ∈ [t, t] ↔ u ∈ [t] := by simp
  exact truncateAtEach_congr htypes p

theorem truncateAt_comm (p : DevicePath) (s t : NodeType) :
    (p.truncateAt s).truncateAt t = (p.truncateAt t).truncateAt s := by
  have htypes : ∀ u, u ∈ [s, t] ↔ u ∈ [t, s] := by simp [or_comm]
  exact truncateAtEach_congr htypes p

/-! ## Bytes -/

theorem truncateAt_raw_bind (p : DevicePath) (s t : NodeType) :
    (p.raw.truncateAt s >>= fun r => r.truncateAt t) = .ok ((p.truncateAt s).truncateAt t).raw := by
  rw [truncateAt_raw]
  exact truncateAt_raw _ t

theorem truncateAt_raw_eq_self_iff : p.raw.truncateAt t = .ok p.raw ↔ ∀ n ∈ p.nodes, n.nodeType ≠ t := by
  rw [truncateAt_raw, Except.ok.injEq, raw_inj, truncateAt_eq_self_iff]

/-- **A cut at a type comes to the longest beginning of the path that is free of the type.**  It always succeeds, on
bytes as on nodes, and what it leaves is read as a path again.  It leaves all of the path, byte for byte, exactly if no
node has the type, and so whenever the type is that of the end-entire node; to make a cut twice is to make it once, and
two cuts may be made in either order. -/
theorem truncateAt_longest (p : DevicePath) (s t : NodeType) :
    p.raw.truncateAt t = .ok (p.truncateAt t).raw ∧
    RawPath.ofBytes (p.truncateAt t).bytes = .ok (p.truncateAt t).raw ∧
    IsLongestFreeOf t (p.truncateAt t).nodes p.nodes ∧
    (p.raw.truncateAt t = .ok p.raw ↔ ∀ n ∈ p.nodes, n.nodeType ≠ t) ∧
    ((p.truncateAt t).bytes = p.bytes ↔ ∀ n ∈ p.nodes, n.nodeType ≠ t) ∧
    p.raw.truncateAt .endEntire = .ok p.raw ∧
    p.truncateAt .endEntire = p ∧
    (do (← p.raw.truncateAt t).truncateAt t) = p.raw.truncateAt t ∧
    (p.truncateAt t).truncateAt t = p.truncateAt t ∧
    (do (← p.raw.truncateAt s).truncateAt t) = (do (← p.raw.truncateAt t).truncateAt s) ∧
    (p.truncateAt s).truncateAt t = (p.truncateAt t).truncateAt s := by
  have hinner : ∀ n ∈ p.nodes, n.nodeType ≠ .endEntire := fun n hn => beq_eq_false_iff_ne.1 (p.noEnd n hn)
  refine ⟨truncateAt_raw p t, (sound_raw _).reads, isLongestFreeOf_truncateAt p t, truncateAt_raw_eq_self_iff, ?_,
    truncateAt_raw_eq_self_iff.2 hinner, truncateAt_eq_self hinner, ?_, truncateAt_idem p t, ?_, truncateAt_comm p s t⟩
  · rw [bytes_inj, truncateAt_eq_self_iff]
  · rw [truncateAt_raw_bind, truncateAt_raw, truncateAt_idem]
  · rw [truncateAt_raw_bind, truncateAt_raw_bind, truncateAt_comm]

end DevicePath
end DriveMap
