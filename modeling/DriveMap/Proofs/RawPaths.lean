import DriveMap.Proofs.Building
import DriveMap.Proofs.Children
import DriveMap.Proofs.Grammar
/-!
# Operations on bytes and on paths

Each operation on the bytes of a path answers what the operation on the path answers, and is never out of range: the two
sides commute with `DevicePath.raw`.  The bytes are cut, copied and sliced without a look at where the nodes are; the
paths are lists of nodes.
-/
namespace DriveMap

namespace Attempt

variable {α β : Type} {x : Option α} {a : α}

theorem ofOption_eq_ok : ofOption x = .ok a ↔ x = some a := by cases x <;> simp [ofOption]

theorem map_ofOption (f : α → β) (x : Option α) : (ofOption x).map f = ofOption (x.map f) := by cases x <;> rfl

end Attempt

namespace DevicePath

/-! ## Scans -/

theorem Scan.collect_of_yields {s : Scan} {found : List (Nat × Bytes)} (h : s.Yields found) :
    s.collect = .ok found := by
  induction h with
  | finished hs =>
    rw [collect]
    split <;> simp_all
  | node hs _ ih =>
    rw [collect]
    split <;> simp_all [Except.map]

theorem allOffsets_eq_append (p : DevicePath) : p.allOffsets = p.offsets ++ [Node.totalSize p.nodes] := by
  rw [allOffsets, allNodes, offsetsFrom_append, Nat.zero_add]
  rfl

theorem length_offsets (p : DevicePath) : p.offsets.length = (p.nodes.map Node.bytes).length := by
  rw [offsets, length_offsetsFrom, List.length_map]

theorem length_allOffsets (p : DevicePath) : p.allOffsets.length = (p.allNodes.map Node.bytes).length := by
  rw [allOffsets, length_offsetsFrom, List.length_map]

theorem collect_all (p : DevicePath) :
    (p.raw.scan true).collect = .ok (p.allOffsets.zip (p.allNodes.map Node.bytes)) := by
  refine Scan.collect_of_yields ((p.yields_scan_iff true _).2 ?_)
  rw [allOffsets_eq, allNodes, List.map_append]
  rfl

theorem collect_inner (p : DevicePath) :
    (p.raw.scan false).collect = .ok (p.offsets.zip (p.nodes.map Node.bytes)) := by
  refine Scan.collect_of_yields ((p.yields_scan_iff false _).2 ?_)
  have hzip : (p.offsets ++ [Node.totalSize p.nodes]).zip (p.nodes.map Node.bytes ++ []) =
      p.offsets.zip (p.nodes.map Node.bytes) ++ [Node.totalSize p.nodes].zip [] := List.zip_append p.length_offsets
  rw [List.zip_nil_right, List.append_nil, List.append_nil] at hzip
  rw [← allOffsets_eq, allOffsets_eq_append]
  simpa using hzip.symm

theorem pieces_raw (p : DevicePath) : p.raw.pieces = .ok (p.nodes.map Node.bytes) := by
  rw [RawPath.pieces, collect_inner, Except.map, List.map_snd_zip (Nat.le_of_eq p.length_offsets.symm)]

theorem leaf_raw (p : DevicePath) : p.raw.leaf = .ofOption (p.leaf?.map Node.bytes) := by
  rw [RawPath.leaf, pieces_raw, leaf?, ← List.getLast?_map]
  rfl

theorem leafOffset_raw (p : DevicePath) : p.raw.leafOffset = .ofOption p.leafOffset? := by
  rw [RawPath.leafOffset, collect_inner, leafOffset?]
  simp only [bind, Except.bind, List.map_fst_zip (Nat.le_of_eq p.length_offsets)]

/-! ## Slices -/

theorem slice_zero {bs : Bytes} {n : Nat} (h : n ≤ bs.length) : slice bs 0 n = .ok (bs.take n) :=
  if_pos ⟨Nat.zero_le n, h⟩

theorem slice_length {bs : Bytes} {n : Nat} (h : n ≤ bs.length) : slice bs n bs.length = .ok (bs.drop n) := by
  rw [slice, if_pos ⟨h, Nat.le_refl _⟩, List.take_length]

theorem getElem?_offsetsFrom : ∀ (start : Nat) (nodes : List Node) (i : Nat),
    (offsetsFrom start nodes)[i]? = if i < nodes.length then some (start + Node.totalSize (nodes.take i)) else none
  | _, [], _ => by simp [offsetsFrom]
  | start, n :: rest, 0 => by simp [offsetsFrom, Node.totalSize]
  | start, n :: rest, i + 1 => by
    rw [offsetsFrom, List.getElem?_cons_succ, getElem?_offsetsFrom]
    simp [Node.totalSize, Nat.add_assoc]

theorem bytes_eq_take_append_drop (p : DevicePath) (i : Nat) :
    p.bytes = (p.nodes.take i).flatMap Node.bytes ++ (p.drop i).bytes := by
  rw [bytes_eq, bytes_eq, ← List.append_assoc]
  congr 1
  rw [drop, ofSubset, ← List.flatMap_append, List.take_append_drop]

/-- **To cut the bytes where a node starts is to drop the nodes before it.** -/
theorem slice_drop (p : DevicePath) (i : Nat) :
    slice p.bytes (Node.totalSize (p.nodes.take i)) p.bytes.length = .ok (p.drop i).bytes := by
  have hsplit := p.bytes_eq_take_append_drop i
  have hle : Node.totalSize (p.nodes.take i) ≤ p.bytes.length := by
    rw [← length_flatMap_bytes, hsplit, List.length_append]
    exact Nat.le_add_right _ _
  rw [slice_length hle, hsplit, ← length_flatMap_bytes, List.drop_left]

theorem find?_beq (offset : Nat) (l : List Nat) :
    l.find? (· == offset) = (l.findIdx? (· == offset)).map fun _ => offset := by
  cases h : l.findIdx? (· == offset) with
  | none =>
    rw [List.findIdx?_eq_none_iff] at h
    exact List.find?_eq_none.2 fun o ho => by simp [h o ho]
  | some i =>
    obtain ⟨hi, hp, -⟩ := List.findIdx?_eq_some_iff_getElem.1 h
    have hsome : (l.find? (· == offset)).isSome = true := List.find?_isSome.2 ⟨l[i], List.getElem_mem hi, hp⟩
    obtain ⟨o, ho⟩ := Option.isSome_iff_exists.1 hsome
    have hoffset : o = offset := by simpa using List.find?_some ho
    rw [ho, hoffset]
    rfl

/-- The places of a path are the sums of the sizes before its nodes. -/
theorem eq_of_findIdx?_allOffsets {p : DevicePath} {offset i : Nat}
    (h : p.allOffsets.findIdx? (· == offset) = some i) : offset = Node.totalSize (p.nodes.take i) := by
  obtain ⟨hi, hp, -⟩ := List.findIdx?_eq_some_iff_getElem.1 h
  have hle : i ≤ p.nodes.length := by
    rw [allOffsets, length_offsetsFrom, allNodes, List.length_append, List.length_singleton] at hi
    exact Nat.le_of_lt_succ hi
  have hlt : i < p.allNodes.length := by
    rw [allNodes, List.length_append]
    exact Nat.lt_succ_of_le hle
  have hget := List.getElem?_eq_getElem hi
  rw [beq_iff_eq.1 hp, allOffsets, getElem?_offsetsFrom, if_pos hlt, allNodes, List.take_append_of_le_length hle,
    Nat.zero_add] at hget
  exact (Option.some.inj hget).symm

theorem suffix_raw (p : DevicePath) (offset : Nat) :
    p.raw.suffix offset = (Attempt.ofOption (p.suffix? offset)).map raw := by
  rw [RawPath.suffix, collect_all, suffix?]
  simp only [bind, Except.bind, List.map_fst_zip (Nat.le_of_eq p.length_allOffsets), find?_beq]
  cases h : p.allOffsets.findIdx? (· == offset) with
  | none => rfl
  | some i =>
    have hslice : slice p.raw.bytes offset p.raw.bytes.length = .ok (p.drop i).bytes := by
      rw [eq_of_findIdx?_allOffsets h]
      exact p.slice_drop i
    simp only [Option.map_some, Attempt.ofOption, hslice]
    rfl

end DevicePath

/-! ## Builders -/

namespace Builder

/-- The bytes that a builder holds. -/
def raw (b : Builder) : RawBuilder := ⟨b.pushed.nodes.flatMap Node.bytes⟩

variable {b : Builder}

theorem push_raw (b : Builder) (s : Node.Spec) : b.raw.push s = .ofPathError ((b.push s).map raw) := by
  unfold push RawBuilder.push RawBuilder.append
  split
  · rfl
  split
  · simp only [Except.map, Attempt.ofPathError, Except.mapError, raw, DevicePath.snoc, List.flatMap_append,
      List.flatMap_singleton]
    rfl
  · rfl

theorem pushAll_raw : ∀ (specs : List Node.Spec) (b : Builder),
    b.raw.pushAll specs = .ofPathError (((b.pushAll specs).mapError Prod.snd).map raw)
  | [], _ => rfl
  | s :: rest, b => by
    rw [RawBuilder.pushAll, List.foldlM_cons, push_raw, pushAll]
    cases hs : b.push s with
    | error fault => rfl
    | ok b' =>
      have ih := pushAll_raw rest b'
      rw [RawBuilder.pushAll] at ih
      simp only [Except.map, Attempt.ofPathError, Except.mapError, bind, Except.bind] at ih ⊢
      rw [ih]
      cases b'.pushAll rest <;> rfl

theorem finalize_raw (b : Builder) : b.raw.finalize = .ok b.finalize.raw := by
  rw [DevicePath.raw, DevicePath.bytes_eq]
  rfl

theorem finish_raw (b : Builder) (specs : List Node.Spec) : (b.raw.pushAll specs >>= RawBuilder.finalize) =
    .ofPathError (((b.pushAll specs).mapError Prod.snd).map fun b => b.finalize.raw) := by
  rw [pushAll_raw]
  cases b.pushAll specs with
  | error e => rfl
  | ok b' => exact b'.finalize_raw

end Builder

namespace RawBuilder

theorem pushCopy_bytes (b : RawBuilder) (n : Node) : b.pushCopy n.bytes = b.push n.spec := by
  have hread := n.read?_bytes_append []
  have hpayload : n.bytes.drop Header.size = n.payload := List.drop_left' rfl
  rw [List.append_nil] at hread
  rw [pushCopy, hread, hpayload]
  rfl

theorem pushCopies_bytes (b : RawBuilder) (nodes : List Node) :
    b.pushCopies (nodes.map Node.bytes) = b.pushAll (nodes.map Node.spec) := by
  rw [pushCopies, pushAll, List.foldlM_map, List.foldlM_map]
  simp only [pushCopy_bytes]

/-- **To copy the nodes of a path never fails.** -/
theorem pushCopies_nodes (p : DevicePath) : empty.pushCopies (p.nodes.map Node.bytes) = .ok (Builder.ofPath p).raw := by
  have hraw := Builder.pushAll_raw (p.nodes.map Node.spec) .empty
  rw [Builder.Beginning.pushAll_nodes] at hraw
  rw [pushCopies_bytes]
  exact hraw

end RawBuilder

namespace DevicePath

open RawBuilder

theorem ofPieces_nodes (p : DevicePath) : RawPath.ofPieces (p.nodes.map Node.bytes) = .ok p.raw := by
  rw [RawPath.ofPieces, pushCopies_nodes]
  exact (Builder.ofPath p).finalize_raw

theorem truncateLeaf_raw (p : DevicePath) :
    p.raw.truncateLeaf = (Attempt.ofOption p.truncateLeaf?).map raw := by
  have hcopy := ofPieces_nodes (p.take (p.nodes.length - 1))
  rw [RawPath.truncateLeaf, pieces_raw, truncateLeaf?]
  simp only [bind, Except.bind, List.length_map, ← List.map_take, List.length_eq_zero_iff, isEmpty, List.isEmpty_iff]
  split
  · rfl
  · exact hcopy

theorem typeOf?_bytes (n : Node) : RawPath.typeOf? n.bytes = some n.nodeType := rfl

theorem truncateAt_raw (p : DevicePath) (t : NodeType) : p.raw.truncateAt t = .ok (p.truncateAt t).raw := by
  have hcopy := ofPieces_nodes (p.truncateAt t)
  have htype : (fun piece => RawPath.typeOf? piece != some t) ∘ Node.bytes = fun n => n.nodeType != t := by
    funext n
    simp only [Function.comp_apply, typeOf?_bytes]
    rfl
  rw [RawPath.truncateAt, pieces_raw]
  simp only [bind, Except.bind, List.takeWhile_map, htype]
  exact hcopy

theorem extend_raw (p : DevicePath) (specs : List Node.Spec) : p.raw.extend specs =
    .ofPathError ((((Builder.ofPath p).pushAll specs).mapError Prod.snd).map fun b => b.finalize.raw) := by
  rw [RawPath.extend, pieces_raw]
  simp only [bind, Except.bind, pushCopies_nodes]
  exact (Builder.ofPath p).finish_raw specs

theorem ofBytes_raw (bs : Bytes) : RawPath.ofBytes bs = (Attempt.ofPathError (ofBytes bs)).map raw := by
  rw [RawPath.ofBytes]
  cases h : ofBytes bs with
  | error fault => rfl
  | ok p =>
    obtain ⟨tail, rfl⟩ := ofBytes_eq_ok.1 h
    have hle : p.size ≤ (p.bytes ++ tail).length := by
      rw [List.length_append, length_bytes]
      exact Nat.le_add_right _ _
    have htake : (p.bytes ++ tail).take p.size = p.bytes := List.take_left' p.length_bytes
    simp only [Attempt.ofPathError, Except.mapError, bind, Except.bind, slice_zero hle, htake]
    rfl

theorem raw_inj {p q : DevicePath} : p.raw = q.raw ↔ p = q := by
  rw [← bytes_inj, raw, raw, RawPath.mk.injEq]

theorem endOffset_raw (p : DevicePath) : p.raw.endOffset = .ok (p.size - Header.size) := by
  have hle : Header.size ≤ p.bytes.length := by
    rw [length_bytes, size_eq]
    exact Nat.le_add_left _ _
  rw [RawPath.endOffset, raw, if_pos hle, length_bytes]

end DevicePath

/-! ## Devices -/

namespace Device

variable {α β : Type}

theorem ofPath_raw (h : Handle) (p : DevicePath) (m : Medium) (io : α) :
    RawDevice.ofPath p.raw = (Attempt.ofOption (new? h p m io)).map raw := by
  rw [RawDevice.ofPath, DevicePath.leafOffset_raw, new?]
  split <;> rename_i ho <;> simp only [ho] <;> rfl

/-- What is before the leaf, the leaf, and the end. -/
theorem bytes_eq (d : Device α) : d.path.bytes =
    d.path.nodes.dropLast.flatMap Node.bytes ++ (d.leaf.bytes ++ Node.endEntire.bytes) := by
  conv_lhs => rw [DevicePath.bytes_eq, ← d.dropLast_append_leaf, List.flatMap_append, List.flatMap_singleton]
  exact List.append_assoc ..

theorem length_before (d : Device α) : (d.path.nodes.dropLast.flatMap Node.bytes).length = d.leafOffset := by
  rw [DevicePath.length_flatMap_bytes, DevicePath.leafOffset?_eq d.leaf_at]

theorem leafOffset_le (d : Device α) : d.leafOffset ≤ d.path.bytes.length := by
  rw [← d.length_before, bytes_eq, List.length_append]
  exact Nat.le_add_right _ _

theorem leafPath_raw (d : Device α) : d.raw.leafPath = .ok d.leafPath.raw := by
  have hslice : slice d.path.bytes d.leafOffset d.path.bytes.length = .ok d.leafPath.bytes := by
    rw [DevicePath.slice_length d.leafOffset_le]
    conv_lhs => rw [d.bytes_eq, List.drop_left' d.length_before]
    simp [DevicePath.bytes_eq, leafPath, DevicePath.ofSubset]
  rw [RawDevice.leafPath]
  simp only [raw, DevicePath.raw, hslice, bind, Except.bind]
  rfl

theorem leaf_raw (d : Device α) : d.raw.leaf = .ok d.leaf.bytes := by
  have hsize : d.path.size - Header.size = d.leafOffset + d.leaf.bytes.length := by
    rw [← DevicePath.length_bytes, d.bytes_eq, List.length_append, List.length_append, d.length_before]
    have hend : Node.endEntire.bytes.length = Header.size := rfl
    omega
  have hslice : slice d.path.bytes d.leafOffset (d.path.size - Header.size) = .ok d.leaf.bytes := by
    have hle : d.path.size - Header.size ≤ d.path.bytes.length := by
      rw [DevicePath.length_bytes]
      exact Nat.sub_le _ _
    rw [slice, if_pos ⟨by omega, hle⟩, List.drop_take, hsize, Nat.add_sub_cancel_left]
    conv_lhs => rw [d.bytes_eq, List.drop_left' d.length_before, List.take_left]
  rw [RawDevice.leaf]
  simp only [raw, DevicePath.endOffset_raw, bind, Except.bind]
  exact hslice

theorem isChildOf_raw (c : Device β) (p : Device α) : c.raw.isChildOf p.raw = .ok (c.isChildOf p) := by
  have hle : p.path.size - Header.size ≤ p.path.bytes.length := by
    rw [DevicePath.length_bytes]
    exact Nat.sub_le _ _
  rw [RawDevice.isChildOf]
  simp only [raw, DevicePath.endOffset_raw, bind, Except.bind]
  simp only [DevicePath.raw, DevicePath.slice_zero c.leafOffset_le, DevicePath.slice_zero hle]
  rfl

end Device
end DriveMap
