import DriveMap.Proofs.RawRuns
/-!
# Tails of a path

A suffix is asked for by a byte, and is a slice from there on that is taken for a path without being read again.  It is
had exactly where a node starts, the end-entire node included, and is then the path of the nodes from there on
(`DevicePath.suffix?_eq_some_iff`): a place inside a payload is none, whatever the bytes there look like.  A suffix of a
suffix is one of the path, and ends as the path does (`DevicePath.suffix_startsAt`).
-/
namespace DriveMap

namespace Node

theorem eq_nil_of_totalSize : ∀ {nodes : List Node}, totalSize nodes = 0 → nodes = []
  | [], _ => rfl
  | n :: nodes, h => by
    have hpos := n.size_pos
    rw [totalSize] at h
    omega

end Node

namespace DevicePath

/-- A node of the path, or the end-entire node behind them, starts at byte `offset`: the sizes before it add up to
that. -/
def StartsAt (p : DevicePath) (offset : Nat) : Prop :=
  ∃ before n after, p.allNodes = before ++ n :: after ∧ Node.totalSize before = offset

/-- The path of the nodes that are left behind the first `offset` bytes, which are nodes too. -/
def IsTailAt (p : DevicePath) (offset : Nat) (q : DevicePath) : Prop :=
  ∃ before, p.nodes = before ++ q.nodes ∧ Node.totalSize before = offset

variable {p q r : DevicePath} {offset offset' : Nat}

/-! ## Where a tail starts -/

theorem isTailAt_zero (p : DevicePath) : p.IsTailAt 0 p := ⟨[], rfl, rfl⟩

theorem isTailAt_end (p : DevicePath) : p.IsTailAt (p.size - Header.size) empty :=
  ⟨p.nodes, (List.append_nil _).symm, by rw [size_eq, Nat.add_sub_cancel]⟩

theorem isTailAt_drop (p : DevicePath) (i : Nat) : p.IsTailAt (Node.totalSize (p.nodes.take i)) (p.drop i) :=
  ⟨p.nodes.take i, (List.take_append_drop i _).symm, rfl⟩

/-- Two beginnings of a path of which one is no longer than the other: the other goes on from it. -/
theorem IsTailAt.of_le (h : p.IsTailAt offset q) (h' : p.IsTailAt offset' r) (hle : offset ≤ offset') :
    q.IsTailAt (offset' - offset) r := by
  obtain ⟨before, hnodes, hsize⟩ := h
  obtain ⟨before', hnodes', hsize'⟩ := h'
  rcases List.append_eq_append_iff.1 (hnodes.symm.trans hnodes') with ⟨between, hbefore', hq⟩ | ⟨between, hbefore, hr⟩
  · rw [hbefore', Node.totalSize_append] at hsize'
    exact ⟨between, hq, by omega⟩
  · -- there is nothing between the two, since every node has a size
    rw [hbefore, Node.totalSize_append] at hsize
    obtain rfl : between = [] := Node.eq_nil_of_totalSize (by omega)
    exact ⟨[], hr.symm, by rw [Node.totalSize]; omega⟩

theorem IsTailAt.unique (h : p.IsTailAt offset q) (h' : p.IsTailAt offset r) : q = r := by
  obtain ⟨between, hnodes, hsize⟩ := h.of_le h' (Nat.le_refl _)
  rw [Nat.sub_self] at hsize
  rw [Node.eq_nil_of_totalSize hsize] at hnodes
  exact ext_nodes hnodes

/-- **A tail of a tail is a tail**, at the sum of the two places. -/
theorem IsTailAt.trans_iff (h : p.IsTailAt offset q) : q.IsTailAt offset' r ↔ p.IsTailAt (offset + offset') r := by
  constructor
  · rintro ⟨between, hnodes', hsize'⟩
    obtain ⟨before, hnodes, hsize⟩ := h
    refine ⟨before ++ between, ?_, ?_⟩
    · rw [hnodes, hnodes', List.append_assoc]
    · rw [Node.totalSize_append, hsize, hsize']
  · intro h'
    have htail := h.of_le h' (Nat.le_add_right _ _)
    rwa [Nat.add_sub_cancel_left] at htail

theorem startsAt_iff : p.StartsAt offset ↔ ∃ q, p.IsTailAt offset q := by
  constructor
  · rintro ⟨before, n, after, hnodes, rfl⟩
    -- the nodes before do not reach up to the end-entire node
    have hlen := congrArg List.length hnodes
    rw [allNodes, List.length_append, List.length_append, List.length_singleton, List.length_cons] at hlen
    have hbefore : before = p.nodes.take before.length := by
      have htake := congrArg (List.take before.length) hnodes
      rw [allNodes, List.take_append_of_le_length (by omega), List.take_left] at htake
      exact htake.symm
    rw [hbefore]
    exact ⟨_, p.isTailAt_drop before.length⟩
  · rintro ⟨q, before, hnodes, hsize⟩
    have hall : p.allNodes = before ++ q.allNodes := by rw [allNodes, hnodes, List.append_assoc, allNodes]
    cases hq : q.allNodes with
    | nil => exact absurd hq (List.append_ne_nil_of_right_ne_nil _ (List.cons_ne_nil _ _))
    | cons n after => exact ⟨before, n, after, hq ▸ hall, hsize⟩

theorem IsTailAt.mem_allOffsets (h : p.IsTailAt offset q) : offset ∈ p.allOffsets := by
  obtain ⟨before, n, after, hnodes, rfl⟩ := startsAt_iff.2 ⟨q, h⟩
  rw [allOffsets, hnodes, offsetsFrom_append, offsetsFrom, Nat.zero_add]
  exact List.mem_append_right _ List.mem_cons_self

/-- **A suffix is had exactly where a node starts**, and it is what is left from there on. -/
theorem suffix?_eq_some_iff : p.suffix? offset = some q ↔ p.IsTailAt offset q := by
  constructor
  · intro h
    obtain ⟨i, hi, rfl⟩ := Option.map_eq_some_iff.1 h
    rw [eq_of_findIdx?_allOffsets hi]
    exact p.isTailAt_drop i
  · intro h
    have hfound : (p.allOffsets.findIdx? (· == offset)).isSome = true := by
      rw [List.findIdx?_isSome, List.any_eq_true]
      exact ⟨offset, h.mem_allOffsets, beq_self_eq_true _⟩
    obtain ⟨i, hi⟩ := Option.isSome_iff_exists.1 hfound
    have htail := p.isTailAt_drop i
    rw [← eq_of_findIdx?_allOffsets hi] at htail
    rw [suffix?, hi, Option.map_some, h.unique htail]

/-! ## What a tail shares with the path -/

theorem IsTailAt.size_add (h : p.IsTailAt offset q) : q.size + offset = p.size := by
  obtain ⟨before, hnodes, rfl⟩ := h
  rw [size_eq, size_eq, hnodes, Node.totalSize_append]
  omega

/-- The leaf is the last tail that is a node. -/
theorem isTailAt_leaf_iff {n : Node} (hn : n.isEndEntire = false) :
    p.IsTailAt offset (empty.snoc n hn) ↔ p.leafOffset? = some offset ∧ p.leaf? = some n := by
  have hsingle : (empty.snoc n hn).nodes = [n] := rfl
  constructor
  · rintro ⟨before, hnodes, rfl⟩
    rw [hsingle] at hnodes
    rw [leafOffset?, offsets, leaf?, hnodes, offsetsFrom_append, Nat.zero_add]
    exact ⟨List.getLast?_concat, List.getLast?_concat⟩
  · rintro ⟨hoffset, hleaf⟩
    obtain ⟨before, hnodes⟩ := List.getLast?_eq_some_iff.1 hleaf
    refine ⟨before, hnodes, ?_⟩
    rw [leafOffset?_eq hoffset, hnodes, List.dropLast_concat]

/-- A tail that starts no later than the leaf ends with it. -/
theorem IsTailAt.leaf (h : p.IsTailAt offset q) {leafOffset : Nat} (hleaf : p.leafOffset? = some leafOffset)
    (hle : offset ≤ leafOffset) : q.leafOffset? = some (leafOffset - offset) ∧ q.leaf? = p.leaf? := by
  have hne := nodes_ne_nil hleaf
  have hlast : p.leaf? = some (p.nodes.getLast hne) := List.getLast?_eq_some_getLast hne
  have hn := p.noEnd _ (List.getLast_mem hne)
  have htail := h.of_le ((isTailAt_leaf_iff hn).2 ⟨hleaf, hlast⟩) hle
  rw [hlast]
  exact (isTailAt_leaf_iff hn).1 htail

theorem suffix?_suffix? (h : p.suffix? offset = some q) (offset' : Nat) :
    q.suffix? offset' = p.suffix? (offset + offset') := by
  refine Option.ext fun r => ?_
  rw [suffix?_eq_some_iff, suffix?_eq_some_iff]
  exact (suffix?_eq_some_iff.1 h).trans_iff

/-! ## Bytes -/

theorem suffix_raw_eq_ok {t : RawPath} :
    p.raw.suffix offset = .ok t ↔ ∃ q : DevicePath, p.IsTailAt offset q ∧ q.raw = t := by
  rw [suffix_raw, Attempt.map_ofOption, Attempt.ofOption_eq_ok, Option.map_eq_some_iff]
  simp only [suffix?_eq_some_iff]

theorem exists_suffix_raw_iff : (∃ r, p.raw.suffix offset = .ok r) ↔ p.StartsAt offset := by
  rw [startsAt_iff]
  constructor
  · rintro ⟨r, hr⟩
    obtain ⟨q, hq, -⟩ := suffix_raw_eq_ok.1 hr
    exact ⟨q, hq⟩
  · rintro ⟨q, hq⟩
    exact ⟨q.raw, suffix_raw_eq_ok.2 ⟨q, hq, rfl⟩⟩

theorem suffix_raw_of_not_startsAt (h : ¬p.StartsAt offset) : p.raw.suffix offset = .error .absent := by
  have hnone : p.suffix? offset = none :=
    Option.eq_none_iff_forall_ne_some.2 fun q hq => h (startsAt_iff.2 ⟨q, suffix?_eq_some_iff.1 hq⟩)
  rw [suffix_raw, hnone]
  rfl

/-- **A suffix is what is left of the nodes from a place where one starts.**  Everywhere else there is none.  It is read
as a path again and is as much shorter as bytes are left out: nothing less at the start, nothing but the end at the end.
As long as it starts no later than the leaf it has the same leaf, that many bytes earlier; and a suffix of it is the one
of the path at the sum of the two places, or neither is there. -/
theorem suffix_startsAt (p : DevicePath) :
    (∀ o, (∃ r, p.raw.suffix o = .ok r) ↔ p.StartsAt o) ∧
    (∀ o, p.raw.suffix o = .error .absent ↔ ¬p.StartsAt o) ∧
    (∀ o r, p.raw.suffix o = .ok r → RawPath.ofBytes r.bytes = .ok r ∧ r.bytes.length + o = p.raw.bytes.length ∧
      ∃ q : DevicePath, r = q.raw ∧ p.IsTailAt o q) ∧
    p.raw.suffix 0 = .ok p.raw ∧
    p.raw.suffix (p.raw.bytes.length - 4) = .ok empty.raw ∧
    (∀ o r leafOffset, p.raw.suffix o = .ok r → p.raw.leafOffset = .ok leafOffset → o ≤ leafOffset →
      r.leafOffset.map (· + o) = .ok leafOffset ∧ r.leaf = p.raw.leaf) ∧
    (∀ o r, p.raw.suffix o = .ok r → ∀ o', r.suffix o' = p.raw.suffix (o + o')) ∧
    (∀ o q, p.suffix? o = some q ↔ p.IsTailAt o q) ∧
    (∀ o q, p.suffix? o = some q → ∀ o', q.suffix? o' = p.suffix? (o + o')) := by
  refine ⟨fun o => exists_suffix_raw_iff, fun o => ⟨fun h hs => ?_, suffix_raw_of_not_startsAt⟩, fun o r h => ?_,
    suffix_raw_eq_ok.2 ⟨p, p.isTailAt_zero, rfl⟩, ?_, fun o r leafOffset h hleaf hle => ?_, fun o r h o' => ?_,
    fun o q => suffix?_eq_some_iff, fun o q => suffix?_suffix?⟩
  · obtain ⟨r, hr⟩ := exists_suffix_raw_iff.2 hs
    cases h.symm.trans hr
  · obtain ⟨q, hq, rfl⟩ := suffix_raw_eq_ok.1 h
    refine ⟨(sound_raw q).reads, ?_, q, rfl, hq⟩
    rw [raw, raw, length_bytes, length_bytes]
    exact hq.size_add
  · have hend : p.raw.bytes.length - 4 = p.size - Header.size := by rw [raw, length_bytes, Header.size]
    rw [hend]
    exact suffix_raw_eq_ok.2 ⟨empty, p.isTailAt_end, rfl⟩
  · obtain ⟨q, hq, rfl⟩ := suffix_raw_eq_ok.1 h
    rw [leafOffset_raw, Attempt.ofOption_eq_ok] at hleaf
    obtain ⟨hoffset, hsame⟩ := hq.leaf hleaf hle
    rw [leafOffset_raw, hoffset, leaf_raw, leaf_raw, hsame]
    refine ⟨congrArg Except.ok ?_, rfl⟩
    exact Nat.sub_add_cancel hle
  · obtain ⟨q, hq, rfl⟩ := suffix_raw_eq_ok.1 h
    rw [suffix_raw, suffix_raw, suffix?_suffix? (suffix?_eq_some_iff.2 hq)]

/-- A payload that looks like an end-entire node starts no suffix; the node behind it does. -/
example :
    let p := empty.snoc ⟨.acpi, [0x7f, 0xff, 4, 0], by decide⟩ rfl
    p.suffix? 4 = none ∧ p.suffix? 8 = some empty := by decide

end DevicePath
end DriveMap
