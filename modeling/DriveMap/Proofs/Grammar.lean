import DriveMap.DevicePath.Scan
import DriveMap.Proofs.Reading
import Mathlib.Data.List.Nodup
/-!
# Which bytes are a path

The rules of the format said of bytes alone: pieces each of which is as long as it says, then the terminator, then
anything (`DevicePath.Splits`).  Bytes that follow them start with a path (`DevicePath.splits_iff`), so reading accepts
exactly these, they follow the rules in one way only, and the nodes of the path are the pieces.  A scan of the path's
own bytes checks nothing and comes to the same pieces.
-/
namespace DriveMap
namespace DevicePath

/-! ## The rules -/

/-- Bytes that are one node inside a path: a header at least, with the node's own length in it, and not of the type that
ends a path. -/
structure IsPiece (piece : Bytes) : Prop where
  header_le : Header.size ≤ piece.length
  length_eq : LittleEndian.decode ((piece.drop 2).take 2) = piece.length
  not_end : piece.take 2 ≠ [0x7f, 0xff]

instance : DecidablePred IsPiece := fun piece =>
  decidable_of_iff (Header.size ≤ piece.length ∧ LittleEndian.decode ((piece.drop 2).take 2) = piece.length ∧
      piece.take 2 ≠ [0x7f, 0xff])
    ⟨fun ⟨h₁, h₂, h₃⟩ => ⟨h₁, h₂, h₃⟩, fun ⟨h₁, h₂, h₃⟩ => ⟨h₁, h₂, h₃⟩⟩

/-- What ends a path. -/
def terminator : Bytes := [0x7f, 0xff, 0x04, 0x00]

/-- Bytes that are pieces, the terminator, and a tail. -/
structure Splits (bs : Bytes) (pieces : List Bytes) (tail : Bytes) : Prop where
  eq : bs = pieces.flatten ++ terminator ++ tail
  pieces : ∀ piece ∈ pieces, IsPiece piece

/-! ## Pieces are nodes -/

theorem eq_endEntire_iff {t : NodeType} : t = .endEntire ↔ [t.category.code, t.subtype] = [0x7f, 0xff] := by
  obtain ⟨⟨code⟩, subtype⟩ := t
  simp [NodeType.endEntire, Category.ending]

theorem isPiece_bytes_append {h : Header} {payload : Bytes} : IsPiece (h.bytes ++ payload) ↔
    h.length.toNat = Header.size + payload.length ∧ h.nodeType ≠ .endEntire := by
  have hword : ((h.bytes ++ payload).drop 2).take 2 = LittleEndian.encode 2 h.length.toNat := rfl
  have htype : (h.bytes ++ payload).take 2 = [h.nodeType.category.code, h.nodeType.subtype] := rfl
  have hdecode : LittleEndian.decode (LittleEndian.encode 2 h.length.toNat) = h.length.toNat :=
    LittleEndian.decode_encode h.length.toNat_lt
  have hlen : (h.bytes ++ payload).length = Header.size + payload.length := List.length_append
  constructor
  · rintro ⟨-, hl, hne⟩
    rw [hword, hdecode, hlen] at hl
    exact ⟨hl, fun he => hne (htype.trans (eq_endEntire_iff.1 he))⟩
  · rintro ⟨hl, hne⟩
    refine ⟨hlen ▸ Nat.le_add_right _ _, ?_, fun he => hne (eq_endEntire_iff.2 (htype.symm.trans he))⟩
    rw [hword, hdecode, hlen, hl]

/-- **A piece is the bytes of a node that may stand inside a path.** -/
theorem isPiece_iff {piece : Bytes} : IsPiece piece ↔ ∃ n : Node, n.isEndEntire = false ∧ n.bytes = piece := by
  constructor
  · intro hp
    obtain ⟨h, payload, rfl⟩ := Header.exists_bytes_append hp.header_le
    obtain ⟨hlen, hne⟩ := isPiece_bytes_append.1 hp
    have fits : Header.size + payload.length < UInt16.size := hlen ▸ h.length.toNat_lt_size
    exact ⟨⟨h.nodeType, payload, fits⟩, beq_eq_false_iff_ne.2 hne, Node.bytes_mk fits hlen⟩
  · rintro ⟨n, hn, rfl⟩
    exact isPiece_bytes_append.2 ⟨n.length_toNat, beq_eq_false_iff_ne.1 hn⟩

theorem exists_path_of_pieces : ∀ {pieces : List Bytes}, (∀ piece ∈ pieces, IsPiece piece) →
    ∃ p : DevicePath, p.nodes.map Node.bytes = pieces
  | [], _ => ⟨empty, rfl⟩
  | piece :: pieces, h => by
    obtain ⟨hpiece, hpieces⟩ := List.forall_mem_cons.1 h
    obtain ⟨n, hn, rfl⟩ := isPiece_iff.1 hpiece
    obtain ⟨p, rfl⟩ := exists_path_of_pieces hpieces
    exact ⟨cons n p hn, rfl⟩

theorem bytes_eq_flatten (p : DevicePath) : p.bytes = (p.nodes.map Node.bytes).flatten ++ terminator := by
  rw [bytes_eq, List.flatMap_def]
  rfl

/-- **To follow the rules is to start with a path.** -/
theorem splits_iff {bs tail : Bytes} {pieces : List Bytes} :
    Splits bs pieces tail ↔ ∃ p : DevicePath, p.nodes.map Node.bytes = pieces ∧ bs = p.bytes ++ tail := by
  constructor
  · rintro ⟨rfl, hpieces⟩
    obtain ⟨p, rfl⟩ := exists_path_of_pieces hpieces
    exact ⟨p, rfl, by rw [bytes_eq_flatten]⟩
  · rintro ⟨p, rfl, rfl⟩
    refine ⟨by rw [bytes_eq_flatten], fun piece hpiece => ?_⟩
    obtain ⟨n, hn, rfl⟩ := List.mem_map.1 hpiece
    exact isPiece_iff.2 ⟨n, p.noEnd n hn, rfl⟩

/-! ## A scan hands out the nodes -/

namespace Scan

theorem step_at {bs before after : Bytes} {n : Node} (h : bs = before ++ (n.bytes ++ after)) (withEnd : Bool) :
    step ⟨bs, before.length, withEnd⟩ =
      if n.nodeType ≠ .endEntire then .node n.bytes ⟨bs, before.length + n.size, withEnd⟩
      else if withEnd then .node n.bytes ⟨bs, bs.length, withEnd⟩
      else .finished ⟨bs, bs.length, withEnd⟩ := by
  subst h
  have hinside : ¬(before ++ (n.bytes ++ after)).length < before.length := by
    rw [List.length_append]
    omega
  have hroom : ¬(n.size < 2 ∨ (n.bytes ++ after).length < n.size) := by
    rw [List.length_append, n.length_bytes, Node.size, Header.size]
    omega
  have hlen : n.header.length.toNat = n.size := n.length_toNat
  have htake : (n.bytes ++ after).take n.size = n.bytes := List.take_left' n.length_bytes
  unfold step
  simp only [if_neg hinside, List.drop_left, Node.read?_bytes_append, hlen, if_neg hroom, htake, n.length_bytes]
  rfl

theorem step_spent (bs : Bytes) (withEnd : Bool) :
    step ⟨bs, bs.length, withEnd⟩ = .finished ⟨bs, bs.length, withEnd⟩ := by
  simp [step, Header.read?]

/-- **From a node on, a scan hands out that node and those behind it**, each at the sum of the sizes before it. -/
theorem yields_from (withEnd : Bool) : ∀ {nodes : List Node} (before : Bytes), (∀ n ∈ nodes, n.isEndEntire = false) →
    Yields ⟨before ++ (nodes.flatMap Node.bytes ++ Node.endEntire.bytes), before.length, withEnd⟩
      (((nodes.map Node.size).scanl (· + ·) before.length).zip
        (nodes.map Node.bytes ++ if withEnd then [Node.endEntire.bytes] else []))
  | [], before, _ => by
    have hbs : before ++ ([].flatMap Node.bytes ++ Node.endEntire.bytes) = before ++ (Node.endEntire.bytes ++ []) := by
      rw [List.append_nil, List.flatMap_nil, List.nil_append]
    have hend : Node.endEntire.nodeType = .endEntire := rfl
    have hstep := step_at hbs withEnd
    rw [if_neg (not_not.2 hend)] at hstep
    cases withEnd with
    | false => exact .finished hstep
    | true => exact .node hstep (.finished (step_spent _ _))
  | n :: nodes, before, h => by
    obtain ⟨hn, hnodes⟩ := List.forall_mem_cons.1 h
    rw [List.flatMap_cons, List.append_assoc, List.map_cons, List.scanl_cons, List.map_cons, List.cons_append,
      List.zip_cons_cons]
    have hstep := step_at (rfl : before ++ (n.bytes ++ (nodes.flatMap Node.bytes ++ Node.endEntire.bytes)) = _) withEnd
    rw [if_pos (beq_eq_false_iff_ne.1 hn)] at hstep
    -- the bytes are the same, and are cut one node later
    have hrest := yields_from withEnd (before ++ n.bytes) hnodes
    rw [List.append_assoc, List.length_append, n.length_bytes] at hrest
    exact .node hstep hrest

theorem Yields.unique {s : Scan} {found found' : List (Nat × Bytes)} (h : s.Yields found) (h' : s.Yields found') :
    found' = found := by
  induction h generalizing found' with
  | finished hs =>
    cases h' with
    | finished => rfl
    | node hs' => rw [hs] at hs'; cases hs'
  | node hs _ ih =>
    cases h' with
    | finished hs' => rw [hs] at hs'; cases hs'
    | node hs' hrest' =>
      rw [hs] at hs'
      cases hs'
      rw [ih hrest']

end Scan

theorem map_length_bytes (p : DevicePath) : (p.nodes.map Node.bytes).map List.length = p.nodes.map Node.size := by
  rw [List.map_map]
  exact List.map_congr_left fun n _ => n.length_bytes

theorem yields_scan_iff (p : DevicePath) (withEnd : Bool) (found : List (Nat × Bytes)) :
    (p.scan withEnd).Yields found ↔ found = ((p.nodes.map Node.bytes).map List.length).partialSums.zip
      (p.nodes.map Node.bytes ++ if withEnd then [terminator] else []) := by
  have hyields := Scan.yields_from withEnd [] p.noEnd
  rw [List.nil_append, ← bytes_eq] at hyields
  rw [map_length_bytes]
  exact ⟨hyields.unique, fun h => h ▸ hyields⟩

theorem offsetsFrom_concat (last : Node) : ∀ (start : Nat) (nodes : List Node),
    offsetsFrom start (nodes ++ [last]) = (nodes.map Node.size).scanl (· + ·) start
  | _, [] => rfl
  | start, n :: nodes => by
    rw [List.cons_append, offsetsFrom, offsetsFrom_concat last, List.map_cons, List.scanl_cons]

theorem allOffsets_eq (p : DevicePath) : p.allOffsets = ((p.nodes.map Node.bytes).map List.length).partialSums := by
  rw [map_length_bytes]
  exact offsetsFrom_concat _ 0 p.nodes

/-! ## What reading accepts -/

/-- **Reading succeeds exactly on bytes that follow the rules.**  They do so in one way only; the path that is read is
all but the tail, and its nodes are the pieces, each where the lengths of those before it add up to. -/
theorem ofBytes_isOk_iff_splits (bs : Bytes) :
    ((∃ p, ofBytes bs = .ok p) ↔ ∃ pieces tail, Splits bs pieces tail) ∧
    ∀ pieces tail, Splits bs pieces tail →
      (∀ pieces' tail', Splits bs pieces' tail' → pieces' = pieces ∧ tail' = tail) ∧
      ∃ p, ofBytes bs = .ok p ∧ bs = p.bytes ++ tail ∧ p.nodes.map Node.bytes = pieces ∧
        p.allOffsets = (pieces.map List.length).partialSums ∧
        (∀ found, (p.scan false).Yields found ↔ found = (pieces.map List.length).partialSums.zip pieces) ∧
        (∀ found, (p.scan true).Yields found ↔
          found = (pieces.map List.length).partialSums.zip (pieces ++ [terminator])) := by
  refine ⟨⟨?_, ?_⟩, fun pieces tail hs => ⟨fun pieces' tail' hs' => ?_, ?_⟩⟩
  · rintro ⟨p, hp⟩
    obtain ⟨tail, htail⟩ := ofBytes_eq_ok.1 hp
    exact ⟨_, tail, splits_iff.2 ⟨p, rfl, htail⟩⟩
  · rintro ⟨pieces, tail, hs⟩
    obtain ⟨p, -, hp⟩ := splits_iff.1 hs
    exact ⟨p, ofBytes_eq_ok.2 ⟨tail, hp⟩⟩
  · -- two splits are two paths that the same bytes are read as
    obtain ⟨p, rfl, hp⟩ := splits_iff.1 hs
    obtain ⟨q, rfl, hq⟩ := splits_iff.1 hs'
    have hpq : q = p := Except.ok.inj ((ofBytes_eq_ok.2 ⟨tail', hq⟩).symm.trans (ofBytes_eq_ok.2 ⟨tail, hp⟩))
    subst hpq
    exact ⟨rfl, List.append_cancel_left (hq.symm.trans hp)⟩
  · obtain ⟨p, rfl, hp⟩ := splits_iff.1 hs
    refine ⟨p, ofBytes_eq_ok.2 ⟨tail, hp⟩, hp, rfl, p.allOffsets_eq, fun found => ?_, p.yields_scan_iff true⟩
    simpa using p.yields_scan_iff false found

/-- A piece that ends no more than an instance, and one whose payload looks like the end, are pieces like any other. -/
theorem ofBytes_isOk_iff_splits_at_lookalikes :
    let pieces : List Bytes := [[0x7f, 0x01, 0x04, 0x00], [0x04, 0x03, 0x08, 0x00, 0x7f, 0xff, 0x04, 0x00]]
    let bs : Bytes := [0x7f, 0x01, 0x04, 0x00, 0x04, 0x03, 0x08, 0x00, 0x7f, 0xff, 0x04, 0x00, 0x7f, 0xff, 0x04, 0x00,
      0xde, 0xad]
    Splits bs pieces [0xde, 0xad] ∧
    (∀ pieces' tail', Splits bs pieces' tail' → pieces' = pieces ∧ tail' = [0xde, 0xad]) ∧
    ∃ p, ofBytes bs = .ok p ∧ p.nodes.map Node.bytes = pieces ∧ p.allOffsets = [0, 4, 12] := by
  intro pieces bs
  have hs : Splits bs pieces [0xde, 0xad] := ⟨rfl, by decide⟩
  obtain ⟨hunique, p, hp, -, hnodes, hoffsets, -⟩ := (ofBytes_isOk_iff_splits bs).2 pieces _ hs
  exact ⟨hs, hunique, p, hp, hnodes, hoffsets⟩

end DevicePath
end DriveMap
