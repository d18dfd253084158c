import DriveMap.Node.Fields
import DriveMap.Partition.Entry
import DriveMap.Proofs.LittleEndian
import DriveMap.Proofs.RawRuns
/-!
# Media nodes and their fields

A hard drive node or a CD-ROM node is written field after field and read at fixed places.  The two agree: a node is read
as some fields exactly if it is what those fields ask for (`Node.HardDrive.ofNode?_eq_some_iff`,
`Node.CdRom.ofNode?_eq_some_iff`).  Everything else is the same for both kinds of node, and follows for any kind for
which that holds (`Node.View.roundTrips`).
-/
namespace DriveMap

namespace Node

open LittleEndian

/-! ## Places of fields -/

theorem take_drop_bytes {n : Node} (before : Bytes) {field after : Bytes} {offset w : Nat}
    (h : n.payload = before ++ (field ++ after)) (ho : Header.size + before.length = offset) (hw : field.length = w) :
    (n.bytes.drop offset).take w = field := by
  have hbytes : n.bytes = (n.header.bytes ++ before) ++ (field ++ after) := by
    rw [bytes, h, List.append_assoc]
  have hlen : (n.header.bytes ++ before).length = offset := by
    rw [List.length_append, ← ho]
    rfl
  rw [hbytes, List.drop_left' hlen, List.take_left' hw]

theorem byteAt_of_payload {n : Node} (before : Bytes) {byte : UInt8} {after : Bytes} {offset : Nat}
    (h : n.payload = before ++ byte :: after) (ho : Header.size + before.length = offset) : n.byteAt offset = byte := by
  have hfield : (n.bytes.drop offset).take 1 = [byte] := take_drop_bytes before h ho rfl
  rw [byteAt, field, hfield]
  exact UInt8.ofNat_toNat

variable {n : Node} {a b c rest : Bytes}

/-- Both kinds of node begin with three numbers. -/
theorem numbers_of_payload (h : n.payload = a ++ (b ++ (c ++ rest))) (ha : a.length = 4) (hb : b.length = 8)
    (hc : c.length = 8) : n.field 4 4 = decode a ∧ n.field 8 8 = decode b ∧ n.field 16 8 = decode c := by
  have ha' : (n.bytes.drop 4).take 4 = a := take_drop_bytes [] h rfl ha
  have hb' : (n.bytes.drop 8).take 8 = b := take_drop_bytes a h (by rw [ha, Header.size]) hb
  have hc' : (n.bytes.drop 16).take 8 = c :=
    take_drop_bytes (a ++ b) (by rw [h, List.append_assoc]) (by rw [List.length_append, ha, hb, Header.size]) hc
  rw [field, field, field, ha', hb', hc']
  exact ⟨rfl, rfl, rfl⟩

theorem exists_field {bs : Bytes} {k : Nat} (h : k ≤ bs.length) : ∃ x y, bs = x ++ y ∧ x.length = k :=
  ⟨bs.take k, bs.drop k, (List.take_append_drop k bs).symm, List.length_take_of_le h⟩

theorem exists_numbers (h : 20 ≤ n.payload.length) : ∃ a b c rest : Bytes, n.payload = a ++ (b ++ (c ++ rest)) ∧
    a.length = 4 ∧ b.length = 8 ∧ c.length = 8 := by
  obtain ⟨a, after, hp, ha⟩ := exists_field (Nat.le_trans (by decide) h : 4 ≤ n.payload.length)
  rw [hp, List.length_append, ha] at h
  obtain ⟨b, after', rfl, hb⟩ := exists_field (by omega : 8 ≤ after.length)
  rw [List.length_append, hb] at h
  obtain ⟨c, rest, rfl, hc⟩ := exists_field (by omega : 8 ≤ after'.length)
  exact ⟨a, b, c, rest, hp, ha, hb, hc⟩

namespace CdRom

theorem isSome_ofNode? (n : Node) : (ofNode? n).isSome = true ↔ n.nodeType = .cdRom ∧ n.size = length := by
  unfold ofNode?
  split <;> simp_all

theorem ofNode?_of_payload (ht : n.nodeType = .cdRom) (h : n.payload = a ++ (b ++ (c ++ []))) (ha : a.length = 4)
    (hb : b.length = 8) (hc : c.length = 8) :
    ofNode? n = some ⟨UInt32.ofNat (decode a), UInt64.ofNat (decode b), UInt64.ofNat (decode c)⟩ := by
  have hsize : n.size = length := by
    rw [Node.size, h, List.length_append, List.length_append, List.length_append, ha, hb, hc]
    rfl
  obtain ⟨hnumber, hstart, hblocks⟩ := numbers_of_payload h ha hb hc
  rw [ofNode?, if_pos ⟨ht, hsize⟩, hnumber, hstart, hblocks]

/-- **A node is read as the fields that it is asked for with.** -/
theorem ofNode?_eq_some_iff {x : CdRom} : ofNode? n = some x ↔ n.spec = x.spec := by
  constructor
  · intro h
    obtain ⟨ht, hsize⟩ := (isSome_ofNode? n).1 (by rw [h]; rfl)
    have hlen : n.payload.length = 20 := Nat.add_left_cancel (hsize : Header.size + n.payload.length = 4 + 20)
    obtain ⟨a, b, c, rest, hp, ha, hb, hc⟩ := exists_numbers (Nat.le_of_eq hlen.symm)
    rw [hp, List.length_append, List.length_append, List.length_append, ha, hb, hc] at hlen
    obtain rfl : rest = [] := List.length_eq_zero_iff.1 (by omega)
    cases (ofNode?_of_payload ht hp ha hb hc).symm.trans h
    rw [spec, Node.spec, encode_toNat32 ha, encode_toNat64 hb, encode_toNat64 hc, ht, hp, List.append_nil,
      List.append_assoc]
  · intro h
    have ht : n.nodeType = .cdRom := congrArg Spec.nodeType h
    have hp : n.payload = x.spec.payload := congrArg Spec.payload h
    rw [spec, List.append_assoc, ← List.append_nil (encode 8 x.size.toNat)] at hp
    rw [ofNode?_of_payload ht hp (length_encode ..) (length_encode ..) (length_encode ..), decode_toNat32, decode_toNat64,
      decode_toNat64]

end CdRom

namespace HardDrive

theorem isSome_ofNode? (n : Node) : (ofNode? n).isSome = true ↔ n.nodeType = .hardDrive ∧ n.size = length := by
  unfold ofNode?
  split <;> simp_all

variable {signature : Bytes} {format signatureType : UInt8}

theorem ofNode?_of_payload (ht : n.nodeType = .hardDrive)
    (h : n.payload = a ++ (b ++ (c ++ (signature ++ [format, signatureType])))) (ha : a.length = 4) (hb : b.length = 8)
    (hc : c.length = 8) (hs : signature.length = 16) :
    ofNode? n = some ⟨UInt32.ofNat (decode a), UInt64.ofNat (decode b), UInt64.ofNat (decode c), ⟨signature, hs⟩, format,
      signatureType⟩ := by
  have hsize : n.size = length := by
    rw [Node.size, h]
    simp only [List.length_append, ha, hb, hc, hs]
    rfl
  obtain ⟨hnumber, hstart, hblocks⟩ := numbers_of_payload h ha hb hc
  have hlen : (a ++ (b ++ c)).length = 20 := by rw [List.length_append, List.length_append, ha, hb, hc]
  have hfront : n.payload = (a ++ (b ++ c)) ++ (signature ++ [format, signatureType]) := by
    rw [h, List.append_assoc, List.append_assoc]
  have hsignature : (n.bytes.drop 24).take 16 = signature :=
    take_drop_bytes _ hfront (by rw [hlen, Header.size]) hs
  rw [← List.append_assoc] at hfront
  have hformat : n.byteAt 40 = format :=
    byteAt_of_payload _ hfront (by rw [List.length_append, hlen, hs, Header.size])
  rw [List.append_cons] at hfront
  have htype : n.byteAt 41 = signatureType :=
    byteAt_of_payload _ hfront (by rw [List.length_append, List.length_append, hlen, hs, Header.size]; rfl)
  rw [ofNode?, dif_pos ⟨ht, hsize⟩, hnumber, hstart, hblocks, hformat, htype]
  simp only [hsignature]

/-- **A node is read as the fields that it is asked for with.** -/
theorem ofNode?_eq_some_iff {x : HardDrive} : ofNode? n = some x ↔ n.spec = x.spec := by
  constructor
  · intro h
    obtain ⟨ht, hsize⟩ := (isSome_ofNode? n).1 (by rw [h]; rfl)
    have hlen : n.payload.length = 38 := Nat.add_left_cancel (hsize : Header.size + n.payload.length = 4 + 38)
    obtain ⟨a, b, c, rest, hp, ha, hb, hc⟩ := exists_numbers (by omega : 20 ≤ n.payload.length)
    rw [hp, List.length_append, List.length_append, List.length_append, ha, hb, hc] at hlen
    obtain ⟨signature, ends, rfl, hs⟩ := exists_field (by omega : 16 ≤ rest.length)
    rw [List.length_append, hs] at hlen
    obtain ⟨format, signatureType, rfl⟩ := List.length_eq_two.1 (by omega : ends.length = 2)
    cases (ofNode?_of_payload ht hp ha hb hc hs).symm.trans h
    rw [spec, Node.spec, encode_toNat32 ha, encode_toNat64 hb, encode_toNat64 hc, ht, hp]
    simp only [List.append_assoc]
  · intro h
    have ht : n.nodeType = .hardDrive := congrArg Spec.nodeType h
    have hp : n.payload = x.spec.payload := congrArg Spec.payload h
    simp only [spec, List.append_assoc] at hp
    rw [ofNode?_of_payload ht hp (length_encode ..) (length_encode ..) (length_encode ..) x.signature.property,
      decode_toNat32, decode_toNat64, decode_toNat64]

end HardDrive

/-! ## Both kinds -/

theorem CdRom.allowed_spec (x : CdRom) : x.spec.Allowed := by
  have ht : NodeType.cdRom ≠ .endEntire := by decide
  refine ⟨ht, ?_⟩
  rw [spec, List.length_append, List.length_append, length_encode, length_encode, length_encode]
  decide

theorem HardDrive.allowed_spec (x : HardDrive) : x.spec.Allowed := by
  have ht : NodeType.hardDrive ≠ .endEntire := by decide
  refine ⟨ht, ?_⟩
  simp only [spec, List.length_append, length_encode, x.signature.property, List.length_cons, List.length_nil]
  decide

theorem not_both (n : Node) : HardDrive.ofNode? n = none ∨ CdRom.ofNode? n = none := by
  by_cases ht : n.nodeType = .cdRom
  · refine .inl (Option.not_isSome_iff_eq_none.1 fun h => ?_)
    rw [HardDrive.isSome_ofNode?, ht] at h
    exact absurd h.1 (by decide)
  · exact .inr (Option.not_isSome_iff_eq_none.1 fun h => ht ((CdRom.isSome_ofNode? n).1 h).1)

/-! ## Bytes -/

theorem window_bytes {offset w : Nat} (h : offset + w ≤ n.size) :
    ∃ hw, window n.bytes offset w = .ok ⟨(n.bytes.drop offset).take w, hw⟩ := by
  rw [← n.length_bytes] at h
  exact ⟨_, dif_pos h⟩

theorem wordAt_bytes {offset w : Nat} (h : offset + w ≤ n.size) : wordAt n.bytes offset w = .ok (n.field offset w) := by
  obtain ⟨hw, hwindow⟩ := window_bytes h
  rw [wordAt, hwindow]
  rfl

theorem getElem?_bytes {offset : Nat} (h : offset < n.size) : n.bytes[offset]? = some (n.byteAt offset) := by
  rw [← n.length_bytes] at h
  have hfield : (n.bytes.drop offset).take 1 = [n.bytes[offset]] := by
    rw [List.drop_eq_getElem_cons h]
    rfl
  rw [List.getElem?_eq_getElem h, byteAt, field, hfield]
  exact congrArg some UInt8.ofNat_toNat.symm

theorem hasShape_bytes (t : NodeType) (k : Nat) (n : Node) :
    hasShape t k n.bytes = .ok (decide (n.nodeType = t ∧ n.size = k)) := by
  have hread := n.read?_bytes_append []
  rw [List.append_nil] at hread
  have hlen : n.header.length.toNat = n.size := n.length_toNat
  rw [hasShape, DevicePath.typeOf?_bytes, RawPath.lengthOf?, hread]
  simp only [Attempt.inRange, bind, Except.bind, pure, Except.pure, Option.map_some, hlen]
  by_cases ht : n.nodeType = t <;> simp [ht, beq_eq_decide]

theorem CdRom.ofPiece_bytes (n : Node) : CdRom.ofPiece n.bytes = .ofOption (CdRom.ofNode? n) := by
  rw [CdRom.ofPiece, hasShape_bytes, CdRom.ofNode?]
  by_cases his : n.nodeType = .cdRom ∧ n.size = CdRom.length
  · have hsize : n.size = 24 := his.2
    rw [decide_eq_true his, if_pos his, wordAt_bytes (by omega), wordAt_bytes (by omega), wordAt_bytes (by omega)]
    rfl
  · rw [decide_eq_false his, if_neg his]
    rfl

theorem HardDrive.ofPiece_bytes (n : Node) : HardDrive.ofPiece n.bytes = .ofOption (HardDrive.ofNode? n) := by
  rw [HardDrive.ofPiece, hasShape_bytes, HardDrive.ofNode?]
  by_cases his : n.nodeType = .hardDrive ∧ n.size = HardDrive.length
  · have hsize : n.size = 42 := his.2
    obtain ⟨hw, hwindow⟩ := window_bytes (by omega : 24 + 16 ≤ n.size)
    rw [decide_eq_true his, dif_pos his, wordAt_bytes (by omega), wordAt_bytes (by omega), wordAt_bytes (by omega),
      hwindow, getElem?_bytes (by omega), getElem?_bytes (by omega)]
    rfl
  · rw [decide_eq_false his, dif_neg his]
    rfl

/-! ## Kinds of node -/

/-- A kind of node that has fields: its type and its only length, what to ask for to have one, and how one is read, as a
node and as bytes. -/
structure View (α : Type) where
  nodeType : NodeType
  length : Nat
  spec : α → Spec
  ofNode? : Node → Option α
  ofPiece : Bytes → Attempt α

def HardDrive.view : View HardDrive := ⟨.hardDrive, HardDrive.length, spec, ofNode?, ofPiece⟩

def CdRom.view : View CdRom := ⟨.cdRom, CdRom.length, spec, ofNode?, ofPiece⟩

namespace View

variable {α : Type} {v : View α}

/-- What is written is read back, and what is read is written back. -/
structure RoundTrips (v : View α) : Prop where
  recognises : ∀ n, (v.ofNode? n).isSome = true ↔ n.nodeType = v.nodeType ∧ n.length.toNat = v.length
  /-- Reading bytes is reading the node, and never reaches past it. -/
  in_range : ∀ n, v.ofPiece n.bytes = .ofOption (v.ofNode? n)
  /-- Whatever the builder holds and whatever is pushed behind it, the node is read back from the finished path. -/
  reads : ∀ (b : Builder) (x : α), ∃ b', b.push (v.spec x) = .ok b' ∧ ∀ specs b'', b'.pushAll specs = .ok b'' →
    ∃ p n, DevicePath.ofBytes b''.finalize.bytes = .ok p ∧ p.nodes[b.pushed.nodes.length]? = some n ∧
      v.ofNode? n = some x
  /-- What is read off a node asks for the same bytes. -/
  rewrites : ∀ n x, v.ofNode? n = some x → ∀ b : RawBuilder, b.push (v.spec x) = .ok ⟨b.data ++ n.bytes⟩

theorem push_spec {n : Node} (hn : n.spec.Allowed) (b : RawBuilder) : b.push n.spec = .ok ⟨b.data ++ n.bytes⟩ :=
  (if_neg hn.1).trans (if_pos n.fits)

/-- A node keeps its place, whatever is pushed behind it. -/
theorem exists_node_of_pushAll {b b' b'' : Builder} {s : Spec} {specs : List Spec}
    (hheld : b'.held = b.held ++ [s]) (hall : b'.pushAll specs = .ok b'') :
    ∃ n, b''.pushed.nodes[b.pushed.nodes.length]? = some n ∧ n.spec = s := by
  have hheld'' : b''.pushed.nodes.map Node.spec = b.pushed.nodes.map Node.spec ++ s :: specs := by
    rw [List.append_cons]
    exact (Builder.held_of_pushAll hall).trans (congrArg (· ++ specs) hheld)
  have hget := congrArg (fun held => held[b.pushed.nodes.length]?) hheld''
  simp only [List.getElem?_map, List.getElem?_append_right, List.length_map, Nat.le_refl, Nat.sub_self,
    List.getElem?_cons_zero] at hget
  exact Option.map_eq_some_iff.1 hget

theorem roundTrips (hrecognises : ∀ n, (v.ofNode? n).isSome = true ↔ n.nodeType = v.nodeType ∧ n.size = v.length)
    (hbytes : ∀ n, v.ofPiece n.bytes = .ofOption (v.ofNode? n)) (hallowed : ∀ x, (v.spec x).Allowed)
    (hspec : ∀ n x, v.ofNode? n = some x ↔ n.spec = v.spec x) : v.RoundTrips where
  recognises n := by
    rw [n.length_toNat]
    exact hrecognises n
  in_range := hbytes
  reads b x := by
    obtain ⟨b', hpush, hheld⟩ := Builder.push_of_allowed (hallowed x) b
    refine ⟨b', hpush, fun specs b'' hall => ?_⟩
    obtain ⟨n, hn, hx⟩ := exists_node_of_pushAll hheld hall
    exact ⟨b''.finalize, n, DevicePath.ofBytes_bytes _, hn, (hspec n x).2 hx⟩
  rewrites n x hx b := by
    rw [← (hspec n x).1 hx]
    exact push_spec ((hspec n x).1 hx ▸ hallowed x) b

end View

/-- **Hard drive nodes and CD-ROM nodes are read back as they were written, and written as they were read.**  A node is
at most one of the two.  A hard drive node tells the extent that its fields give, and a CD-ROM node tells none. -/
theorem media_roundTrips :
    HardDrive.view.RoundTrips ∧ CdRom.view.RoundTrips ∧
    (∀ n x, HardDrive.ofNode? n = some x → CdRom.ofNode? n = none ∧ Extent.ofNode? n = some ⟨x.start, x.size⟩) ∧
    (∀ n x, CdRom.ofNode? n = some x → HardDrive.ofNode? n = none ∧ Extent.ofNode? n = none) := by
  refine ⟨View.roundTrips HardDrive.isSome_ofNode? HardDrive.ofPiece_bytes HardDrive.allowed_spec
      fun _ _ => HardDrive.ofNode?_eq_some_iff,
    View.roundTrips CdRom.isSome_ofNode? CdRom.ofPiece_bytes CdRom.allowed_spec fun _ _ => CdRom.ofNode?_eq_some_iff,
    fun n x h => ⟨?_, ?_⟩, fun n x h => ?_⟩
  · exact (not_both n).resolve_left fun hnone => Option.some_ne_none x (h.symm.trans hnone)
  · rw [Extent.ofNode?, h]
    rfl
  · have hnone : HardDrive.ofNode? n = none :=
      (not_both n).resolve_right fun hnone => Option.some_ne_none x (h.symm.trans hnone)
    refine ⟨hnone, ?_⟩
    rw [Extent.ofNode?, hnone]
    rfl

end Node
end DriveMap
