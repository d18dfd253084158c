import DriveMap.DevicePath.Basic
import DriveMap.Proofs.LittleEndian
/-!
# Nodes and their bytes

A header is read off whatever it stands in front of.  A node states its own length, so the bytes of one node never run
on into those of another: several nodes written one after another can be told apart again (`Node.bytes_append_inj`,
`Node.flatMap_bytes_inj`).  A path has one spelling, and cutting its bytes where a node starts is cutting its nodes.
-/
namespace DriveMap
namespace Header

theorem read?_append (h : Header) (rest : Bytes) : read? (h.bytes ++ rest) = some h := by
  have hlen : LittleEndian.decode (LittleEndian.encode 2 h.length.toNat) = h.length.toNat :=
    LittleEndian.decode_encode h.length.toNat_lt
  simp only [bytes, LittleEndian.encode, List.cons_append, read?] at hlen ⊢
  rw [hlen, UInt16.ofNat_toNat]

/-- Bytes enough for a header start with one, whatever they are. -/
theorem exists_bytes_append : ∀ {bs : Bytes}, size ≤ bs.length → ∃ h payload, bs = bytes h ++ payload
  | category :: subtype :: lo :: hi :: payload, _ => by
    have hlt : LittleEndian.decode [lo, hi] < 256 ^ 2 := LittleEndian.decode_lt [lo, hi]
    have hback : LittleEndian.encode 2 (LittleEndian.decode [lo, hi]) = [lo, hi] := LittleEndian.encode_decode [lo, hi]
    refine ⟨⟨⟨⟨category⟩, subtype⟩, UInt16.ofNat (LittleEndian.decode [lo, hi])⟩, payload, ?_⟩
    rw [bytes, UInt16.toNat_ofNat_of_lt' hlt, hback]
    rfl

theorem size_le_of_read? : ∀ {bs : Bytes} {h : Header}, read? bs = some h → size ≤ bs.length
  | _ :: _ :: _ :: _ :: _, _, _ => by simp [size]

theorem read?_eq_some_iff {bs : Bytes} {h : Header} : read? bs = some h ↔ ∃ payload, bs = h.bytes ++ payload := by
  constructor
  · intro hread
    obtain ⟨h', payload, rfl⟩ := exists_bytes_append (size_le_of_read? hread)
    rw [read?_append, Option.some.injEq] at hread
    exact ⟨payload, by rw [hread]⟩
  · rintro ⟨payload, rfl⟩
    exact h.read?_append payload

end Header

namespace Node

theorem ext_parts {n m : Node} (ht : n.nodeType = m.nodeType) (hp : n.payload = m.payload) : n = m := by
  cases n; cases m; cases ht; cases hp; rfl

theorem read?_bytes_append (n : Node) (rest : Bytes) : Header.read? (n.bytes ++ rest) = some n.header := by
  rw [bytes, List.append_assoc]
  exact n.header.read?_append _

theorem header_length_toNat (n : Node) : n.header.length.toNat = n.bytes.length :=
  n.length_toNat.trans n.length_bytes.symm

/-- A header that states the right length is the header of the node it stands in front of. -/
theorem bytes_mk {h : Header} {payload : Bytes} (fits : Header.size + payload.length < UInt16.size)
    (hlen : h.length.toNat = Header.size + payload.length) :
    (⟨h.nodeType, payload, fits⟩ : Node).bytes = h.bytes ++ payload := by
  have hlength : UInt16.ofNat (Header.size + payload.length) = h.length := by rw [← hlen, UInt16.ofNat_toNat]
  simp only [bytes, header, length, size, hlength]

/-- **A node ends where its own length says**: what is written in front of anything is read off it again. -/
theorem bytes_append_inj {n m : Node} {r s : Bytes} (h : n.bytes ++ r = m.bytes ++ s) : n = m ∧ r = s := by
  have hh : n.header = m.header := by
    have hr := congrArg Header.read? h
    rw [read?_bytes_append, read?_bytes_append] at hr
    exact Option.some.inj hr
  have hsize : n.size = m.size := by
    rw [← n.length_toNat, ← m.length_toNat]
    exact congrArg (fun h : Header => h.length.toNat) hh
  obtain ⟨hb, hrs⟩ := List.append_inj h (by rw [n.length_bytes, m.length_bytes, hsize])
  have hp : n.payload = m.payload := by
    unfold bytes at hb
    rw [hh] at hb
    exact List.append_cancel_left hb
  exact ⟨ext_parts (congrArg Header.nodeType hh) hp, hrs⟩

theorem bytes_ne_nil (n : Node) : n.bytes ≠ [] := by
  intro h
  have hlen := n.length_bytes
  have hpos := n.size_pos
  rw [h, List.length_nil] at hlen
  omega

/-- **Nodes in a row are told apart by their bytes.** -/
theorem flatMap_bytes_inj : ∀ {ns ms : List Node}, ns.flatMap bytes = ms.flatMap bytes → ns = ms
  | [], [], _ => rfl
  | [], m :: ms, h => by
    rw [List.flatMap_nil, List.flatMap_cons] at h
    exact absurd (List.append_eq_nil_iff.1 h.symm).1 m.bytes_ne_nil
  | n :: ns, [], h => by
    rw [List.flatMap_nil, List.flatMap_cons] at h
    exact absurd (List.append_eq_nil_iff.1 h).1 n.bytes_ne_nil
  | n :: ns, m :: ms, h => by
    rw [List.flatMap_cons, List.flatMap_cons] at h
    obtain ⟨rfl, hrest⟩ := bytes_append_inj h
    rw [flatMap_bytes_inj hrest]

theorem totalSize_append : ∀ ns ms : List Node, totalSize (ns ++ ms) = totalSize ns + totalSize ms
  | [], ms => (Nat.zero_add _).symm
  | n :: ns, ms => by rw [List.cons_append, totalSize, totalSize, totalSize_append ns ms, Nat.add_assoc]

end Node

namespace DevicePath

/-- **A path has one spelling.** -/
theorem bytes_inj {p q : DevicePath} : p.bytes = q.bytes ↔ p = q := by
  refine ⟨fun h => ?_, fun h => h ▸ rfl⟩
  exact ext_nodes (List.append_cancel_right (Node.flatMap_bytes_inj h))

theorem bytes_eq (p : DevicePath) : p.bytes = p.nodes.flatMap Node.bytes ++ Node.endEntire.bytes := by
  rw [bytes, allNodes, List.flatMap_append, List.flatMap_singleton]

theorem size_eq (p : DevicePath) : p.size = Node.totalSize p.nodes + Header.size := by
  rw [size, allNodes, Node.totalSize_append]
  rfl

theorem take_bytes_size (p : DevicePath) :
    p.bytes.take (p.size - Header.size) = p.nodes.flatMap Node.bytes := by
  rw [size_eq, Nat.add_sub_cancel, bytes_eq, ← length_flatMap_bytes, List.take_left]

theorem offsetsFrom_append : ∀ (start : Nat) (ns ms : List Node),
    offsetsFrom start (ns ++ ms) = offsetsFrom start ns ++ offsetsFrom (start + Node.totalSize ns) ms
  | _, [], _ => rfl
  | start, n :: ns, ms => by
    have hsum : start + n.size + Node.totalSize ns = start + Node.totalSize (n :: ns) := Nat.add_assoc _ _ _
    rw [List.cons_append, offsetsFrom, offsetsFrom, offsetsFrom_append, List.cons_append, hsum]

end DevicePath
end DriveMap
