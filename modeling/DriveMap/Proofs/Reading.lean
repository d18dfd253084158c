import DriveMap.DevicePath.Read
import DriveMap.Proofs.NodeBytes
/-!
# What reading reads

Reading a node takes the bytes of that node off the front (`Node.read_eq_ok`), and reading a path takes off the bytes of
that path (`DevicePath.ofBytes_eq_ok`): whatever the bytes, reading succeeds with a path exactly if they start with it.
-/
namespace DriveMap
namespace Node

/-- What a header's length cuts off, taken as a node, is written as it was cut off. -/
theorem bytes_of_header {h : Header} {rest : Bytes} (hread : Header.read? rest = some h)
    (hle : Header.size ≤ h.length.toNat) (hin : h.length.toNat ≤ rest.length) :
    (⟨h.nodeType, _, fits_of_header h rest⟩ : Node).bytes = rest.take h.length.toNat := by
  obtain ⟨payload, hrest⟩ := Header.read?_eq_some_iff.1 hread
  have hsize : h.bytes.length = Header.size := rfl
  have hcut : rest.take h.length.toNat = h.bytes ++ payload.take (h.length.toNat - Header.size) := by
    rw [hrest, List.take_append, hsize, List.take_of_length_le (by omega)]
  have hlen : h.length.toNat = Header.size + ((rest.take h.length.toNat).drop Header.size).length := by
    rw [List.length_drop, List.length_take]
    omega
  rw [bytes_mk _ hlen, hcut, List.drop_left' hsize]

/-- **Reading takes the bytes of one node off the front.** -/
theorem read_eq_ok {offset : Nat} {rest after : Bytes} {n : Node} :
    read offset rest = .ok (n, after) ↔ rest = n.bytes ++ after := by
  constructor
  · intro h
    rw [read] at h
    split at h
    · cases h
    rename_i hd hread
    split at h
    · cases h
    rename_i hle
    split at h
    · cases h
    rename_i hin
    rw [length_take_lt_iff] at hin
    cases h
    rw [bytes_of_header hread (Nat.not_lt.1 hle) (Nat.not_lt.1 hin), List.take_append_drop]
  · rintro rfl
    have hle : Header.size ≤ n.bytes.length := by
      rw [n.length_bytes]
      exact Nat.le_add_right _ _
    have hin : ¬((n.bytes ++ after).take n.bytes.length).length < n.bytes.length := by
      rw [List.take_left]
      exact Nat.lt_irrefl _
    rw [read, read?_bytes_append]
    simp only [header_length_toNat, if_neg (Nat.not_lt.2 hle), if_neg hin, List.drop_left]
    refine congrArg (fun m => Except.ok (m, after)) (ext_parts rfl ?_)
    change ((n.bytes ++ after).take n.bytes.length).drop Header.size = n.payload
    rw [List.take_left]
    exact List.drop_left' rfl

end Node

namespace DevicePath

variable {offset : Nat} {rest after : Bytes} {n : Node}

theorem readFrom_of_closing (h : Node.read offset rest = .ok (n, after)) (hn : n.isEndEntire = true) :
    readFrom offset rest = if n.payload.isEmpty then .ok empty else .error (.endNodeLength offset n.length) := by
  rw [readFrom]
  split <;> simp_all

theorem readFrom_of_read (h : Node.read offset rest = .ok (n, after)) (hn : n.isEndEntire = false) :
    readFrom offset rest = (readFrom (offset + n.size) after).map fun p => cons n p hn := by
  rw [readFrom]
  split
  · simp_all
  · rename_i n' after' h'
    obtain ⟨rfl, rfl⟩ : n' = n ∧ after' = after := by simpa [h] using h'.symm
    simp only [hn]
    cases readFrom (offset + n'.size) after' <;> rfl

theorem readFrom_bytes_append (p : DevicePath) (tail : Bytes) (offset : Nat) :
    readFrom offset (p.bytes ++ tail) = .ok p := by
  obtain ⟨nodes, noEnd⟩ := p
  induction nodes generalizing offset with
  | nil =>
    have hread : Node.read offset (Node.endEntire.bytes ++ tail) = .ok (Node.endEntire, tail) := Node.read_eq_ok.2 rfl
    exact readFrom_of_closing hread rfl
  | cons n nodes ih =>
    obtain ⟨hn, hnodes⟩ := List.forall_mem_cons.1 noEnd
    have hread : Node.read offset ((mk (n :: nodes) noEnd).bytes ++ tail) =
        .ok (n, (mk nodes hnodes).bytes ++ tail) := Node.read_eq_ok.2 (List.append_assoc ..)
    rw [readFrom_of_read hread hn, ih _ hnodes]
    rfl

theorem exists_tail_of_readFrom {p : DevicePath} (h : readFrom offset rest = .ok p) :
    ∃ tail, rest = p.bytes ++ tail := by
  fun_induction readFrom offset rest generalizing p with
  | case1 => cases h
  | case2 offset rest n after hread hlt hclosing hempty =>
    cases h
    refine ⟨after, ?_⟩
    have hn : n = Node.endEntire := Node.ext_parts (beq_iff_eq.1 hclosing) (List.isEmpty_iff.1 hempty)
    rw [Node.read_eq_ok.1 hread, hn]
    rfl
  | case3 => cases h
  | case4 offset rest n after hread hlt hclosing fault hrest ih => cases h
  | case5 offset rest n after hread hlt hclosing p' hrest ih =>
    cases h
    obtain ⟨tail, rfl⟩ := ih hrest
    refine ⟨tail, ?_⟩
    rw [Node.read_eq_ok.1 hread, ← List.append_assoc]
    rfl

/-- **What is read is what the bytes start with**, and every path is read that they may start with. -/
theorem ofBytes_eq_ok {bs : Bytes} {p : DevicePath} : ofBytes bs = .ok p ↔ ∃ tail, bs = p.bytes ++ tail := by
  constructor
  · exact exists_tail_of_readFrom
  · rintro ⟨tail, rfl⟩
    exact readFrom_bytes_append p tail 0

end DevicePath
end DriveMap
