import DriveMap.Proofs.Grammar
/-!
# What reading blames

Bytes that are no path are refused for the first node that breaks the rules, and by the first rule that this node breaks
(`DevicePath.Blames`, `DevicePath.ofBytes_eq_error_iff`).  Two faults are found in the header alone or in a node that is
all there, and nothing that comes behind can mend them.  The other two say that bytes are missing, and a path that is
cut short has one of these (`DevicePath.ofBytes_take`).
-/
namespace DriveMap
namespace DevicePath

/-- The length that the header at the start of `rest` states. -/
def statedLength (rest : Bytes) : UInt16 := UInt16.ofNat (LittleEndian.decode ((rest.drop 2).take 2))

/-- The fault of the node that `rest` starts with, which begins at byte `offset`.  A rule is only asked for where the
rules before it are kept. -/
structure Blames (offset : Nat) (rest : Bytes) (fault : PathError) : Prop where
  truncated : fault = .truncatedHeader offset ↔ rest.length < Header.size
  tooSmall : Header.size ≤ rest.length →
    (fault = .lengthTooSmall offset (statedLength rest) ↔ (statedLength rest).toNat < Header.size)
  outOfBounds : Header.size ≤ rest.length → Header.size ≤ (statedLength rest).toNat →
    (fault = .nodeOutOfBounds offset (statedLength rest) ↔ rest.length < (statedLength rest).toNat)
  longEnd : Header.size ≤ rest.length → Header.size ≤ (statedLength rest).toNat →
    (statedLength rest).toNat ≤ rest.length →
    fault = .endNodeLength offset (statedLength rest) ∧ rest.take 2 = [0x7f, 0xff] ∧
      Header.size < (statedLength rest).toNat

variable {offset : Nat} {rest after : Bytes} {fault : PathError} {n : Node}

/-! ## One node -/

theorem statedLength_bytes_append (h : Header) (payload : Bytes) : statedLength (h.bytes ++ payload) = h.length := by
  have hword : ((h.bytes ++ payload).drop 2).take 2 = LittleEndian.encode 2 h.length.toNat := rfl
  rw [statedLength, hword, LittleEndian.decode_encode h.length.toNat_lt, UInt16.ofNat_toNat]

theorem exists_read? (hle : Header.size ≤ rest.length) : ∃ t, Header.read? rest = some ⟨t, statedLength rest⟩ := by
  obtain ⟨h, payload, rfl⟩ := Header.exists_bytes_append hle
  rw [statedLength_bytes_append]
  exact ⟨h.nodeType, h.read?_append payload⟩

theorem readFrom_of_error (hread : Node.read offset rest = .error fault) : readFrom offset rest = .error fault := by
  rw [readFrom]
  split <;> simp_all

theorem read_of_truncated (hlt : rest.length < Header.size) :
    Node.read offset rest = .error (.truncatedHeader offset) := by
  have hnone : Header.read? rest = none := by
    by_contra hsome
    obtain ⟨h, hread⟩ := Option.ne_none_iff_exists'.1 hsome
    exact absurd (Header.size_le_of_read? hread) (Nat.not_le.2 hlt)
  simp only [Node.read, hnone]

theorem read_of_tooSmall (hle : Header.size ≤ rest.length) (hlt : (statedLength rest).toNat < Header.size) :
    Node.read offset rest = .error (.lengthTooSmall offset (statedLength rest)) := by
  obtain ⟨t, hread⟩ := exists_read? hle
  simp only [Node.read, hread, if_pos hlt]

theorem read_of_outOfBounds (hle : Header.size ≤ rest.length) (hlong : Header.size ≤ (statedLength rest).toNat)
    (hlt : rest.length < (statedLength rest).toNat) :
    Node.read offset rest = .error (.nodeOutOfBounds offset (statedLength rest)) := by
  obtain ⟨t, hread⟩ := exists_read? hle
  simp only [Node.read, hread, if_neg (Nat.not_lt.2 hlong), if_pos (Node.length_take_lt_iff.2 hlt)]

theorem exists_read (offset : Nat) (hle : Header.size ≤ rest.length) (hlong : Header.size ≤ (statedLength rest).toNat)
    (hin : (statedLength rest).toNat ≤ rest.length) : ∃ n after, Node.read offset rest = .ok (n, after) := by
  obtain ⟨t, hread⟩ := exists_read? hle
  simp only [Node.read, hread, if_neg (Nat.not_lt.2 hlong), if_neg (Node.length_take_lt_iff.not.2 (Nat.not_lt.2 hin))]
  exact ⟨_, _, rfl⟩

theorem stated_of_read (hread : Node.read offset rest = .ok (n, after)) :
    statedLength rest = n.length ∧ rest.take 2 = [n.nodeType.category.code, n.nodeType.subtype] ∧
      n.size ≤ rest.length := by
  obtain rfl := Node.read_eq_ok.1 hread
  refine ⟨?_, rfl, ?_⟩
  · rw [Node.bytes, List.append_assoc, statedLength_bytes_append]
    rfl
  · rw [List.length_append, n.length_bytes]
    exact Nat.le_add_right _ _

theorem blames_of_read (hread : Node.read offset rest = .error fault) : Blames offset rest fault := by
  by_cases htrunc : rest.length < Header.size
  · rw [read_of_truncated htrunc] at hread
    cases hread
    exact ⟨by simp [htrunc], fun h => by omega, fun h => by omega, fun h => by omega⟩
  have hle := Nat.not_lt.1 htrunc
  by_cases hsmall : (statedLength rest).toNat < Header.size
  · rw [read_of_tooSmall hle hsmall] at hread
    cases hread
    exact ⟨by simp [hle], fun _ => by simp [hsmall], fun _ h => by omega, fun _ h => by omega⟩
  have hlong := Nat.not_lt.1 hsmall
  by_cases hout : rest.length < (statedLength rest).toNat
  · rw [read_of_outOfBounds hle hlong hout] at hread
    cases hread
    exact ⟨by simp [hle], fun _ => by simp [hlong], fun _ _ => by simp [hout], fun _ _ h => by omega⟩
  · obtain ⟨n, after, hok⟩ := exists_read offset hle hlong (Nat.not_lt.1 hout)
    rw [hok] at hread
    cases hread

theorem blames_of_long_end (hread : Node.read offset rest = .ok (n, after)) (hn : n.isEndEntire = true)
    (hpayload : n.payload ≠ []) : Blames offset rest (.endNodeLength offset n.length) := by
  obtain ⟨hstated, htake, hin⟩ := stated_of_read hread
  have hsize : Header.size < n.size := Nat.lt_add_of_pos_right (List.length_pos_iff.2 hpayload)
  rw [← n.length_toNat, ← hstated] at hsize hin
  rw [eq_endEntire_iff.1 (beq_iff_eq.1 hn)] at htake
  rw [← hstated]
  have hle : Header.size ≤ rest.length := by omega
  exact ⟨by simp [hle], fun _ => by simp [hsize.le], fun _ _ => by simp [hin], fun _ _ _ => ⟨rfl, htake, hsize⟩⟩

theorem readFrom_of_blames (h : Blames offset rest fault) : readFrom offset rest = .error fault := by
  by_cases htrunc : rest.length < Header.size
  · rw [h.truncated.2 htrunc]
    exact readFrom_of_error (read_of_truncated htrunc)
  have hle := Nat.not_lt.1 htrunc
  by_cases hsmall : (statedLength rest).toNat < Header.size
  · rw [(h.tooSmall hle).2 hsmall]
    exact readFrom_of_error (read_of_tooSmall hle hsmall)
  have hlong := Nat.not_lt.1 hsmall
  by_cases hout : rest.length < (statedLength rest).toNat
  · rw [(h.outOfBounds hle hlong).2 hout]
    exact readFrom_of_error (read_of_outOfBounds hle hlong hout)
  have hin := Nat.not_lt.1 hout
  obtain ⟨hfault, hend, hsize⟩ := h.longEnd hle hlong hin
  obtain ⟨n, after, hread⟩ := exists_read offset hle hlong hin
  obtain ⟨hstated, htake, -⟩ := stated_of_read hread
  have hn : n.isEndEntire = true := beq_iff_eq.2 (eq_endEntire_iff.2 (htake.symm.trans hend))
  have hpayload : n.payload.isEmpty = false := by
    rw [hstated, n.length_toNat, Node.size] at hsize
    rw [List.isEmpty_eq_false_iff, ← List.length_pos_iff]
    omega
  rw [readFrom_of_closing hread hn, hpayload, hfault, hstated]
  rfl

/-! ## The first node that breaks a rule -/

theorem readFrom_append_error (p : DevicePath)
    (hrest : readFrom (offset + Node.totalSize p.nodes) rest = .error fault) :
    readFrom offset (p.nodes.flatMap Node.bytes ++ rest) = .error fault := by
  obtain ⟨nodes, noEnd⟩ := p
  induction nodes generalizing offset with
  | nil => exact hrest
  | cons n nodes ih =>
    obtain ⟨hn, hnodes⟩ := List.forall_mem_cons.1 noEnd
    have hread : Node.read offset ((n :: nodes).flatMap Node.bytes ++ rest) =
        .ok (n, nodes.flatMap Node.bytes ++ rest) := by
      rw [Node.read_eq_ok, List.flatMap_cons, List.append_assoc]
    rw [readFrom_of_read hread hn, ih hnodes (by rwa [Node.totalSize, ← Nat.add_assoc] at hrest)]
    rfl

theorem exists_blames_of_readFrom (h : readFrom offset rest = .error fault) :
    ∃ (p : DevicePath) (stuck : Bytes), rest = p.nodes.flatMap Node.bytes ++ stuck ∧
      Blames (offset + Node.totalSize p.nodes) stuck fault := by
  -- `p` is what is read from `offset` on until it goes wrong, so a step of the reader puts its node in front of `p`
  fun_induction readFrom offset rest with
  | case1 offset rest fault' hread =>
    cases h
    exact ⟨empty, rest, rfl, blames_of_read hread⟩
  | case2 => cases h
  | case3 offset rest n after hread hlt hclosing hpayload =>
    cases h
    refine ⟨empty, rest, rfl, blames_of_long_end hread hclosing ?_⟩
    exact fun hnil => hpayload (List.isEmpty_iff.2 hnil)
  | case4 offset rest n after hread hlt hclosing fault' hrest ih =>
    cases h
    obtain ⟨p, stuck, rfl, hblames⟩ := ih hrest
    refine ⟨cons n p (Bool.eq_false_iff.2 hclosing), stuck, ?_, ?_⟩
    · rw [Node.read_eq_ok.1 hread, cons, List.flatMap_cons, List.append_assoc]
    · rwa [cons, Node.totalSize, ← Nat.add_assoc]
  | case5 => cases h

/-- **Reading blames the first node that breaks a rule**, and nothing else. -/
theorem ofBytes_eq_error_iff {bs : Bytes} : ofBytes bs = .error fault ↔
    ∃ (pieces : List Bytes) (rest : Bytes), bs = pieces.flatten ++ rest ∧ (∀ piece ∈ pieces, IsPiece piece) ∧
      Blames pieces.flatten.length rest fault := by
  constructor
  · intro h
    obtain ⟨p, rest, rfl, hblames⟩ := exists_blames_of_readFrom h
    refine ⟨p.nodes.map Node.bytes, rest, by rw [List.flatMap_def], fun piece hpiece => ?_, ?_⟩
    · obtain ⟨n, hn, rfl⟩ := List.mem_map.1 hpiece
      exact isPiece_iff.2 ⟨n, p.noEnd n hn, rfl⟩
    · rwa [← List.flatMap_def, length_flatMap_bytes, ← Nat.zero_add (Node.totalSize _)]
  · rintro ⟨pieces, rest, rfl, hpieces, hblames⟩
    obtain ⟨p, rfl⟩ := exists_path_of_pieces hpieces
    rw [← List.flatMap_def] at hblames ⊢
    rw [length_flatMap_bytes, ← Nat.zero_add (Node.totalSize _)] at hblames
    exact readFrom_append_error p (readFrom_of_blames hblames)

/-! ## More bytes, and fewer -/

theorem statedLength_append (hle : Header.size ≤ rest.length) (tail : Bytes) :
    statedLength (rest ++ tail) = statedLength rest := by
  obtain ⟨h, payload, rfl⟩ := Header.exists_bytes_append hle
  rw [List.append_assoc, statedLength_bytes_append, statedLength_bytes_append]

/-- A node that no bytes are missing of is blamed for the same, whatever comes behind. -/
theorem Blames.append (h : Blames offset rest fault) (hheader : fault ≠ .truncatedHeader offset)
    (hwhole : fault ≠ .nodeOutOfBounds offset (statedLength rest)) (tail : Bytes) :
    Blames offset (rest ++ tail) fault := by
  have hle : Header.size ≤ rest.length := Nat.not_lt.1 fun hlt => hheader (h.truncated.2 hlt)
  have hin : Header.size ≤ (statedLength rest).toNat → (statedLength rest).toNat ≤ rest.length := fun hlong =>
    Nat.not_lt.1 fun hlt => hwhole ((h.outOfBounds hle hlong).2 hlt)
  have hstated := statedLength_append hle tail
  have htake : (rest ++ tail).take 2 = rest.take 2 := List.take_append_of_le_length (Nat.le_trans (by decide) hle)
  have hmore : rest.length ≤ (rest ++ tail).length := by simp
  constructor
  case truncated => exact ⟨fun hf => absurd hf hheader, fun hlt => by omega⟩
  case tooSmall =>
    rw [hstated]
    exact fun _ => h.tooSmall hle
  case outOfBounds =>
    rw [hstated]
    intro _ hlong
    have := hin hlong
    exact ⟨fun hf => absurd hf hwhole, fun hlt => by omega⟩
  case longEnd =>
    rw [hstated, htake]
    exact fun _ hlong _ => h.longEnd hle hlong (hin hlong)

theorem ofBytes_append_of_error {bs : Bytes} (h : ofBytes bs = .error fault)
    (hheader : ∀ offset, fault ≠ .truncatedHeader offset) (hwhole : ∀ offset length, fault ≠ .nodeOutOfBounds offset length)
    (tail : Bytes) : ofBytes (bs ++ tail) = .error fault := by
  obtain ⟨pieces, rest, rfl, hpieces, hblames⟩ := ofBytes_eq_error_iff.1 h
  refine ofBytes_eq_error_iff.2 ⟨pieces, rest ++ tail, List.append_assoc .., hpieces, ?_⟩
  exact hblames.append (hheader _) (hwhole _ _) tail

theorem ofBytes_append_of_ok {bs : Bytes} {p : DevicePath} (h : ofBytes bs = .ok p) (tail : Bytes) :
    ofBytes (bs ++ tail) = .ok p := by
  obtain ⟨tail', rfl⟩ := ofBytes_eq_ok.1 h
  exact ofBytes_eq_ok.2 ⟨tail' ++ tail, List.append_assoc ..⟩

theorem exists_node_at : ∀ {nodes : List Node} {k : Nat}, k < Node.totalSize nodes → ∃ before n after,
    nodes = before ++ n :: after ∧ Node.totalSize before ≤ k ∧ k < Node.totalSize before + n.size
  | n :: nodes, k, hk => by
    by_cases hn : k < n.size
    · exact ⟨[], n, nodes, rfl, Nat.zero_le k, by simpa [Node.totalSize] using hn⟩
    have hrest : k - n.size < Node.totalSize nodes := by
      rw [Node.totalSize] at hk
      omega
    obtain ⟨before, m, after, rfl, hle, hlt⟩ := exists_node_at hrest
    refine ⟨n :: before, m, after, rfl, ?_, ?_⟩
    · rw [Node.totalSize]
      omega
    · rw [Node.totalSize]
      omega

theorem readFrom_take_node {k : Nat} (offset : Nat) (hk : k < n.size) : readFrom offset (n.bytes.take k) =
    .error (if k < Header.size then .truncatedHeader offset else .nodeOutOfBounds offset n.length) := by
  have hlen : (n.bytes.take k).length = k := List.length_take_of_le (n.length_bytes ▸ hk.le)
  split
  · rename_i hlt
    exact readFrom_of_error (read_of_truncated (hlen.symm ▸ hlt))
  · rename_i hle
    have hstated : statedLength (n.bytes.take k) = n.length := by
      rw [← statedLength_append (hlen.symm ▸ Nat.not_lt.1 hle) (n.bytes.drop k), List.take_append_drop]
      exact statedLength_bytes_append n.header n.payload
    rw [← hstated]
    refine readFrom_of_error (read_of_outOfBounds (hlen.symm ▸ Nat.not_lt.1 hle) ?_ ?_)
    · rw [hstated, n.length_toNat]
      exact Nat.le_add_right _ _
    · rw [hstated, n.length_toNat, hlen]
      exact hk

/-- **A path that is cut short is refused for the node that was cut.** -/
theorem ofBytes_take {p : DevicePath} {k : Nat} (hk : k < p.size) : ∃ before n after,
    p.allNodes = before ++ n :: after ∧ Node.totalSize before ≤ k ∧ k < Node.totalSize before + n.size ∧
      ofBytes (p.bytes.take k) = .error (if k < Node.totalSize before + Header.size
        then .truncatedHeader (Node.totalSize before) else .nodeOutOfBounds (Node.totalSize before) n.length) := by
  obtain ⟨before, n, after, hall, hle, hlt⟩ := exists_node_at hk
  refine ⟨before, n, after, hall, hle, hlt, ?_⟩
  -- the end-entire node is the last, so none of the nodes before the one that was cut is it
  have hnodes : p.nodes = before ++ (n :: after).dropLast := by
    rw [← List.dropLast_append_cons, ← hall, allNodes, List.dropLast_concat]
  have hsub : before ⊆ p.nodes := fun m hm => hnodes ▸ List.mem_append_left _ hm
  obtain ⟨j, rfl⟩ := Nat.exists_eq_add_of_le hle
  have htake : p.bytes.take (Node.totalSize before + j) =
      (p.ofSubset before hsub).nodes.flatMap Node.bytes ++ n.bytes.take j := by
    rw [bytes, hall, List.flatMap_append, List.flatMap_cons, ← length_flatMap_bytes, List.take_length_add_append,
      List.take_append_of_le_length (by rw [n.length_bytes]; omega)]
    rfl
  rw [htake]
  refine readFrom_append_error (p.ofSubset before hsub) ?_
  rw [readFrom_take_node _ (by omega)]
  simp [ofSubset]

/-- **An error names the first node that is wrong and what is wrong with it.**  What is found of a node that is all
there is found whatever comes behind; a path that is cut short is refused for the node that was cut. -/
theorem ofBytes_error_located (bs : Bytes) :
    (∀ fault, ofBytes bs = .error fault ↔ ∃ (pieces : List Bytes) (rest : Bytes), bs = pieces.flatten ++ rest ∧
      (∀ piece ∈ pieces, IsPiece piece) ∧ Blames pieces.flatten.length rest fault) ∧
    (∀ offset length tail, ofBytes bs = .error (.lengthTooSmall offset length) →
      ofBytes (bs ++ tail) = .error (.lengthTooSmall offset length)) ∧
    (∀ offset length tail, ofBytes bs = .error (.endNodeLength offset length) →
      ofBytes (bs ++ tail) = .error (.endNodeLength offset length)) ∧
    (∀ p tail, ofBytes bs = .ok p → ofBytes (bs ++ tail) = .ok p) ∧
    ∀ (p : DevicePath) (cut : Bytes), p.bytes = bs ++ cut → cut ≠ [] → ∃ before n after, p.allNodes = before ++ n :: after ∧
      Node.totalSize before ≤ bs.length ∧ bs.length < Node.totalSize before + n.size ∧
      ofBytes bs = .error (if bs.length < Node.totalSize before + Header.size
        then .truncatedHeader (Node.totalSize before) else .nodeOutOfBounds (Node.totalSize before) n.length) := by
  refine ⟨fun fault => ofBytes_eq_error_iff, ?_, ?_, fun p tail h => ofBytes_append_of_ok h tail, ?_⟩
  · intro offset length tail h
    exact ofBytes_append_of_error h (by simp) (by simp) tail
  · intro offset length tail h
    exact ofBytes_append_of_error h (by simp) (by simp) tail
  · intro p cut hp hcut
    have hlt : bs.length < p.size := by
      rw [← p.length_bytes, hp, List.length_append]
      exact Nat.lt_add_of_pos_right (List.length_pos_iff.2 hcut)
    have htake : p.bytes.take bs.length = bs := by rw [hp, List.take_left]
    rw [← htake, List.length_take_of_le (p.length_bytes ▸ hlt.le)]
    exact ofBytes_take hlt

/-- An end that is too long behind a good node, and a path that is cut inside the payload of its second node. -/
theorem ofBytes_error_located_at_ends :
    let bs : Bytes := [0x01, 0x01, 0x06, 0x00, 0x00, 0x1f, 0x7f, 0xff, 0x05, 0x00, 0x00]
    let first : Node := ⟨.pci, [0x00, 0x1f], by decide⟩
    let second : Node := ⟨.acpi, [0x01, 0x02, 0x03], by decide⟩
    let p : DevicePath := ⟨[first, second], by decide⟩
    (ofBytes bs = .error (.endNodeLength 6 5) ∧ ∀ tail, ofBytes (bs ++ tail) = .error (.endNodeLength 6 5)) ∧
    ∃ before n after, p.allNodes = before ++ n :: after ∧ Node.totalSize before ≤ 11 ∧
      11 < Node.totalSize before + n.size ∧
      ofBytes (p.bytes.take 11) = .error (if 11 < Node.totalSize before + Header.size
        then .truncatedHeader (Node.totalSize before) else .nodeOutOfBounds (Node.totalSize before) n.length) := by
  intro bs first second p
  have hend : ofBytes bs = .error (.endNodeLength 6 5) := by cbv
  refine ⟨⟨hend, fun tail => (ofBytes_error_located bs).2.2.1 6 5 tail hend⟩, ?_⟩
  exact (ofBytes_error_located (p.bytes.take 11)).2.2.2.2 p (p.bytes.drop 11) (List.take_append_drop ..).symm (by decide)

end DevicePath
end DriveMap
