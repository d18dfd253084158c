import DriveMap.Proofs.Accounting
import DriveMap.Proofs.Tails
/-!
# Where a device keeps its leaf

A device is made with the place where the leaf of its path starts, and never looks for it again: its leaf, and its leaf
as a path, are slices of the bytes from that place on, up to the end or with it.  The path itself finds its leaf and its
tails by a walk over its nodes.  The two agree whatever the nodes look like (`Device.leafInPlace`).  A visit that works
on such slices answers what a visit on nodes does, so a survey finds no device but those, and it finds them without
reaching past the bytes that firmware gave (`RawDevice.leaves_in_place`).
-/
namespace DriveMap

/-- The stored place is where the leaf is, and the leaf's bytes are `piece`: the slices there and the walk over the
nodes come to the same. -/
structure RawDevice.LeafInPlace (d : RawDevice) (piece : Bytes) : Prop where
  isNode : IsNode piece
  found : d.path.leafOffset = .ok d.leafOffset
  room : d.leafOffset + Header.size ≤ d.path.bytes.length - Header.size
  leaf : d.leaf = .ok piece
  leaf_of_path : d.path.leaf = .ok piece
  /-- The leaf is all there is between its place and the end-entire node. -/
  covers : ∃ before, d.path.bytes = before ++ (piece ++ DevicePath.terminator) ∧ before.length = d.leafOffset
  leafPath : ∃ tail : RawPath, d.leafPath = .ok tail ∧ d.path.suffix d.leafOffset = .ok tail ∧
    RawPath.ofBytes tail.bytes = .ok tail ∧ tail.pieces = .ok [piece] ∧ tail.leaf = .ok piece

namespace DevicePath

variable {p : DevicePath}

theorem pieces_raw_eq_nil_iff : p.raw.pieces = .ok [] ↔ p.nodes = [] := by
  rw [pieces_raw, Except.ok.injEq, List.map_eq_nil_iff]

theorem leafOffset?_eq_none_iff : p.leafOffset? = none ↔ p.nodes = [] := by
  rw [leafOffset?, List.getLast?_eq_none_iff, ← List.length_eq_zero_iff, offsets, length_offsetsFrom,
    List.length_eq_zero_iff]

/-- **The length alone tells that a path is empty.** -/
theorem isEmpty_raw_iff : p.raw.isEmpty = true ↔ p.nodes = [] := by
  rw [← leafOffset?_eq_none_iff, ← size_eq_header_iff, RawPath.isEmpty, beq_iff_eq, raw, length_bytes]

end DevicePath

/-! ## One device -/

namespace Device

variable {α : Type} {p : DevicePath} {h : Handle} {m : Medium} {io : α}

theorem new?_eq_none_iff : new? h p m io = none ↔ p.nodes = [] := by
  rw [← DevicePath.leafOffset?_eq_none_iff]
  cases ho : p.leafOffset? with
  | none =>
    unfold new?
    split <;> simp_all
  | some o => simp [new?_eq_some ho]

theorem path_of_new? {d : Device α} (hd : new? h p m io = some d) : d.path = p := by
  unfold new? at hd
  split at hd
  · cases hd
  · cases hd
    rfl

theorem ofPath_raw_path (d : Device α) : RawDevice.ofPath d.path.raw = .ok d.raw := by
  rw [RawDevice.ofPath, DevicePath.leafOffset_raw, d.leaf_at]
  rfl

/-- The leaf's path is what is left of the path behind the nodes before the leaf. -/
theorem isTailAt_leafPath (d : Device α) : d.path.IsTailAt d.leafOffset d.leafPath :=
  ⟨d.path.nodes.dropLast, d.dropLast_append_leaf.symm, (DevicePath.leafOffset?_eq d.leaf_at).symm⟩

theorem room_of_leaf (d : Device α) : d.leafOffset + Header.size ≤ d.path.bytes.length - Header.size := by
  have hend : Node.endEntire.bytes.length = Header.size := rfl
  have hleaf : Header.size ≤ d.leaf.bytes.length := by
    rw [d.leaf.length_bytes]
    exact Nat.le_add_right _ _
  rw [d.bytes_eq, List.length_append, List.length_append, d.length_before]
  omega

/-- **A device's leaf is where its place says.** -/
theorem leafInPlace (d : Device α) : d.raw.LeafInPlace d.leaf.bytes where
  isNode := d.leaf.isNode_bytes
  found := by
    change d.path.raw.leafOffset = .ok d.leafOffset
    rw [DevicePath.leafOffset_raw, d.leaf_at]
    rfl
  room := d.room_of_leaf
  leaf := d.leaf_raw
  leaf_of_path := by
    change d.path.raw.leaf = .ok d.leaf.bytes
    rw [DevicePath.leaf_raw, d.leaf?_path]
    rfl
  covers := ⟨_, d.bytes_eq, d.length_before⟩
  leafPath := by
    refine ⟨d.leafPath.raw, d.leafPath_raw, DevicePath.suffix_raw_eq_ok.2 ⟨_, d.isTailAt_leafPath, rfl⟩,
      d.leafPath.sound_raw.reads, d.leafPath.pieces_raw, ?_⟩
    rw [DevicePath.leaf_raw]
    rfl

end Device

namespace RawDevice

variable {p : DevicePath} {d : RawDevice} {stop : Stop}

theorem ofPath_of_nil (h : p.nodes = []) : ofPath p.raw = .error .absent := by
  rw [ofPath, DevicePath.leafOffset_raw, DevicePath.leafOffset?_eq_none_iff.2 h]
  rfl

/-- Nothing but that there is no node keeps a path from making a device. -/
theorem of_ofPath_error (h : ofPath p.raw = .error stop) : stop = .absent ∧ p.nodes = [] := by
  by_cases hnil : p.nodes = []
  · cases (ofPath_of_nil hnil).symm.trans h
    exact ⟨rfl, hnil⟩
  · obtain ⟨o, ho⟩ := Option.ne_none_iff_exists'.1 (mt DevicePath.leafOffset?_eq_none_iff.1 hnil)
    rw [ofPath, DevicePath.leafOffset_raw, ho] at h
    cases h

theorem ofPath_eq_absent_iff : ofPath p.raw = .error .absent ↔ p.nodes = [] :=
  ⟨fun h => (of_ofPath_error h).2, ofPath_of_nil⟩

theorem leafInPlace_of_ofPath (hd : ofPath p.raw = .ok d) : d.path = p.raw ∧ ∃ piece, d.LeafInPlace piece := by
  obtain ⟨e, rfl, rfl⟩ := DevicePath.exists_device hd
  exact ⟨rfl, _, e.leafInPlace⟩

end RawDevice

/-! ## Surveys -/

namespace Firmware

variable {α : Type} {fw : Firmware α} {s : Survey α} {d : Device α}

/-- **A visit on bytes is the visit on nodes**: it says the same, and the device that it finds is kept as its bytes. -/
theorem visitRaw_eq (fw : Firmware α) (h : Handle) :
    fw.visitRaw h = .ok ((fw.visit h).1, (fw.visit h).2.map Device.raw) := by
  unfold visitRaw visit
  cases fw.pathBytes? h with
  | none => rfl
  | some bs =>
    simp only [DevicePath.ofBytes_raw]
    cases DevicePath.ofBytes bs with
    | error fault => rfl
    | ok p =>
      have hempty : p.raw.isEmpty = true ↔ p.size = Header.size := by
        rw [DevicePath.isEmpty_raw_iff, DevicePath.size_eq_header_iff, DevicePath.leafOffset?_eq_none_iff]
      simp only [Attempt.ofPathError, Except.mapError, Except.map, hempty]
      by_cases hsize : p.size = Header.size
      · simp only [if_pos hsize]
        rfl
      simp only [if_neg hsize]
      cases fw.medium? h with
      | none => rfl
      | some medium =>
        cases fw.io? h with
        | none => rfl
        | some io =>
          simp only [Device.ofPath_raw h p medium io]
          cases Device.new? h p medium io with
          | none => rfl
          | some d =>
            simp only [Attempt.ofOption, Except.map, d.leaf_raw, bind, Except.bind, DevicePath.typeOf?_bytes]
            rfl

theorem visitAllRaw_eq (fw : Firmware α) : ∀ handles : List Handle,
    fw.visitAllRaw handles = .ok ((fw.visitAll handles).1, (fw.visitAll handles).2.map Device.raw)
  | [] => rfl
  | h :: rest => by
    rw [visitAllRaw, visitRaw_eq, visitAllRaw_eq fw rest, visitAll]
    simp only [bind, Except.bind, pure, Except.pure, List.map_append]
    cases (fw.visit h).2 <;> rfl

theorem surveyRaw_eq (fw : Firmware α) :
    fw.surveyRaw = fw.survey.map fun s => .ok (s.log, s.devices.map Device.raw) := by
  unfold surveyRaw
  cases hl : fw.locate .diskIo with
  | error failure =>
    rw [survey, hl]
    rfl
  | ok handles =>
    obtain ⟨s, hs, hvisits⟩ := survey_eq_visitAll hl
    rw [hs]
    simp only [Except.map, visitAllRaw_eq, hvisits]

/-- A device that a survey finds is made of what firmware says is the path of its handle. -/
theorem reads_of_mem_devices (hs : fw.survey = .ok s) (hd : d ∈ s.devices) :
    ∃ bs, fw.pathBytes? d.handle = some bs ∧ RawPath.ofBytes bs = .ok d.raw.path := by
  obtain ⟨-, bs, hbs, hpath⟩ := examine_eq_ok (examine_of_mem_devices hs hd)
  refine ⟨bs, hbs, ?_⟩
  rw [DevicePath.ofBytes_raw, hpath]
  rfl

end Firmware

namespace RawDevice

variable {α : Type}

/-- **The place of the leaf is always right.**  A path makes a device unless it has no node, which its length tells; and
what is sliced out of the device's bytes at the stored place is the leaf that a walk over them finds, and the tail that
is that leaf alone.  So it is with every device that a survey finds, and nothing on the way to it reaches past the
bytes. -/
theorem leaves_in_place :
    (∀ p : DevicePath,
      (ofPath p.raw = .error .absent ↔ p.raw.pieces = .ok []) ∧
      (p.raw.isEmpty = true ↔ p.raw.pieces = .ok []) ∧
      (∀ stop, ofPath p.raw = .error stop → stop = .absent) ∧
      (∀ d, ofPath p.raw = .ok d → d.path = p.raw ∧ ∃ piece, d.LeafInPlace piece)) ∧
    (∀ (h : Handle) (p : DevicePath) (m : Medium) (io : α),
      (Device.new? h p m io = none ↔ p.raw.isEmpty = true) ∧
      ∀ d, Device.new? h p m io = some d → d.path = p ∧ ofPath p.raw = .ok d.raw ∧ d.raw.LeafInPlace d.leaf.bytes ∧
        p.leaf? = some d.leaf ∧ p.suffix? d.leafOffset = some d.leafPath ∧ d.leafPath.nodes = [d.leaf]) ∧
    ∀ fw : Firmware α, fw.surveyRaw = (fw.survey.map fun s => .ok (s.log, s.devices.map Device.raw)) ∧
      ∀ s, fw.survey = .ok s → ∀ d ∈ s.devices,
        ∃ bs r, fw.pathBytes? d.handle = some bs ∧ RawPath.ofBytes bs = .ok r ∧ ofPath r = .ok d.raw ∧
          d.raw.LeafInPlace d.leaf.bytes := by
  refine ⟨fun p => ⟨?_, ?_, fun stop hstop => (of_ofPath_error hstop).1, fun d => leafInPlace_of_ofPath⟩,
    fun h p m io => ⟨?_, fun d hd => ?_⟩, fun fw => ⟨fw.surveyRaw_eq, fun s hs d hd => ?_⟩⟩
  · rw [ofPath_eq_absent_iff, DevicePath.pieces_raw_eq_nil_iff]
  · rw [DevicePath.isEmpty_raw_iff, DevicePath.pieces_raw_eq_nil_iff]
  · rw [Device.new?_eq_none_iff, DevicePath.isEmpty_raw_iff]
  · obtain rfl := Device.path_of_new? hd
    exact ⟨rfl, d.ofPath_raw_path, d.leafInPlace, d.leaf?_path, DevicePath.suffix?_eq_some_iff.2 d.isTailAt_leafPath, rfl⟩
  · obtain ⟨bs, hbs, hread⟩ := Firmware.reads_of_mem_devices hs hd
    exact ⟨bs, _, hbs, hread, d.ofPath_raw_path, d.leafInPlace⟩

/-- A leaf whose payload looks like the end of a path. -/
example :
    let p : DevicePath := ⟨[⟨.pci, [0, 1], by decide⟩, ⟨.acpi, [0x7f, 0xff, 4, 0], by decide⟩], by decide⟩
    p.leafOffset? = some 6 ∧ leaf ⟨p.raw, 6⟩ = .ok [2, 1, 8, 0, 0x7f, 0xff, 4, 0] := by decide

end RawDevice
end DriveMap
