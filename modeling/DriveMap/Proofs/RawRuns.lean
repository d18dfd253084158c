import DriveMap.Proofs.RawPaths
/-!
# What is made of a path is a path

Bytes are checked once, when they are read as a path.  All that is made of them is made without a check: copies, tails,
cuts, the paths of devices and of their leaves.  Bytes that may be used so are `RawPath.Sound`; they are exactly the
bytes of paths (`RawPath.sound_iff`), every operation keeps them so (`RawPath.Sound.apply`), and so does every chain of
operations (`RawPath.run_sound`).
-/
namespace DriveMap

/-! ## Scans that have no way out of range -/

namespace DevicePath

namespace Scan

/-- Where a scan comes to, step after step, past its end as well. -/
inductive Reaches (s : Scan) : Scan → Prop
  | refl : Reaches s s
  | node {t next : Scan} {found : Bytes} : Reaches s t → t.step = .node found next → Reaches s next
  | finished {t next : Scan} : Reaches s t → t.step = .finished next → Reaches s next

/-- **A scan that has ended stays so**, whatever bytes it is on. -/
theorem step_of_finished {s next : Scan} (h : s.step = .finished next) : next.step = .finished next := by
  have hstep := h
  unfold step at h
  split at h
  · cases h
  simp only at h
  split at h
  · cases h
    exact hstep
  split at h
  · cases h
  split at h
  · cases h
  split at h
  · cases h
  · cases h
    exact step_spent _ _

/-- A scan of a path that stands where a node of it starts, or behind everything. -/
inductive OnPath (p : DevicePath) (withEnd : Bool) : Scan → Prop
  | atNode (before after : List Node) (h : p.allNodes = before ++ after) :
    OnPath p withEnd ⟨p.bytes, (before.flatMap Node.bytes).length, withEnd⟩

variable {p : DevicePath} {withEnd : Bool} {s : Scan}

theorem onPath_scan : OnPath p withEnd (p.scan withEnd) := .atNode [] p.allNodes rfl

theorem onPath_spent : OnPath p withEnd ⟨p.bytes, p.bytes.length, withEnd⟩ :=
  .atNode p.allNodes [] (List.append_nil _).symm

/-- A step that stays on a path: it hands out a node of the path whole, or ends. -/
def Step.StaysOn (p : DevicePath) (withEnd : Bool) : Step → Prop
  | .node found next => (∃ n ∈ p.allNodes, found = n.bytes) ∧ OnPath p withEnd next
  | .finished next => OnPath p withEnd next
  | .outOfRange => False

/-- **A scan of a path stays on it**, one step after another. -/
theorem OnPath.step (h : OnPath p withEnd s) : s.step.StaysOn p withEnd := by
  obtain ⟨before, after, hnodes⟩ := h
  cases after with
  | nil =>
    rw [List.append_nil] at hnodes
    rw [← hnodes]
    have hstep := step_spent p.bytes withEnd
    change (step ⟨p.bytes, p.bytes.length, withEnd⟩).StaysOn p withEnd
    rw [hstep]
    exact onPath_spent
  | cons n after =>
    have hbs : p.bytes = before.flatMap Node.bytes ++ (n.bytes ++ after.flatMap Node.bytes) := by
      rw [DevicePath.bytes, hnodes, List.flatMap_append, List.flatMap_cons]
    have hn : n ∈ p.allNodes := by simp [hnodes]
    rw [step_at hbs]
    split
    · -- the next node starts behind this one
      have hnext : OnPath p withEnd _ := .atNode (before ++ [n]) after (by rw [hnodes, List.append_cons])
      rw [List.flatMap_append, List.length_append, List.flatMap_singleton, n.length_bytes] at hnext
      exact ⟨⟨n, hn, rfl⟩, hnext⟩
    split
    · exact ⟨⟨n, hn, rfl⟩, onPath_spent⟩
    · exact onPath_spent

theorem Reaches.onPath (h : (p.scan withEnd).Reaches s) : OnPath p withEnd s := by
  induction h with
  | refl => exact onPath_scan
  | node _ hstep ih =>
    have hstays := ih.step
    rw [hstep] at hstays
    exact hstays.2
  | finished _ hstep ih =>
    have hstays := ih.step
    rw [hstep] at hstays
    exact hstays

end Scan

theorem collect_all_eq (p : DevicePath) : (p.raw.scan true).collect =
    .ok (p.offsets.zip (p.nodes.map Node.bytes) ++ [(p.bytes.length - Header.size, terminator)]) := by
  have hend : p.bytes.length - Header.size = Node.totalSize p.nodes := by
    rw [length_bytes, size_eq, Nat.add_sub_cancel]
  rw [collect_all, allOffsets_eq_append, allNodes, List.map_append, List.zip_append p.length_offsets, hend]
  rfl

end DevicePath

/-! ## Sound bytes -/

/-- Bytes that are one node: a header at least, which gives as the node's length how many bytes there are. -/
def IsNode (piece : Bytes) : Prop :=
  Header.size ≤ piece.length ∧ ∃ h, Header.read? piece = some h ∧ h.length.toNat = piece.length

theorem Node.isNode_bytes (n : Node) : IsNode n.bytes := by
  have hread := n.read?_bytes_append []
  rw [List.append_nil] at hread
  exact ⟨Header.size_le_of_read? hread, n.header, hread, n.header_length_toNat⟩

namespace RawPath

/-- Bytes that may be used as a path without another look at them. -/
structure Sound (r : RawPath) : Prop where
  /-- Read again they are a path, to their last byte. -/
  reads : ofBytes r.bytes = .ok r
  in_range : ∀ {withEnd s}, (r.scan withEnd).Reaches s → s.step ≠ .outOfRange
  isNode : ∀ {withEnd s found next}, (r.scan withEnd).Reaches s → s.step = .node found next → IsNode found
  stays_ended : ∀ {withEnd s next}, (r.scan withEnd).Reaches s → s.step = .finished next → next.step = .finished next
  /-- Both scans end, and the end node is all that tells them apart. -/
  ends : ∃ found, (r.scan false).collect = .ok found ∧
    (r.scan true).collect = .ok (found ++ [(r.bytes.length - Header.size, DevicePath.terminator)])
  leaf : r.leaf = .error .absent ∨ ∃ piece, r.leaf = .ok piece ∧ IsNode piece
  deviceLeaf : ∀ {d}, RawDevice.ofPath r = .ok d → ∃ piece, d.leaf = .ok piece ∧ r.leaf = .ok piece ∧ IsNode piece

end RawPath

namespace DevicePath

theorem ofBytes_bytes (p : DevicePath) : ofBytes p.bytes = .ok p :=
  ofBytes_eq_ok.2 ⟨[], (List.append_nil _).symm⟩

/-- A device of a path, whatever else is known of it. -/
theorem exists_device {p : DevicePath} {d : RawDevice} (h : RawDevice.ofPath p.raw = .ok d) :
    ∃ e : Device Unit, e.path = p ∧ e.raw = d := by
  rw [RawDevice.ofPath, leafOffset_raw] at h
  cases ho : p.leafOffset? with
  | none =>
    rw [ho] at h
    cases h
  | some o =>
    rw [ho] at h
    cases h
    exact ⟨⟨⟨1, by decide⟩, p, o, ho, ⟨0, false, 0, 0⟩, ()⟩, rfl, rfl⟩

theorem sound_raw (p : DevicePath) : p.raw.Sound where
  reads := by
    have hread := ofBytes_raw p.bytes
    rw [ofBytes_bytes] at hread
    exact hread
  in_range := by
    intro withEnd s hs hstep
    have hstays := (Scan.Reaches.onPath hs).step
    rw [hstep] at hstays
    exact hstays
  isNode := by
    intro withEnd s found next hs hstep
    have hstays := (Scan.Reaches.onPath hs).step
    rw [hstep] at hstays
    obtain ⟨n, -, rfl⟩ := hstays.1
    exact n.isNode_bytes
  stays_ended := by
    intro withEnd s next _ hstep
    exact Scan.step_of_finished hstep
  ends := ⟨_, p.collect_inner, p.collect_all_eq⟩
  leaf := by
    rw [leaf_raw]
    cases p.leaf? with
    | none => exact .inl rfl
    | some n => exact .inr ⟨n.bytes, rfl, n.isNode_bytes⟩
  deviceLeaf := by
    intro d hd
    obtain ⟨e, rfl, rfl⟩ := exists_device hd
    rw [e.leaf_raw, leaf_raw, e.leaf?_path]
    exact ⟨_, rfl, rfl, e.leaf.isNode_bytes⟩

end DevicePath

namespace RawPath

variable {r : RawPath}

/-- **Sound bytes are the bytes of paths.** -/
theorem sound_iff : r.Sound ↔ ∃ p : DevicePath, r = p.raw := by
  constructor
  · intro h
    have hread := h.reads
    rw [DevicePath.ofBytes_raw] at hread
    cases hp : DevicePath.ofBytes r.bytes with
    | error fault =>
      rw [hp] at hread
      cases hread
    | ok p =>
      rw [hp] at hread
      exact ⟨p, (Except.ok.inj hread).symm⟩
  · rintro ⟨p, rfl⟩
    exact p.sound_raw

/-! ## Operations -/

/-- What may be done to a path to get another one. -/
inductive Operation where
  | duplicate
  | suffix (offset : Nat)
  | truncateLeaf
  | truncateAt (t : NodeType)
  /-- A builder that begins with the nodes of the path, has more pushed, and is finished. -/
  | extend (specs : List Node.Spec)
  /-- The path of a device that is made with the path. -/
  | ofDevice (handle : Handle) (medium : Medium)
  /-- The path of the leaf of that device. -/
  | ofDeviceLeaf (handle : Handle) (medium : Medium)

/-- How a path is come by at first. -/
inductive Origin where
  | read (bs : Bytes)
  | build (specs : List Node.Spec)

def Operation.onBytes (r : RawPath) : Operation → Attempt RawPath
  | duplicate => .ok ⟨r.bytes⟩
  | suffix offset => r.suffix offset
  | truncateLeaf => r.truncateLeaf
  | truncateAt t => r.truncateAt t
  | extend specs => r.extend specs
  | ofDevice _ _ => do return (← RawDevice.ofPath r).path
  | ofDeviceLeaf _ _ => do (← RawDevice.ofPath r).leafPath

/-- The same on nodes. -/
def Operation.onPath (p : DevicePath) : Operation → Attempt DevicePath
  | duplicate => .ok p
  | suffix offset => .ofOption (p.suffix? offset)
  | truncateLeaf => .ofOption p.truncateLeaf?
  | truncateAt t => .ok (p.truncateAt t)
  | extend specs => .ofPathError ((((Builder.ofPath p).pushAll specs).mapError Prod.snd).map Builder.finalize)
  | ofDevice handle medium => (Attempt.ofOption (Device.new? handle p medium ())).map Device.path
  | ofDeviceLeaf handle medium => (Attempt.ofOption (Device.new? handle p medium ())).map Device.leafPath

def Origin.bytes : Origin → Attempt RawPath
  | read bs => ofBytes bs
  | build specs => RawBuilder.empty.pushAll specs >>= RawBuilder.finalize

def Origin.path : Origin → Attempt DevicePath
  | read bs => .ofPathError (DevicePath.ofBytes bs)
  | build specs => .ofPathError (((Builder.empty.pushAll specs).mapError Prod.snd).map Builder.finalize)

/-- What a chain of operations makes, on bytes. -/
def run (origin : Origin) (operations : List Operation) : Attempt RawPath := do
  operations.foldlM Operation.onBytes (← origin.bytes)

def runOnPaths (origin : Origin) (operations : List Operation) : Attempt DevicePath := do
  operations.foldlM Operation.onPath (← origin.path)

theorem Origin.bytes_eq (origin : Origin) : origin.bytes = origin.path.map DevicePath.raw := by
  cases origin with
  | read bs => exact DevicePath.ofBytes_raw bs
  | build specs =>
    have hraw := Builder.empty.finish_raw specs
    rw [Origin.bytes, Origin.path]
    exact hraw.trans (by cases Builder.empty.pushAll specs <;> rfl)

/-- **One operation on bytes is the operation on the path.** -/
theorem Operation.onBytes_raw (op : Operation) (p : DevicePath) :
    op.onBytes p.raw = (op.onPath p).map DevicePath.raw := by
  cases op with
  | duplicate => rfl
  | suffix offset => exact p.suffix_raw offset
  | truncateLeaf => exact p.truncateLeaf_raw
  | truncateAt t => exact p.truncateAt_raw t
  | extend specs =>
    refine (p.extend_raw specs).trans ?_
    rw [onPath]
    cases (Builder.ofPath p).pushAll specs <;> rfl
  | ofDevice handle medium =>
    rw [onBytes, onPath, Device.ofPath_raw handle p medium ()]
    cases Device.new? handle p medium () <;> rfl
  | ofDeviceLeaf handle medium =>
    rw [onBytes, onPath, Device.ofPath_raw handle p medium ()]
    cases Device.new? handle p medium () with
    | none => rfl
    | some d => exact d.leafPath_raw

/-! ## Attempts that are in range -/

/-- An attempt at a path is not out of range, and what it answers is sound. -/
structure MakesSound (x : Attempt RawPath) : Prop where
  in_range : x ≠ .error .outOfRange
  sound : ∀ {r}, x = .ok r → r.Sound

theorem Sound.makes (h : r.Sound) : MakesSound (.ok r) := by
  refine ⟨nofun, ?_⟩
  intro r' hr'
  cases hr'
  exact h

theorem MakesSound.bind {x : Attempt RawPath} {f : RawPath → Attempt RawPath} (hx : MakesSound x)
    (hf : ∀ r, r.Sound → MakesSound (f r)) : MakesSound (x >>= f) := by
  cases x with
  | error stop => exact ⟨hx.in_range, nofun⟩
  | ok r => exact hf r (hx.sound rfl)

/-- What is made on nodes without reaching past anything. -/
theorem makesSound_map {x : Attempt DevicePath} (h : x ≠ .error .outOfRange) : MakesSound (x.map DevicePath.raw) := by
  cases x with
  | ok p => exact p.sound_raw.makes
  | error stop =>
    refine ⟨fun hstop => ?_, nofun⟩
    cases hstop
    exact h rfl

theorem ne_outOfRange_ofOption {α : Type} (x : Option α) : Attempt.ofOption x ≠ .error .outOfRange := by
  cases x <;> exact nofun

theorem ne_outOfRange_ofPathError {α : Type} (x : Except PathError α) : Attempt.ofPathError x ≠ .error .outOfRange := by
  cases x <;> exact nofun

theorem Operation.onPath_ne_outOfRange (op : Operation) (p : DevicePath) : op.onPath p ≠ .error .outOfRange := by
  cases op with
  | duplicate => exact nofun
  | suffix offset => exact ne_outOfRange_ofOption _
  | truncateLeaf => exact ne_outOfRange_ofOption _
  | truncateAt t => exact nofun
  | extend specs => exact ne_outOfRange_ofPathError _
  | ofDevice handle medium =>
    rw [onPath]
    cases Device.new? handle p medium () <;> exact nofun
  | ofDeviceLeaf handle medium =>
    rw [onPath]
    cases Device.new? handle p medium () <;> exact nofun

theorem Origin.path_ne_outOfRange (origin : Origin) : origin.path ≠ .error .outOfRange := by
  cases origin with
  | read bs => exact ne_outOfRange_ofPathError _
  | build specs => exact ne_outOfRange_ofPathError _

/-! ## Chains -/

/-- **An operation on sound bytes is in range and leaves sound bytes**, if it leaves any. -/
theorem Sound.apply (h : r.Sound) (op : Operation) : MakesSound (op.onBytes r) := by
  obtain ⟨p, rfl⟩ := sound_iff.1 h
  rw [op.onBytes_raw]
  exact makesSound_map (op.onPath_ne_outOfRange p)

theorem Sound.applyAll : ∀ (operations : List Operation) {r : RawPath}, r.Sound →
    MakesSound (operations.foldlM Operation.onBytes r)
  | [], _, h => h.makes
  | op :: rest, _, h => (h.apply op).bind fun _ h => h.applyAll rest

theorem Origin.makesSound (origin : Origin) : MakesSound origin.bytes := by
  rw [origin.bytes_eq]
  exact makesSound_map origin.path_ne_outOfRange

theorem foldlM_raw : ∀ (operations : List Operation) (p : DevicePath),
    operations.foldlM Operation.onBytes p.raw = (operations.foldlM Operation.onPath p).map DevicePath.raw
  | [], _ => rfl
  | op :: rest, p => by
    rw [List.foldlM_cons, List.foldlM_cons, op.onBytes_raw]
    cases op.onPath p with
    | error stop => rfl
    | ok q => exact foldlM_raw rest q

theorem run_eq (origin : Origin) (operations : List Operation) :
    run origin operations = (runOnPaths origin operations).map DevicePath.raw := by
  rw [run, runOnPaths, origin.bytes_eq]
  cases origin.path with
  | error stop => rfl
  | ok p => exact foldlM_raw operations p

/-- **Whatever is made of a path is a path.**  However a path is come by and whatever is then done to it, one operation
after another, no operation is out of range and the outcome is sound bytes: those that the same operations make of the
nodes. -/
theorem run_sound (origin : Origin) (operations : List Operation) :
    run origin operations ≠ .error .outOfRange ∧
    (∀ r, run origin operations = .ok r → r.Sound) ∧
    run origin operations = (runOnPaths origin operations).map DevicePath.raw := by
  have hrun : MakesSound (run origin operations) := origin.makesSound.bind fun _ h => h.applyAll operations
  refine ⟨hrun.in_range, ?_, run_eq origin operations⟩
  intro r hr
  exact hrun.sound hr

end RawPath
end DriveMap
