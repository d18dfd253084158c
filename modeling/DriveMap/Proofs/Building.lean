import DriveMap.DevicePath.Builder
import DriveMap.Proofs.Reading
/-!
# What is built is read back

A builder may be begun with nothing or with a path, and nodes are asked for one after another.  The first that is not
allowed stops it; if there is none, the bytes of the finished path are those that it began with, those of each node in
turn, and an end, and reading them gives the path again (`Builder.Beginning.pushAll_iff`).
-/
namespace DriveMap
namespace Node

/-- The bytes that a spec stands for: its type, its size in two bytes, and its payload. -/
def Spec.bytes (s : Spec) : Bytes :=
  s.nodeType.category.code :: s.nodeType.subtype :: LittleEndian.encode 2 (4 + s.payload.length) ++ s.payload

def Spec.Allowed (s : Spec) : Prop := s.nodeType ≠ .endEntire ∧ 4 + s.payload.length ≤ 65535

/-- Why a spec is refused.  An end is refused as such, however large it is. -/
inductive Spec.Refused (s : Spec) : PathError → Prop
  | closing : s.nodeType = .endEntire → Refused s .unexpectedEnd
  | large : s.nodeType ≠ .endEntire → 65535 < 4 + s.payload.length → Refused s .nodeTooLarge

variable {s : Spec} {n m : Node}

theorem Spec.exists_refused (h : ¬s.Allowed) : ∃ fault, s.Refused fault := by
  by_cases htype : s.nodeType = .endEntire
  · exact ⟨_, .closing htype⟩
  · refine ⟨_, .large htype (Nat.lt_of_not_le fun hsize => h ⟨htype, hsize⟩)⟩

theorem spec_inj (h : n.spec = m.spec) : n = m := ext_parts (congrArg Spec.nodeType h) (congrArg Spec.payload h)

theorem bytes_spec (n : Node) : n.spec.bytes = n.bytes := by
  have hlen : n.length.toNat = 4 + n.payload.length := n.length_toNat
  rw [bytes, header, Header.bytes, hlen]
  rfl

theorem allowed_spec (h : n.isEndEntire = false) : n.spec.Allowed :=
  ⟨beq_eq_false_iff_ne.1 h, Nat.le_of_lt_succ n.fits⟩

theorem flatMap_bytes_spec (nodes : List Node) : (nodes.map spec).flatMap Spec.bytes = nodes.flatMap bytes := by
  rw [List.flatMap_map]
  exact congrArg (fun f => nodes.flatMap f) (funext bytes_spec)

end Node

namespace Builder

open Node (Spec)

variable {b b' : Builder} {s : Spec} {specs before after : List Spec} {fault : PathError}

/-! ## Pushing -/

/-- The specs of the nodes that a builder holds. -/
def held (b : Builder) : List Spec := b.pushed.nodes.map Node.spec

theorem ext_held (h : b.held = b'.held) : b = b' := by
  have hnodes : b.pushed.nodes = b'.pushed.nodes := (List.map_inj_right fun _ _ => Node.spec_inj).1 h
  cases b
  cases b'
  exact congrArg Builder.mk (DevicePath.ext_nodes hnodes)

theorem push_of_allowed (h : s.Allowed) (b : Builder) : ∃ b', b.push s = .ok b' ∧ b'.held = b.held ++ [s] := by
  have hfits : Header.size + s.payload.length < UInt16.size := Nat.lt_succ_of_le h.2
  refine ⟨_, (dif_neg h.1).trans (dif_pos hfits), ?_⟩
  exact List.map_append

theorem push_of_refused (h : s.Refused fault) (b : Builder) : b.push s = .error fault := by
  cases h with
  | closing htype => exact dif_pos htype
  | large htype hsize => exact (dif_neg htype).trans (dif_neg (Nat.not_lt.2 (Nat.succ_le_of_lt hsize)))

theorem pushAll_of_allowed : ∀ {specs : List Spec}, (∀ s ∈ specs, s.Allowed) → ∀ b : Builder,
    ∃ b', b.pushAll specs = .ok b' ∧ b'.held = b.held ++ specs
  | [], _, b => ⟨b, rfl, (List.append_nil _).symm⟩
  | s :: rest, h, b => by
    obtain ⟨hs, hrest⟩ := List.forall_mem_cons.1 h
    obtain ⟨b₁, hpush, hheld₁⟩ := push_of_allowed hs b
    obtain ⟨b₂, hall, hheld₂⟩ := pushAll_of_allowed hrest b₁
    refine ⟨b₂, ?_, ?_⟩
    · rw [pushAll, hpush]
      simp only [hall, Except.mapError]
    · rw [hheld₂, hheld₁, List.append_assoc, List.singleton_append]

theorem pushAll_of_refused (hs : s.Refused fault) (after : List Spec) :
    ∀ {before : List Spec}, (∀ s ∈ before, s.Allowed) → ∀ b : Builder,
      b.pushAll (before ++ s :: after) = .error (before.length, fault)
  | [], _, b => by
    rw [List.nil_append, pushAll, push_of_refused hs]
    rfl
  | s' :: before, h, b => by
    obtain ⟨hs', hbefore⟩ := List.forall_mem_cons.1 h
    obtain ⟨b₁, hpush, -⟩ := push_of_allowed hs' b
    rw [List.cons_append, pushAll, hpush]
    simp only [pushAll_of_refused hs after hbefore b₁, Except.mapError, List.length_cons]

theorem exists_first_refused : ∀ {specs : List Spec}, (¬∀ s ∈ specs, s.Allowed) →
    ∃ before s after fault, specs = before ++ s :: after ∧ (∀ s ∈ before, s.Allowed) ∧ s.Refused fault
  | [], h => absurd (List.forall_mem_nil _) h
  | s :: rest, h => by
    by_cases hs : s.Allowed
    · obtain ⟨before, s', after, fault, rfl, hbefore, hs'⟩ :=
        exists_first_refused fun hrest => h (List.forall_mem_cons.2 ⟨hs, hrest⟩)
      exact ⟨s :: before, s', after, fault, rfl, List.forall_mem_cons.2 ⟨hs, hbefore⟩, hs'⟩
    · obtain ⟨fault, hfault⟩ := Spec.exists_refused hs
      exact ⟨[], s, rest, fault, rfl, List.forall_mem_nil _, hfault⟩

theorem exists_pushAll_iff (b : Builder) (specs : List Spec) :
    (∃ b', b.pushAll specs = .ok b') ↔ ∀ s ∈ specs, s.Allowed := by
  constructor
  · rintro ⟨b', hok⟩
    by_cases h : ∀ s ∈ specs, s.Allowed
    · exact h
    · obtain ⟨before, s, after, fault, rfl, hbefore, hs⟩ := exists_first_refused h
      rw [pushAll_of_refused hs after hbefore] at hok
      cases hok
  · intro h
    obtain ⟨b', hok, -⟩ := pushAll_of_allowed h b
    exact ⟨b', hok⟩

theorem held_of_pushAll (h : b.pushAll specs = .ok b') : b'.held = b.held ++ specs := by
  obtain ⟨b₁, hok, hheld⟩ := pushAll_of_allowed ((exists_pushAll_iff b specs).1 ⟨b', h⟩) b
  cases hok.symm.trans h
  exact hheld

/-- **The first spec that is refused is what pushing fails with.** -/
theorem pushAll_eq_error_iff (b : Builder) (specs : List Spec) (k : Nat) (fault : PathError) :
    b.pushAll specs = .error (k, fault) ↔ ∃ before s after, specs = before ++ s :: after ∧ before.length = k ∧
      (∀ s ∈ before, s.Allowed) ∧ s.Refused fault := by
  constructor
  · intro h
    have hnot : ¬∀ s ∈ specs, s.Allowed := by
      intro hall
      obtain ⟨b', hok⟩ := (exists_pushAll_iff b specs).2 hall
      cases hok.symm.trans h
    obtain ⟨before, s, after, fault', rfl, hbefore, hs⟩ := exists_first_refused hnot
    rw [pushAll_of_refused hs after hbefore] at h
    cases h
    exact ⟨before, s, after, rfl, rfl, hbefore, hs⟩
  · rintro ⟨before, s, after, rfl, rfl, hbefore, hs⟩
    exact pushAll_of_refused hs after hbefore b

theorem bytes_finalize (b : Builder) : b.finalize.bytes = b.held.flatMap Spec.bytes ++ [0x7f, 0xff, 4, 0] := by
  rw [held, Node.flatMap_bytes_spec]
  exact b.finalize.bytes_eq

/-! ## Beginning -/

/-- What a builder may be begun with. -/
inductive Beginning where
  | empty
  | withCapacity (capacity : Nat)
  | copyOf (p : DevicePath)

namespace Beginning

def path : Beginning → DevicePath
  | empty => .empty
  | withCapacity _ => .empty
  | copyOf p => p

def room : Beginning → Nat
  | empty => 0
  | withCapacity capacity => capacity
  | copyOf p => p.size

/-- The builder that is begun with.  A path is copied node by node. -/
def builder : Beginning → Except PathError Builder
  | empty => .ok .empty
  | withCapacity capacity => Builder.withCapacity capacity
  | copyOf p => do
    let b ← Builder.withCapacity p.size
    (b.pushAll (p.nodes.map Node.spec)).mapError Prod.snd

/-- **Copying a path never stops at a node.** -/
theorem pushAll_nodes (p : DevicePath) : Builder.empty.pushAll (p.nodes.map Node.spec) = .ok (.ofPath p) := by
  have hallowed : ∀ s ∈ p.nodes.map Node.spec, s.Allowed := by
    intro s hs
    obtain ⟨n, hn, rfl⟩ := List.mem_map.1 hs
    exact Node.allowed_spec (p.noEnd n hn)
  obtain ⟨b, hok, hheld⟩ := pushAll_of_allowed hallowed .empty
  have hb : b = .ofPath p := ext_held hheld
  rw [hok, hb]

theorem builder_eq (start : Beginning) :
    start.builder = if start.room ≤ capacityLimit then .ok (.ofPath start.path) else .error .outOfResources := by
  cases start with
  | empty => rfl
  | withCapacity capacity => rfl
  | copyOf p =>
    show (Builder.withCapacity p.size >>= fun b => (b.pushAll (p.nodes.map Node.spec)).mapError Prod.snd) =
      if p.size ≤ capacityLimit then .ok (.ofPath p) else .error .outOfResources
    unfold Builder.withCapacity
    split
    · simp only [bind, Except.bind, pushAll_nodes, Except.mapError]
    · rfl

/-- **What is pushed is what is read back.**  A builder is had of every beginning that there is memory for.  All pushes
succeed exactly if every spec is allowed; then the bytes of the finished path are read to their end, as the nodes begun
with and those pushed, in order.  If not, the first spec that is not allowed is where pushing stops. -/
theorem pushAll_iff (start : Beginning) (specs : List Spec) :
    start.builder = (if start.room ≤ capacityLimit then .ok (.ofPath start.path) else .error .outOfResources) ∧
    (Builder.ofPath start.path).finalize.bytes = start.path.bytes ∧
    ((∃ b, (Builder.ofPath start.path).pushAll specs = .ok b) ↔ ∀ s ∈ specs, s.Allowed) ∧
    (∀ b, (Builder.ofPath start.path).pushAll specs = .ok b → ∃ p, DevicePath.ofBytes b.finalize.bytes = .ok p ∧
      p.bytes = b.finalize.bytes ∧ p.nodes.map Node.spec = start.path.nodes.map Node.spec ++ specs ∧
      p.bytes = start.path.nodes.flatMap Node.bytes ++ specs.flatMap Spec.bytes ++ [0x7f, 0xff, 4, 0]) ∧
    ∀ k fault, (Builder.ofPath start.path).pushAll specs = .error (k, fault) ↔ ∃ before s after,
      specs = before ++ s :: after ∧ before.length = k ∧ (∀ s ∈ before, s.Allowed) ∧ s.Refused fault := by
  refine ⟨start.builder_eq, rfl, exists_pushAll_iff _ specs, fun b hok => ?_, pushAll_eq_error_iff _ specs⟩
  have hheld : b.held = start.path.nodes.map Node.spec ++ specs := held_of_pushAll hok
  refine ⟨b.finalize, DevicePath.ofBytes_eq_ok.2 ⟨[], (List.append_nil _).symm⟩, rfl, hheld, ?_⟩
  rw [bytes_finalize, hheld, List.flatMap_append, Node.flatMap_bytes_spec]

end Beginning
end Builder
end DriveMap
