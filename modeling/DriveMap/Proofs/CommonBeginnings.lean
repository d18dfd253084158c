import DriveMap.Proofs.PathOrder
import DriveMap.Proofs.RawRuns
/-!
# Paths that begin alike

Paths are compared in step, so what they begin with alike does not count, and neither does what comes behind the first
nodes that differ (`DevicePath.compare_of_firstDifference`).  Any two paths have such nodes, the end-entire node being
one of them if one path goes on from the other.  Children of one device differ in their leaves alone: by those they are
ordered, as paths and as devices.

The comparison that goes along two strings of bytes and stops at the end-entire nodes comes to the same
(`DevicePath.order_raw`).
-/
namespace DriveMap

open Std (LawfulEqOrd)

/-! ## Comparing bytes -/

namespace Node

variable {a b : Node}

theorem compare_eq_then (a b : Node) : compare a b =
    ((compare a.nodeType.category b.nodeType.category).then (compare a.nodeType.subtype b.nodeType.subtype)).then
      ((compare a.length b.length).then (compare a.bytes b.bytes)) := by
  rw [Ordering.then_assoc]
  rfl

theorem orderInStep_of_ne {as bs : List Node} (h : compare a b ≠ .eq) :
    orderInStep (a :: as) (b :: bs) = compare a b := by
  rw [orderInStep]
  cases hab : compare a b <;> simp_all

theorem lengthOf?_bytes (n : Node) : RawPath.lengthOf? n.bytes = some n.length := by
  have hread := n.read?_bytes_append []
  rw [List.append_nil] at hread
  rw [RawPath.lengthOf?, hread]
  rfl

theorem orderPieces_bytes (a b : Node) : RawPath.orderPieces a.bytes b.bytes = .ok (compare a b) := by
  rw [RawPath.orderPieces, DevicePath.typeOf?_bytes, DevicePath.typeOf?_bytes, lengthOf?_bytes, lengthOf?_bytes,
    compare_eq_then]
  simp only [Attempt.inRange, bind, Except.bind, pure, Except.pure]
  cases (compare a.nodeType.category b.nodeType.category).then (compare a.nodeType.subtype b.nodeType.subtype) <;> rfl

end Node

namespace DevicePath

namespace Scan

variable {bs before after : Bytes} {n : Node}

theorem step_inner (h : bs = before ++ (n.bytes ++ after)) (hn : n.isEndEntire = false) :
    step ⟨bs, before.length, true⟩ = .node n.bytes ⟨bs, (before ++ n.bytes).length, true⟩ := by
  rw [step_at h, if_pos (beq_eq_false_iff_ne.1 hn), List.length_append, n.length_bytes]

theorem step_end (h : bs = before ++ (Node.endEntire.bytes ++ after)) :
    step ⟨bs, before.length, true⟩ = .node Node.endEntire.bytes ⟨bs, bs.length, true⟩ := by
  rw [step_at h]
  rfl

theorem order_of_nodes {s s' t t' : Scan} {a b : Node} (hs : s.step = .node a.bytes s')
    (ht : t.step = .node b.bytes t') : s.order t =
      if compare a b = .eq ∧ a.nodeType ≠ .endEntire then s'.order t' else .ok (compare a b) := by
  rw [order]
  split
  · simp_all
  · simp_all
  rename_i found next h
  obtain ⟨rfl, rfl⟩ : found = a.bytes ∧ next = s' := by simpa [hs] using h.symm
  simp only [ht, Node.orderPieces_bytes, typeOf?_bytes, Option.some.injEq]
  by_cases hend : a.nodeType = .endEntire <;> cases compare a b <;> simp [hend]

/-- **Two scans that stand where the last nodes of a path start compare those.** -/
theorem order_at : ∀ {as cs : List Node}, (∀ n ∈ as, n.isEndEntire = false) → (∀ n ∈ cs, n.isEndEntire = false) →
    ∀ {bs bs' before before' : Bytes}, bs = before ++ (as ++ [Node.endEntire]).flatMap Node.bytes →
      bs' = before' ++ (cs ++ [Node.endEntire]).flatMap Node.bytes →
      order ⟨bs, before.length, true⟩ ⟨bs', before'.length, true⟩ =
        .ok (Node.orderInStep (as ++ [Node.endEntire]) (cs ++ [Node.endEntire]))
  | [], [], _, _, _, _, _, _, h, h' => by
    rw [order_of_nodes (step_end h) (step_end h'), if_neg fun hc => hc.2 rfl, Std.ReflOrd.compare_self]
    rfl
  | [], c :: cs, _, hc, _, _, _, _, h, h' => by
    have hn := hc c List.mem_cons_self
    have hne : compare Node.endEntire c ≠ .eq := fun heq => Node.ne_endEntire hn (LawfulEqOrd.eq_of_compare heq).symm
    rw [order_of_nodes (step_end h) (step_inner h' hn), if_neg fun hc => hne hc.1]
    exact congrArg Except.ok (Node.orderInStep_of_ne hne).symm
  | a :: as, [], ha, _, _, _, _, _, h, h' => by
    have hn := ha a List.mem_cons_self
    have hne : compare a Node.endEntire ≠ .eq := fun heq => Node.ne_endEntire hn (LawfulEqOrd.eq_of_compare heq)
    rw [order_of_nodes (step_inner h hn) (step_end h'), if_neg fun hc => hne hc.1]
    exact congrArg Except.ok (Node.orderInStep_of_ne hne).symm
  | a :: as, c :: cs, ha, hc, _, _, _, _, h, h' => by
    obtain ⟨hna, has⟩ := List.forall_mem_cons.1 ha
    obtain ⟨hnc, hcs⟩ := List.forall_mem_cons.1 hc
    rw [order_of_nodes (step_inner h hna) (step_inner h' hnc)]
    by_cases heq : compare a c = .eq
    · -- the two scans go on behind these nodes
      have hrest := order_at has hcs (h.trans (List.append_assoc ..).symm) (h'.trans (List.append_assoc ..).symm)
      rw [if_pos ⟨heq, beq_eq_false_iff_ne.1 hna⟩, hrest, List.cons_append, List.cons_append, Node.orderInStep, heq]
      rfl
    · rw [if_neg fun hc => heq hc.1]
      exact congrArg Except.ok (Node.orderInStep_of_ne heq).symm

end Scan

/-- **The comparison of bytes is that of nodes**, and nothing is out of range for it. -/
theorem order_raw (p q : DevicePath) : p.raw.order q.raw = .ok (compare p q) :=
  Scan.order_at p.noEnd q.noEnd (List.nil_append _).symm (List.nil_append _).symm

end DevicePath

/-! ## The first difference -/

namespace DevicePath

/-- The nodes of a path in front of those of another. -/
def append (front p : DevicePath) : DevicePath :=
  ⟨front.nodes ++ p.nodes, List.forall_mem_append.2 ⟨front.noEnd, p.noEnd⟩⟩

/-- The first nodes that differ, the end-entire nodes included, are `x` and `y`. -/
def FirstDifference (p q : DevicePath) (x y : Node) : Prop :=
  x ≠ y ∧ ∃ common rest rest', p.allNodes = common ++ x :: rest ∧ q.allNodes = common ++ y :: rest'

variable {p q : DevicePath} {x y : Node}

theorem allNodes_append (front p : DevicePath) : (front.append p).allNodes = front.nodes ++ p.allNodes :=
  List.append_assoc ..

theorem bytes_append (front p : DevicePath) : (front.append p).bytes = front.nodes.flatMap Node.bytes ++ p.bytes := by
  rw [bytes, allNodes_append, List.flatMap_append, bytes]

/-- **A common beginning cancels.** -/
theorem compare_append (front p q : DevicePath) : compare (front.append p) (front.append q) = compare p q := by
  change Node.orderInStep (front.append p).allNodes (front.append q).allNodes = _
  rw [allNodes_append, allNodes_append, Node.orderInStep_append]
  rfl

theorem compare_of_firstDifference (h : p.FirstDifference q x y) : compare p q = compare x y := by
  obtain ⟨hne, common, rest, rest', hp, hq⟩ := h
  change Node.orderInStep p.allNodes q.allNodes = _
  rw [hp, hq, Node.orderInStep_append]
  exact Node.orderInStep_of_ne fun heq => hne (LawfulEqOrd.eq_of_compare heq)

theorem FirstDifference.cons (h : p.FirstDifference q x y) {n : Node} (hn : n.isEndEntire = false) :
    (cons n p hn).FirstDifference (cons n q hn) x y := by
  obtain ⟨hne, common, rest, rest', hp, hq⟩ := h
  exact ⟨hne, n :: common, rest, rest', congrArg (n :: ·) hp, congrArg (n :: ·) hq⟩

/-- **Paths that are not the same differ somewhere first.** -/
theorem exists_firstDifference : ∀ {p q : DevicePath}, p ≠ q → ∃ x y, p.FirstDifference q x y
  | ⟨[], _⟩, ⟨[], _⟩, h => absurd rfl h
  | ⟨[], _⟩, ⟨b :: bs, hb⟩, _ => by
    have hn := hb b List.mem_cons_self
    exact ⟨Node.endEntire, b, (Node.ne_endEntire hn).symm, [], [], _, rfl, rfl⟩
  | ⟨a :: as, ha⟩, ⟨[], _⟩, _ => by
    have hn := ha a List.mem_cons_self
    exact ⟨a, Node.endEntire, Node.ne_endEntire hn, [], _, [], rfl, rfl⟩
  | ⟨a :: as, ha⟩, ⟨b :: bs, hb⟩, h => by
    by_cases hab : a = b
    · subst hab
      obtain ⟨hn, has⟩ := List.forall_mem_cons.1 ha
      have hbs := (List.forall_mem_cons.1 hb).2
      have hne : (⟨as, has⟩ : DevicePath) ≠ ⟨bs, hbs⟩ := fun heq => h (congrArg (cons a · hn) heq)
      obtain ⟨x, y, hxy⟩ := exists_firstDifference hne
      exact ⟨x, y, hxy.cons hn⟩
    · exact ⟨a, b, hab, [], _, _, rfl, rfl⟩

end DevicePath

/-! ## Children of one device -/

namespace Device

variable {α β : Type} {c d : Device β} {disk : Device α}

theorem path_eq_append (h : c.isChildOf disk = true) : c.path = disk.path.append c.leafPath :=
  DevicePath.ext_nodes (isChildOf_iff.1 h)

theorem compare_path_of_siblings (hc : c.isChildOf disk = true) (hd : d.isChildOf disk = true) :
    compare c.path d.path = compare c.leafPath d.leafPath := by
  rw [path_eq_append hc, path_eq_append hd, DevicePath.compare_append]

theorem compare_of_siblings (hc : c.isChildOf disk = true) (hd : d.isChildOf disk = true) :
    compare c d = compare c.leafPath d.leafPath := by
  change (compare c.leafPath d.leafPath).then (compare c.path d.path) = _
  rw [compare_path_of_siblings hc hd]
  cases compare c.leafPath d.leafPath <;> rfl

/-- **Comparing devices by slices of their bytes is comparing them.** -/
theorem order_raw (c d : Device β) : c.raw.order d.raw = .ok (compare c d) := by
  have hcompare : compare c d = (compare c.leafPath d.leafPath).then (compare c.path d.path) := rfl
  have hpaths : c.raw.path.order d.raw.path = .ok (compare c.path d.path) := DevicePath.order_raw _ _
  rw [RawDevice.order, leafPath_raw, leafPath_raw, hpaths, hcompare]
  simp only [bind, Except.bind, DevicePath.order_raw, pure, Except.pure]
  cases compare c.leafPath d.leafPath <;> rfl

end Device

namespace DevicePath

/-- **What two paths begin with alike does not count, and what comes behind their first difference does not either.**
On bytes as on nodes, to compare is to compare what is left of both, and in the end the first nodes that differ, which
any two paths have that are not the same.  So children of one device are ordered as their leaves are, be it by their
leaves, by their paths or as devices. -/
theorem compare_cancels :
    (∀ p q : DevicePath, p.raw.order q.raw = .ok (compare p q)) ∧
    (∀ front p q : DevicePath, compare (front.append p) (front.append q) = compare p q) ∧
    (∀ front p q : DevicePath, RawPath.order ⟨front.nodes.flatMap Node.bytes ++ p.bytes⟩
      ⟨front.nodes.flatMap Node.bytes ++ q.bytes⟩ = p.raw.order q.raw) ∧
    (∀ p q : DevicePath, p ≠ q → ∃ x y, p.FirstDifference q x y) ∧
    (∀ (p q : DevicePath) (x y : Node), p.FirstDifference q x y → compare p q = compare x y ∧ compare x y ≠ .eq) ∧
    ∀ (α β : Type) (disk : Device α) (c d : Device β), c.isChildOf disk = true → d.isChildOf disk = true →
      compare c.path d.path = compare c.leafPath d.leafPath ∧ compare c d = compare c.leafPath d.leafPath ∧
      c.raw.order d.raw = .ok (compare c.leafPath d.leafPath) := by
  refine ⟨order_raw, compare_append, fun front p q => ?_, fun p q => exists_firstDifference, fun p q x y h => ⟨?_, ?_⟩,
    fun α β disk c d hc hd => ⟨?_, ?_, ?_⟩⟩
  · rw [← bytes_append, ← bytes_append]
    change (front.append p).raw.order (front.append q).raw = p.raw.order q.raw
    rw [order_raw, order_raw, compare_append]
  · exact compare_of_firstDifference h
  · exact fun heq => h.1 (LawfulEqOrd.eq_of_compare heq)
  · exact Device.compare_path_of_siblings hc hd
  · exact Device.compare_of_siblings hc hd
  · rw [Device.order_raw, Device.compare_of_siblings hc hd]

end DevicePath
end DriveMap
