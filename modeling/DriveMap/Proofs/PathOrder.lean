import DriveMap.DevicePath.Order
import DriveMap.Proofs.NodeBytes
/-!
# The order of paths is an order

Nodes are compared key after key, and the last key is all of their bytes, so nodes that compare equal are one node.
Paths are compared in step, and the comparison stops at the end of the shorter one: that is lexicographic order here
(`Node.orderInStep_endEntire`), since the end-entire node closes every path and stands inside none.  The laws of a total
order come with that.

A path and one that goes on from it differ first where the shorter one ends.  So it is the end-entire node that decides
between them, and it comes before the nodes of a smaller category only (`DevicePath.compare_of_nodes_eq_append`).
-/
namespace DriveMap

open Std (TransCmp LawfulEqCmp TransOrd LawfulEqOrd OrientedCmp)

instance : TransOrd Category := inferInstanceAs (TransCmp fun a b => compareOn Category.code b a)

instance : LawfulEqOrd Category where
  eq_of_compare {a b} h := by
    have hcode : b.code = a.code := LawfulEqOrd.eq_of_compare h
    cases a; cases b; cases hcode; rfl

instance : TransOrd Node :=
  inferInstanceAs (TransCmp (compareLex (compareOn fun n : Node => n.nodeType.category)
    (compareLex (compareOn fun n : Node => n.nodeType.subtype)
      (compareLex (compareOn Node.length) (compareOn Node.bytes)))))

instance : LawfulEqOrd Node where
  eq_of_compare {a b} h := by
    have h : Node.order a b = .eq := h
    simp only [Node.order, compareLex_eq_eq] at h
    have hb : a.bytes = b.bytes := LawfulEqOrd.eq_of_compare h.2.2.2
    exact (Node.bytes_append_inj (r := []) (s := []) (by rw [hb])).1

namespace Node

theorem ne_endEntire {n : Node} (h : n.isEndEntire = false) : n ≠ endEntire := by
  rintro rfl
  cases h

/-- **In step up to an end that stands nowhere else is lexicographic order.** -/
theorem orderInStep_endEntire : ∀ {as bs : List Node}, (∀ n ∈ as, n.isEndEntire = false) →
    (∀ n ∈ bs, n.isEndEntire = false) →
    orderInStep (as ++ [endEntire]) (bs ++ [endEntire]) = compare (as ++ [endEntire]) (bs ++ [endEntire])
  | [], [], _, _ => by
    rw [Std.ReflOrd.compare_self]
    decide
  | [], b :: bs, _, hb => by
    have hne : compare endEntire b ≠ .eq := fun h =>
      ne_endEntire (hb b List.mem_cons_self) (LawfulEqOrd.eq_of_compare h).symm
    simp only [List.nil_append, List.cons_append, orderInStep, List.compare_cons_cons]
    cases h : compare endEntire b <;> simp_all
  | a :: as, [], ha, _ => by
    have hne : compare a endEntire ≠ .eq := fun h =>
      ne_endEntire (ha a List.mem_cons_self) (LawfulEqOrd.eq_of_compare h)
    simp only [List.nil_append, List.cons_append, List.compare_cons_cons]
    unfold orderInStep
    cases h : compare a endEntire <;> simp_all
  | a :: as, b :: bs, ha, hb => by
    rw [List.cons_append, List.cons_append, orderInStep, List.compare_cons_cons,
      orderInStep_endEntire (fun n hn => ha n (List.mem_cons_of_mem a hn))
        (fun n hn => hb n (List.mem_cons_of_mem b hn))]

theorem compare_of_category_lt {a b : Node} (h : b.nodeType.category.code < a.nodeType.category.code) :
    compare a b = .lt := by
  have hcode : compare b.nodeType.category.code a.nodeType.category.code = .lt := Std.compare_eq_lt.2 h
  change (compare b.nodeType.category.code a.nodeType.category.code).then _ = .lt
  rw [hcode]
  rfl

theorem compare_of_subtype_lt {a b : Node} (hc : a.nodeType.category = b.nodeType.category)
    (h : a.nodeType.subtype < b.nodeType.subtype) : compare a b = .lt := by
  have hsubtype : compare a.nodeType.subtype b.nodeType.subtype = .lt := Std.compare_eq_lt.2 h
  change (compare a.nodeType.category b.nodeType.category).then
    ((compare a.nodeType.subtype b.nodeType.subtype).then _) = .lt
  rw [hc, Std.ReflOrd.compare_self, hsubtype]
  rfl

/-- **The end comes before the nodes of a category below its own, and after all others.** -/
theorem compare_endEntire {n : Node} (hn : n.isEndEntire = false) :
    compare endEntire n = if n.nodeType.category.code < Category.ending.code then .lt else .gt := by
  split
  · rename_i hlt
    exact compare_of_category_lt hlt
  rename_i hge
  refine OrientedCmp.gt_iff_lt.2 ?_
  rcases UInt8.lt_or_eq_of_le (UInt8.not_lt.1 hge) with hlt | heq
  · exact compare_of_category_lt hlt
  · -- in the end's own category the end has the largest subtype
    have hcategory : n.nodeType.category = .ending := congrArg Category.mk heq.symm
    have hsubtype : n.nodeType.subtype.toNat ≠ 255 := fun h =>
      ne_of_beq_false hn (congrArg₂ NodeType.mk hcategory (UInt8.toNat_inj.1 h))
    have hlt : n.nodeType.subtype.toNat < 255 := by
      have hbound := n.nodeType.subtype.toNat_lt
      omega
    exact compare_of_subtype_lt hcategory (UInt8.lt_iff_toNat_lt.2 hlt)

/-- What two lists begin with alike does not count. -/
theorem orderInStep_append (as bs : List Node) : ∀ common : List Node,
    orderInStep (common ++ as) (common ++ bs) = orderInStep as bs
  | [] => rfl
  | c :: common => by
    rw [List.cons_append, List.cons_append, orderInStep, Std.ReflOrd.compare_self, orderInStep_append as bs common]
    rfl

end Node

namespace DevicePath

theorem compare_eq (p q : DevicePath) : compare p q = compare p.allNodes q.allNodes :=
  Node.orderInStep_endEntire p.noEnd q.noEnd

instance : TransOrd DevicePath where
  eq_swap {p q} := by
    rw [compare_eq, compare_eq]
    exact OrientedCmp.eq_swap
  isLE_trans {p q r} hpq hqr := by
    rw [compare_eq] at *
    exact TransCmp.isLE_trans hpq hqr

instance : LawfulEqOrd DevicePath where
  eq_of_compare {p q} h := by
    rw [compare_eq] at h
    exact ext_nodes (List.append_cancel_right (LawfulEqOrd.eq_of_compare h))

@[simp] theorem same_iff {p q : DevicePath} : p.same q = true ↔ p = q := by
  rw [same, beq_iff_eq, LawfulEqOrd.compare_eq_iff_eq]

/-- **Paths are totally ordered, and only a path's own bytes are equal to it in the order.** -/
theorem compare_totalOrder (p q r : DevicePath) :
    (compare p q = .eq ↔ p.bytes = q.bytes) ∧
    compare q p = (compare p q).swap ∧
    ((compare p q).isLE = true → (compare q r).isLE = true →
      (compare p r).isLE = true ∧ (compare p q = .lt ∨ compare q r = .lt → compare p r = .lt)) := by
  refine ⟨?_, OrientedCmp.eq_swap, fun hpq hqr => ⟨TransCmp.isLE_trans hpq hqr, ?_⟩⟩
  · rw [LawfulEqOrd.compare_eq_iff_eq, bytes_inj]
  · rintro (hlt | hlt)
    · exact TransCmp.lt_of_lt_of_isLE hlt hqr
    · exact TransCmp.lt_of_isLE_of_lt hpq hlt

/-- A node of a category above the end-entire node's comes before it, and so does one that ends an instance.  The longer
path is then the first. -/
theorem compare_totalOrder_past_end :
    let high : DevicePath := ⟨[⟨⟨⟨0xff⟩, 0xff⟩, [1], by decide⟩, ⟨.pci, [], by decide⟩], by decide⟩
    let instanceEnd : DevicePath := ⟨[⟨⟨.ending, 1⟩, [], by decide⟩], by decide⟩
    compare high instanceEnd = .lt ∧ compare instanceEnd empty = .lt ∧ compare high empty = .lt := by
  intro high instanceEnd
  have h₁ : compare high instanceEnd = .lt := by decide
  have h₂ : compare instanceEnd empty = .lt := by decide
  exact ⟨h₁, h₂, ((compare_totalOrder high instanceEnd empty).2.2 (by rw [h₁]; rfl) (by rw [h₂]; rfl)).2 (.inl h₁)⟩

/-! ## A path and those that go on from it -/

/-- **A path comes before one that goes on from it exactly if that goes on with a node of a category below the end's**;
otherwise the longer path is the first. -/
theorem compare_of_nodes_eq_append {p q : DevicePath} {n : Node} {rest : List Node}
    (h : q.nodes = p.nodes ++ n :: rest) :
    compare p q = if n.nodeType.category.code < Category.ending.code then .lt else .gt := by
  have hn : n.isEndEntire = false := q.noEnd n (by rw [h]; exact List.mem_append_right _ List.mem_cons_self)
  change Node.orderInStep (p.nodes ++ [Node.endEntire]) (q.nodes ++ [Node.endEntire]) = _
  rw [h, List.append_assoc, Node.orderInStep_append, List.cons_append, Node.orderInStep, Node.compare_endEntire hn]
  split <;> rfl

/-- The last category below the end's, and the first above it. -/
theorem compare_of_nodes_eq_append_at_end :
    let disk : DevicePath := ⟨[⟨.pci, [0, 0x1f], by decide⟩], by decide⟩
    let below : Node := ⟨⟨⟨0x7e⟩, 0xff⟩, [], by decide⟩
    let above : Node := ⟨⟨⟨0x80⟩, 0⟩, [], by decide⟩
    compare disk (disk.snoc below rfl) = .lt ∧ compare disk (disk.snoc above rfl) = .gt := by
  intro disk below above
  exact ⟨compare_of_nodes_eq_append (p := disk) (q := disk.snoc below rfl) rfl,
    compare_of_nodes_eq_append (p := disk) (q := disk.snoc above rfl) rfl⟩

/-- **A path may come after those that go on from it**: here the longer path says after its first instance that the
instance ends, and is the first all the same. -/
theorem compare_prefix_eq_gt :
    let disk : DevicePath := ⟨[⟨.pci, [0, 0x1f], by decide⟩], by decide⟩
    let instanceEnd : Node := ⟨⟨.ending, 1⟩, [], by decide⟩
    let mirrored : DevicePath := (disk.snoc instanceEnd rfl).snoc ⟨.pci, [0, 0x1e], by decide⟩ rfl
    disk.nodes <+: mirrored.nodes ∧ disk ≠ mirrored ∧ compare disk mirrored = .gt := by
  decide

end DevicePath
end DriveMap
