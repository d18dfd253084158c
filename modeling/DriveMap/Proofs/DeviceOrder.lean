import DriveMap.Proofs.CommonBeginnings
import DriveMap.Proofs.RosterView
/-!
# The order of devices is an order

Devices are compared by their leaves and then by their whole paths, so what is compared is two slices of the same bytes.
All there is to it is in the paths (`DevicePath.leafFirst`): whatever a device is transferred through, and whatever else
is known of it, has no say.  A path is the last key, so devices that compare equal have one path, and the laws of a
total order hold for devices behind any interfaces (`Device.order_totalOrder`).
-/
namespace DriveMap

open Std (LawfulEqCmp LawfulEqOrd OrientedCmp TransCmp)

namespace RawDevice

/-- The order puts the first device before the second. -/
def Before (a b : RawDevice) : Prop := a.order b = .ok .lt

/-- The order puts the first device before the second or has them equal. -/
def NotAfter (a b : RawDevice) : Prop := ∃ o, a.order b = .ok o ∧ o.isLE = true

end RawDevice

namespace DevicePath

instance : LawfulEqCmp leafFirst where
  eq_of_compare {p q} h := by
    unfold leafFirst at h
    rw [compareLex_eq_eq] at h
    exact LawfulEqOrd.eq_of_compare h.2

/-- Between two paths of one node each the end-entire node decides nothing. -/
theorem compare_of_single {p q : DevicePath} {m n : Node} (hp : p.nodes = [m]) (hq : q.nodes = [n]) :
    compare p q = compare m n := by
  change Node.orderInStep (p.nodes ++ [Node.endEntire]) (q.nodes ++ [Node.endEntire]) = compare m n
  rw [hp, hq]
  by_cases h : m = n
  · subst h
    rw [Node.orderInStep_append, Std.ReflOrd.compare_self]
    decide
  · exact Node.orderInStep_of_ne fun heq => h (LawfulEqOrd.eq_of_compare heq)

end DevicePath

namespace Device

open DevicePath (leafFirst)

variable {α β γ : Type} {a : Device α} {b : Device β} {c : Device γ}

theorem compare_leafPath (a : Device α) (b : Device β) : compare a.leafPath b.leafPath = compare a.leaf b.leaf :=
  DevicePath.compare_of_single rfl rfl

theorem leafFirst_path (a : Device α) (b : Device β) :
    leafFirst a.path b.path = (compare a.leaf b.leaf).then (compare a.path b.path) := by
  rw [← compare_leafPath, leafPath_eq, leafPath_eq]
  rfl

/-- **Slices of two devices' bytes are compared as their paths are**, whatever the devices are transferred through. -/
theorem order_raw_leafFirst (a : Device α) (b : Device β) : a.raw.order b.raw = .ok (leafFirst a.path b.path) := by
  have hbare := order_raw (a.withIo ()) (b.withIo ())
  rw [compare_eq_leafFirst] at hbare
  exact hbare

theorem before_iff : a.raw.Before b.raw ↔ leafFirst a.path b.path = .lt := by
  unfold RawDevice.Before
  rw [order_raw_leafFirst, Except.ok.injEq]

theorem notAfter_iff : a.raw.NotAfter b.raw ↔ (leafFirst a.path b.path).isLE = true := by
  unfold RawDevice.NotAfter
  simp [order_raw_leafFirst]

theorem notAfter_trans (hab : a.raw.NotAfter b.raw) (hbc : b.raw.NotAfter c.raw) : a.raw.NotAfter c.raw := by
  rw [notAfter_iff] at *
  exact TransCmp.isLE_trans hab hbc

theorem before_trans (hab : a.raw.NotAfter b.raw) (hbc : b.raw.NotAfter c.raw)
    (h : a.raw.Before b.raw ∨ b.raw.Before c.raw) : a.raw.Before c.raw := by
  simp only [notAfter_iff, before_iff] at *
  rcases h with hlt | hlt
  · exact TransCmp.lt_of_lt_of_isLE hlt hbc
  · exact TransCmp.lt_of_isLE_of_lt hab hlt

/-- **Devices are totally ordered, and only devices of one path are equal in the order.**  It is the order of their
leaves as far as these differ, and that of the whole paths where they do not. -/
theorem order_totalOrder (a : Device α) (b : Device β) (c : Device γ) :
    (∀ b' : Device α, a.raw.order b'.raw = .ok (compare a b')) ∧
    (∃ o, a.raw.order b.raw = .ok o) ∧
    (a.raw.order b.raw = .ok .eq ↔ a.path.bytes = b.path.bytes) ∧
    b.raw.order a.raw = (a.raw.order b.raw).map Ordering.swap ∧
    (a.raw.NotAfter b.raw → b.raw.NotAfter c.raw →
      a.raw.NotAfter c.raw ∧ (a.raw.Before b.raw ∨ b.raw.Before c.raw → a.raw.Before c.raw)) ∧
    (∃ l m : RawPath, a.raw.leafPath = .ok l ∧ b.raw.leafPath = .ok m ∧ l.order m = .ok (compare a.leaf b.leaf) ∧
      ∀ o, l.order m = .ok o → o ≠ .eq → a.raw.order b.raw = .ok o) ∧
    (a.leaf = b.leaf → a.raw.order b.raw = a.raw.path.order b.raw.path) := by
  refine ⟨order_raw a, ⟨_, order_raw_leafFirst a b⟩, ?_, ?_, fun hab hbc => ⟨notAfter_trans hab hbc, before_trans hab hbc⟩,
    ⟨_, _, a.leafPath_raw, b.leafPath_raw, ?_, fun o ho hne => ?_⟩, fun hleaf => ?_⟩
  · rw [order_raw_leafFirst, Except.ok.injEq, LawfulEqCmp.compare_eq_iff_eq, DevicePath.bytes_inj]
  · rw [order_raw_leafFirst, order_raw_leafFirst]
    exact congrArg Except.ok OrientedCmp.eq_swap
  · rw [DevicePath.order_raw, compare_leafPath]
  · rw [DevicePath.order_raw, compare_leafPath, Except.ok.injEq] at ho
    rw [order_raw_leafFirst, leafFirst_path, ho]
    cases o <;> simp_all
  · have hpaths : a.raw.path.order b.raw.path = .ok (compare a.path b.path) := DevicePath.order_raw _ _
    rw [hpaths, order_raw_leafFirst, leafFirst_path, hleaf, Std.ReflOrd.compare_self]
    rfl

/-- The path that comes first may be that of the later device. -/
example :
    let first : DevicePath := ⟨[⟨.pci, [0, 1], by decide⟩, ⟨.sata, [2, 0], by decide⟩], by decide⟩
    let second : DevicePath := ⟨[⟨.pci, [0, 2], by decide⟩, ⟨.sata, [1, 0], by decide⟩], by decide⟩
    compare first second = .lt ∧ leafFirst first second = .gt := by decide

end Device
end DriveMap
