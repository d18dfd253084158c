import DriveMap.Medium
import Mathlib.Algebra.Order.Ring.Nat
/-!
# Cylinders, heads and sectors

A geometry is made up from the number of sectors and nothing else, so that old boot code can count in cylinders.  Its
places stand for the sectors up to its capacity, one each (`Geometry.number_placeOf`, `Geometry.placeOf_number`).  The
capacity leaves out less than a cylinder, and a larger disk never has a smaller one (`Geometry.ofMedium_addresses`).
-/
namespace DriveMap
namespace Geometry

/-- How many sectors a geometry has places for. -/
def capacity (g : Geometry) : Nat := g.cylinders.toNat * g.heads.toNat * g.sectors.toNat

/-- A sector as old boot code names it.  The sectors of a track are counted from one. -/
structure Place where
  cylinder : Nat
  head : Nat
  sector : Nat
deriving DecidableEq

structure Place.Within (a : Place) (g : Geometry) : Prop where
  cylinder_lt : a.cylinder < g.cylinders.toNat
  head_lt : a.head < g.heads.toNat
  sector_pos : 1 ≤ a.sector
  sector_le : a.sector ≤ g.sectors.toNat

def number (g : Geometry) (a : Place) : Nat :=
  (a.cylinder * g.heads.toNat + a.head) * g.sectors.toNat + a.sector - 1

def placeOf (g : Geometry) (k : Nat) : Place :=
  ⟨k / g.sectors.toNat / g.heads.toNat, k / g.sectors.toNat % g.heads.toNat, k % g.sectors.toNat + 1⟩

variable {g : Geometry} {a : Place} {k : Nat}

/-! ## Places and blocks -/

theorem placeOf_number (h : a.Within g) : g.placeOf (g.number a) = a := by
  obtain ⟨-, hhead, hpos, hle⟩ := h
  have hsplit : a.sector - 1 + g.sectors.toNat * (a.cylinder * g.heads.toNat + a.head) = g.number a := by
    rw [number, Nat.mul_comm g.sectors.toNat]
    omega
  obtain ⟨htrack, hsector⟩ := (Nat.div_mod_unique (by omega)).2 ⟨hsplit, by omega⟩
  have hsplit' : a.head + g.heads.toNat * a.cylinder = a.cylinder * g.heads.toNat + a.head := by
    rw [Nat.mul_comm, Nat.add_comm]
  obtain ⟨hcylinder, hhead'⟩ := (Nat.div_mod_unique (by omega)).2 ⟨hsplit', hhead⟩
  rw [placeOf, htrack, hsector, hcylinder, hhead', Nat.sub_add_cancel hpos]

theorem number_lt_capacity (h : a.Within g) : g.number a < g.capacity := by
  obtain ⟨hcylinder, hhead, hpos, hle⟩ := h
  have htrack : a.cylinder * g.heads.toNat + a.head + 1 ≤ g.cylinders.toNat * g.heads.toNat := by
    have hnext := Nat.mul_le_mul_right g.heads.toNat hcylinder
    rw [Nat.succ_mul] at hnext
    omega
  have hblock := Nat.mul_le_mul_right g.sectors.toNat htrack
  rw [Nat.succ_mul] at hblock
  unfold number capacity
  omega

theorem number_placeOf (h : k < g.capacity) : (g.placeOf k).Within g ∧ g.number (g.placeOf k) = k := by
  have hsectors : 0 < g.sectors.toNat := Nat.pos_of_ne_zero fun h0 => by simp [capacity, h0] at h
  have hheads : 0 < g.heads.toNat := Nat.pos_of_ne_zero fun h0 => by simp [capacity, h0] at h
  have hmod := Nat.mod_lt k hsectors
  refine ⟨⟨?_, Nat.mod_lt _ hheads, Nat.le_add_left 1 _, hmod⟩, ?_⟩
  · rw [placeOf, Nat.div_lt_iff_lt_mul hheads, Nat.div_lt_iff_lt_mul hsectors]
    exact h
  · simp only [number, placeOf, Nat.div_add_mod']
    exact Nat.div_add_mod' k g.sectors.toNat

/-! ## The geometry of a medium -/

variable {m m' : Medium} {flags flags' : UInt32}

theorem toNat_totalBlocks (h : m.lastBlock.toNat < UInt64.size - 1) :
    m.totalBlocks.toNat = m.lastBlock.toNat + 1 := by
  have hone : (1 : UInt64).toNat = 1 := rfl
  have hsize : UInt64.size = 2 ^ 64 := rfl
  rw [Medium.totalBlocks, UInt64.toNat_add, hone]
  omega

def cylinderSize (g : Geometry) : Nat := g.heads.toNat * g.sectors.toNat

theorem capacity_eq (g : Geometry) : g.capacity = g.cylinders.toNat * g.cylinderSize := Nat.mul_assoc ..

/-- The tracks of a small disk are fewer than the heads that would share them, so there is one head. -/
theorem heads_ofMedium : (ofMedium m flags).heads = if m.totalBlocks.toNat < 255 * 63 then 1 else 255 := by
  have htracks : m.totalBlocks / sectorsPerTrack.toUInt64 < maxHeads.toUInt64 ↔ m.totalBlocks.toNat < 255 * 63 := by
    rw [UInt64.lt_iff_toNat_lt, UInt64.toNat_div]
    exact Nat.div_lt_iff_lt_mul (by decide)
  simp only [ofMedium, htracks]
  rfl

theorem cylinderSize_ofMedium :
    (ofMedium m flags).cylinderSize = if m.totalBlocks.toNat < 255 * 63 then 63 else 255 * 63 := by
  rw [cylinderSize, heads_ofMedium]
  split <;> rfl

theorem cylinderSize_pos : 0 < (ofMedium m flags).cylinderSize := by
  rw [cylinderSize_ofMedium]
  split <;> decide

theorem cylinders_ofMedium :
    (ofMedium m flags).cylinders.toNat = m.totalBlocks.toNat / (ofMedium m flags).cylinderSize := by
  have hdivs : (ofMedium m flags).cylinders =
      m.totalBlocks / sectorsPerTrack.toUInt64 / (ofMedium m flags).heads.toUInt64 := rfl
  rw [hdivs, UInt64.toNat_div, UInt64.toNat_div, Nat.div_div_eq_div_mul, Nat.mul_comm]
  rfl

theorem capacity_le : (ofMedium m flags).capacity ≤ m.totalBlocks.toNat := by
  rw [capacity_eq, cylinders_ofMedium]
  exact Nat.div_mul_le_self ..

theorem lt_capacity_add : m.totalBlocks.toNat < (ofMedium m flags).capacity + (ofMedium m flags).cylinderSize := by
  rw [capacity_eq, cylinders_ofMedium, Nat.mul_comm]
  exact Nat.lt_mul_div_succ _ cylinderSize_pos

/-- **A larger disk never has a smaller capacity**, although its heads may be more and its cylinders fewer. -/
theorem capacity_mono (h : m.totalBlocks.toNat ≤ m'.totalBlocks.toNat) :
    (ofMedium m flags).capacity ≤ (ofMedium m' flags').capacity := by
  by_cases hsame : m.totalBlocks.toNat < 255 * 63 ↔ m'.totalBlocks.toNat < 255 * 63
  · have hsize : (ofMedium m flags).cylinderSize = (ofMedium m' flags').cylinderSize := by
      simp only [cylinderSize_ofMedium, hsame]
    rw [capacity_eq, capacity_eq, cylinders_ofMedium, cylinders_ofMedium, hsize]
    exact Nat.mul_le_mul_right _ (Nat.div_le_div_right h)
  -- one cylinder of many heads has places for as many sectors as a small disk may have
  · have hsmall : m.totalBlocks.toNat < 255 * 63 := by omega
    have hlarge : ¬m'.totalBlocks.toNat < 255 * 63 := fun hlt => hsame ⟨fun _ => hlt, fun _ => hsmall⟩
    have hle : (ofMedium m flags).capacity ≤ m.totalBlocks.toNat := capacity_le
    have hrest : m'.totalBlocks.toNat < (ofMedium m' flags').capacity + _ := lt_capacity_add
    have hdvd : (ofMedium m' flags').cylinderSize ∣ (ofMedium m' flags').capacity :=
      ⟨_, (capacity_eq _).trans (Nat.mul_comm ..)⟩
    rw [cylinderSize_ofMedium, if_neg hlarge] at hrest hdvd
    omega

/-- The capacity can be multiplied out in 64-bit words. -/
theorem toNat_product : ((ofMedium m flags).cylinders * (ofMedium m flags).heads.toUInt64 *
    (ofMedium m flags).sectors.toUInt64).toNat = (ofMedium m flags).capacity := by
  have hfits : (ofMedium m flags).capacity < 2 ^ 64 := Nat.lt_of_le_of_lt capacity_le m.totalBlocks.toNat_lt
  have hsectors : 0 < sectorsPerTrack.toNat := by decide
  have htracks := Nat.lt_of_le_of_lt (Nat.le_mul_of_pos_right _ hsectors) hfits
  rw [UInt64.toNat_mul, UInt64.toNat_mul, UInt32.toNat_toUInt64, UInt32.toNat_toUInt64, Nat.mod_eq_of_lt htracks]
  exact Nat.mod_eq_of_lt hfits

/-- **The geometry of a medium is safe and tight.**  Its places are sectors that the medium has, one each; the sectors
that have no place are fewer than a cylinder; and nothing that makes it up overflows or divides by zero. -/
theorem ofMedium_addresses (m : Medium) (flags : UInt32) :
    let g := ofMedium m flags
    let total := g.totalSectors.toNat
    (m.lastBlock.toNat < UInt64.size - 1 → total = m.lastBlock.toNat + 1) ∧
    (g.sectors = 63 ∧ (g.heads = 1 ↔ total < 255 * 63) ∧ (¬total < 255 * 63 → g.heads = 255)) ∧
    (g.capacity ≤ total ∧ total < (g.cylinders.toNat + 1) * g.heads.toNat * g.sectors.toNat) ∧
    (g.cylinders * g.heads.toUInt64 * g.sectors.toUInt64).toNat = g.capacity ∧
    (g.cylinders = g.totalSectors / g.sectors.toUInt64 / g.heads.toUInt64 ∧ g.sectors.toUInt64 ≠ 0 ∧
      g.heads.toUInt64 ≠ 0) ∧
    (∀ m' flags', total ≤ (ofMedium m' flags').totalSectors.toNat → g.capacity ≤ (ofMedium m' flags').capacity) ∧
    (∀ a : Place, a.Within g → g.number a < total) ∧
    (∀ a b : Place, a.Within g → b.Within g → g.number a = g.number b → a = b) ∧
    ∀ k, k < g.capacity → ∃ a : Place, a.Within g ∧ g.number a = k := by
  intro g total
  have hheads : g.heads = if total < 255 * 63 then 1 else 255 := heads_ofMedium
  refine ⟨toNat_totalBlocks, ⟨rfl, ?_, fun hlarge => by rw [hheads, if_neg hlarge]⟩, ⟨capacity_le, ?_⟩, toNat_product,
    ⟨rfl, ?_, ?_⟩, fun m' flags' => capacity_mono, ?_, ?_, ?_⟩
  · rw [hheads]
    split <;> simp [*]
  · have hlt : total < g.capacity + g.cylinderSize := lt_capacity_add
    rwa [capacity_eq, ← Nat.succ_mul, cylinderSize, ← Nat.mul_assoc] at hlt
  · exact (by decide : sectorsPerTrack.toUInt64 ≠ 0)
  · rw [hheads]
    split <;> decide
  · exact fun a ha => Nat.lt_of_lt_of_le (number_lt_capacity ha) capacity_le
  · intro a b ha hb hab
    rw [← placeOf_number ha, hab, placeOf_number hb]
  · exact fun k hk => ⟨g.placeOf k, number_placeOf hk⟩

/-- One sector more, and the heads are many and the cylinders one. -/
theorem ofMedium_addresses_at_threshold :
    let small := ofMedium ⟨0, false, 512, 16063⟩ lbaFlag
    let large := ofMedium ⟨0, false, 512, 16064⟩ lbaFlag
    (small.heads = 1 ∧ small.cylinders = 254 ∧ large.heads = 255 ∧ large.cylinders = 1) ∧
    small.totalSectors.toNat = 16064 ∧ small.capacity ≤ large.capacity ∧
    large.number ⟨0, 254, 63⟩ < large.totalSectors.toNat ∧ ∃ a : Place, a.Within large ∧ large.number a = 16064 := by
  intro small large
  obtain ⟨htotal, -, -, -, -, hmono, -⟩ := ofMedium_addresses ⟨0, false, 512, 16063⟩ lbaFlag
  obtain ⟨-, -, -, -, -, -, hinside, -, hplaces⟩ := ofMedium_addresses ⟨0, false, 512, 16064⟩ lbaFlag
  refine ⟨by decide, htotal (by decide), hmono _ _ (by decide), hinside ⟨0, 254, 63⟩ ?_, hplaces 16064 (by decide)⟩
  exact ⟨by decide, by decide, by decide, by decide⟩

end Geometry
end DriveMap
