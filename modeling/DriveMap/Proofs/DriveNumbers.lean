import DriveMap.Drive.Number
import Mathlib.Data.Nat.Bitwise
/-!
# Drive numbers, written and read

`Slot.number?` gives a slot its number by counting on from the base of its kind; `Slot.ofNumber?` reads a number by the
reserved numbers, then the configured one, then the hard disk bit.  Each is said here as an equation between natural
numbers, kind by kind, so that the two can be set side by side.

They are not inverse everywhere.  Counting runs into the network number among the floppies, carries out of the hard disk
bit among the hard disks, and ends on the number of no drive.  `Slot.ReadsBack` is what is left.  Reading takes every
number without the hard disk bit for a floppy's, however large; `Config.Ranged` are the numbers that are read within the
range of their kind, and these are written back.
-/
namespace DriveMap

theorem toNat_hardDiskBase : hardDiskBase.toNat = 128 := rfl

theorem and_hardDiskBase_ne_zero_iff (d : UInt32) : d &&& hardDiskBase ≠ 0 ↔ d.toNat / 128 % 2 = 1 := by
  have hbase : hardDiskBase.toNat = 2 ^ 7 := rfl
  rw [ne_eq, ← UInt32.toNat_inj, UInt32.toNat_and, hbase, Nat.and_two_pow, Nat.testBit_eq_decide_div_mod_eq]
  simp

theorem toNat_sub_hardDiskBase {d : UInt32} (h : d.toNat / 128 % 2 = 1) :
    (d - hardDiskBase).toNat = d.toNat - 128 := by
  rw [UInt32.toNat_sub_of_le, toNat_hardDiskBase]
  rw [UInt32.le_iff_toNat_le, toNat_hardDiskBase]
  omega

theorem ne_reserved_iff (d : UInt32) :
    d ≠ invalidDrive ∧ d ≠ networkDrive ↔ d.toNat ≠ 4294967295 ∧ d.toNat ≠ 32 := by
  rw [ne_eq, ne_eq, ← UInt32.toNat_inj, ← UInt32.toNat_inj]
  exact Iff.rfl

/-- The configured number is none of the `count` numbers from `start` on. -/
def Config.OpticalOutside (config : Config) (start count : Nat) : Prop :=
  ¬(start ≤ config.opticalDrive.toNat ∧ config.opticalDrive.toNat < start + count)

instance (config : Config) (start count : Nat) : Decidable (config.OpticalOutside start count) :=
  inferInstanceAs (Decidable (¬_))

/-- Where the numbers of a kind lie: floppies below the hard disks, an optical drive at the configured number. -/
def DriveKind.InRange (config : Config) (d : UInt32) : DriveKind → Prop
  | .floppy => d < hardDiskBase
  | .hardDisk => hardDiskBase ≤ d
  | .optical => d = config.opticalDrive

instance (config : Config) (d : UInt32) : DecidablePred (DriveKind.InRange config d)
  | .floppy => inferInstanceAs (Decidable (d < hardDiskBase))
  | .hardDisk => inferInstanceAs (Decidable (hardDiskBase ≤ d))
  | .optical => inferInstanceAs (Decidable (d = config.opticalDrive))

/-- The configured number, the numbers below the hard disks, and those with the hard disk bit. -/
def Config.Ranged (config : Config) (d : UInt32) : Prop :=
  d = config.opticalDrive ∨ d < hardDiskBase ∨ d &&& hardDiskBase ≠ 0

instance (config : Config) : DecidablePred config.Ranged := fun _ => inferInstanceAs (Decidable (_ ∨ _ ∨ _))

namespace Slot

variable {config : Config} {d : UInt32} {i : Nat}

/-! ## Writing, kind by kind -/

theorem number?_floppy : number? config ⟨.floppy, i⟩ = some d ↔ i < 128 ∧ d.toNat = i := by
  simp only [number?, Option.ite_none_right_eq_some, Option.some.injEq, ← UInt32.toNat_inj]
  rw [toNat_hardDiskBase]
  refine and_congr_right fun hi => ?_
  rw [UInt32.toNat_ofNat_of_lt' (Nat.lt_trans hi (by decide)), eq_comm]

theorem number?_hardDisk : number? config ⟨.hardDisk, i⟩ = some d ↔ d.toNat = 128 + i := by
  simp only [number?, Option.ite_none_right_eq_some, Option.some.injEq, ← UInt32.toNat_inj]
  rw [toNat_hardDiskBase]
  constructor
  · rintro ⟨hi, h⟩
    rw [← h, UInt32.toNat_ofNat_of_lt' hi]
  · intro h
    have hi : 128 + i < UInt32.size := h ▸ d.toNat_lt
    exact ⟨hi, by rw [UInt32.toNat_ofNat_of_lt' hi, h]⟩

theorem number?_optical : number? config ⟨.optical, i⟩ = some d ↔ i = 0 ∧ d = config.opticalDrive := by
  simp only [number?, Option.ite_none_right_eq_some, Option.some.injEq, eq_comm (a := d)]

/-! ## Reading, kind by kind -/

theorem ofNumber?_eq_some {s : Slot} : ofNumber? config d = some s ↔
    (d ≠ invalidDrive ∧ d ≠ networkDrive) ∧
      (if d = config.opticalDrive then ⟨.optical, 0⟩
        else if d.toNat / 128 % 2 = 1 then ⟨.hardDisk, d.toNat - 128⟩ else ⟨.floppy, d.toNat⟩) = s := by
  simp only [ofNumber?, Option.ite_none_left_eq_some, not_or, ne_eq]
  refine and_congr_right fun _ => ?_
  by_cases ho : d = config.opticalDrive
  · simp [ho]
  · by_cases hb : d.toNat / 128 % 2 = 1
    · simp [ho, hb, (and_hardDiskBase_ne_zero_iff d).2 hb, toNat_sub_hardDiskBase hb]
    · have hz : d &&& hardDiskBase = 0 := not_not.1 fun h => hb ((and_hardDiskBase_ne_zero_iff d).1 h)
      simp [ho, hb, hz]

theorem ofNumber?_floppy : ofNumber? config d = some ⟨.floppy, i⟩ ↔
    (d ≠ invalidDrive ∧ d ≠ networkDrive) ∧ d ≠ config.opticalDrive ∧ d.toNat / 128 % 2 ≠ 1 ∧ d.toNat = i := by
  rw [ofNumber?_eq_some]
  refine and_congr_right fun _ => ?_
  by_cases ho : d = config.opticalDrive <;> by_cases hb : d.toNat / 128 % 2 = 1 <;> simp [ho, hb]

theorem ofNumber?_hardDisk : ofNumber? config d = some ⟨.hardDisk, i⟩ ↔
    (d ≠ invalidDrive ∧ d ≠ networkDrive) ∧ d ≠ config.opticalDrive ∧ d.toNat / 128 % 2 = 1 ∧ d.toNat = 128 + i := by
  rw [ofNumber?_eq_some]
  refine and_congr_right fun _ => ?_
  by_cases ho : d = config.opticalDrive <;> by_cases hb : d.toNat / 128 % 2 = 1 <;> simp [ho, hb]
  omega

theorem ofNumber?_optical : ofNumber? config d = some ⟨.optical, i⟩ ↔
    (d ≠ invalidDrive ∧ d ≠ networkDrive) ∧ d = config.opticalDrive ∧ i = 0 := by
  rw [ofNumber?_eq_some]
  refine and_congr_right fun _ => ?_
  by_cases ho : d = config.opticalDrive <;> by_cases hb : d.toNat / 128 % 2 = 1 <;> simp [ho, hb, eq_comm]

theorem ofNumber?_inj {s : Slot} {d' : UInt32} (h : ofNumber? config d = some s) (h' : ofNumber? config d' = some s) :
    d = d' := by
  obtain ⟨kind, i⟩ := s
  cases kind with
  | floppy =>
    obtain ⟨-, -, -, hd⟩ := ofNumber?_floppy.1 h
    obtain ⟨-, -, -, hd'⟩ := ofNumber?_floppy.1 h'
    exact UInt32.toNat_inj.1 (hd.trans hd'.symm)
  | hardDisk =>
    obtain ⟨-, -, -, hd⟩ := ofNumber?_hardDisk.1 h
    obtain ⟨-, -, -, hd'⟩ := ofNumber?_hardDisk.1 h'
    exact UInt32.toNat_inj.1 (hd.trans hd'.symm)
  | optical =>
    obtain ⟨-, hd, -⟩ := ofNumber?_optical.1 h
    obtain ⟨-, hd', -⟩ := ofNumber?_optical.1 h'
    exact hd.trans hd'.symm

/-! ## Writing, then reading -/

/-- The slots whose number, where they have one, is read as theirs: not the floppy whose turn falls on the network
number, nor a hard disk whose place carries out of the hard disk bit, nor the one that gets the number of no drive. -/
def ReadsBack : Slot → Prop
  | ⟨.floppy, i⟩ => i ≠ networkDrive.toNat
  | ⟨.hardDisk, i⟩ => i / hardDiskBase.toNat % 2 = 0 ∧ hardDiskBase.toNat + i ≠ invalidDrive.toNat
  | ⟨.optical, _⟩ => True

instance : DecidablePred ReadsBack
  | ⟨.floppy, i⟩ => inferInstanceAs (Decidable (i ≠ networkDrive.toNat))
  | ⟨.hardDisk, i⟩ =>
    inferInstanceAs (Decidable (i / hardDiskBase.toNat % 2 = 0 ∧ hardDiskBase.toNat + i ≠ invalidDrive.toNat))
  | ⟨.optical, _⟩ => inferInstanceAs (Decidable True)

theorem ofNumber?_of_readsBack {s : Slot} (hd : s.number? config = some d)
    (hoptical : s.kind = .optical → d ≠ invalidDrive ∧ d ≠ networkDrive)
    (hother : s.kind ≠ .optical → d ≠ config.opticalDrive) (hs : s.ReadsBack) : ofNumber? config d = some s := by
  obtain ⟨kind, i⟩ := s
  cases kind with
  | floppy =>
    obtain ⟨hi, hdi⟩ := number?_floppy.1 hd
    have hs : i ≠ 32 := hs
    exact ofNumber?_floppy.2 ⟨(ne_reserved_iff d).2 (by omega), hother nofun, by omega, hdi⟩
  | hardDisk =>
    have hdi := number?_hardDisk.1 hd
    obtain ⟨hbit, hlast⟩ : i / 128 % 2 = 0 ∧ 128 + i ≠ 4294967295 := hs
    exact ofNumber?_hardDisk.2 ⟨(ne_reserved_iff d).2 (by omega), hother nofun, by omega, hdi⟩
  | optical =>
    obtain ⟨hi, hdi⟩ := number?_optical.1 hd
    exact ofNumber?_optical.2 ⟨hoptical rfl, hdi, hi⟩

theorem readsBack_of_ofNumber? {s : Slot} (hd : s.number? config = some d) (h : ofNumber? config d = some s) :
    s.ReadsBack := by
  obtain ⟨kind, i⟩ := s
  cases kind with
  | floppy =>
    obtain ⟨hr, -, -, hdi⟩ := ofNumber?_floppy.1 h
    have hi : i ≠ 32 := hdi ▸ ((ne_reserved_iff d).1 hr).2
    exact hi
  | hardDisk =>
    obtain ⟨hr, -, hbit, hdi⟩ := ofNumber?_hardDisk.1 h
    have hlast := ((ne_reserved_iff d).1 hr).1
    have hi : i / 128 % 2 = 0 ∧ 128 + i ≠ 4294967295 := ⟨by omega, hdi ▸ hlast⟩
    exact hi
  | optical => exact trivial

/-- **The number a slot is given is read as that slot exactly when the slot reads back.** -/
theorem ofNumber?_number?_iff {s : Slot} (hd : s.number? config = some d)
    (hoptical : s.kind = .optical → d ≠ invalidDrive ∧ d ≠ networkDrive)
    (hother : s.kind ≠ .optical → d ≠ config.opticalDrive) : ofNumber? config d = some s ↔ s.ReadsBack :=
  ⟨readsBack_of_ofNumber? hd, ofNumber?_of_readsBack hd hoptical hother⟩

/-- The hard disk bit is clear in the number of the 129th hard disk and set again in that of the 257th. -/
theorem ofNumber?_number?_iff_at_carry :
    number? {} ⟨.hardDisk, 256⟩ = some 0x180 ∧
    (ofNumber? {} 0x180 = some ⟨.hardDisk, 256⟩ ↔ ReadsBack ⟨.hardDisk, 256⟩) ∧
    number? {} ⟨.hardDisk, 128⟩ = some 0x100 ∧
    (ofNumber? {} 0x100 = some ⟨.hardDisk, 128⟩ ↔ ReadsBack ⟨.hardDisk, 128⟩) :=
  ⟨by decide, ofNumber?_number?_iff (by decide) (by decide) (by decide),
    by decide, ofNumber?_number?_iff (by decide) (by decide) (by decide)⟩

/-- **A number may be handed out that is not read as the slot it was made for**: under the usual configuration the 33rd
floppy is given the network number, and the 129th hard disk a number that is read as a floppy's. -/
theorem number?_lost :
    number? {} ⟨.floppy, 32⟩ = some 0x20 ∧ (0x20 : UInt32) ≠ ({} : Config).opticalDrive ∧ ofNumber? {} 0x20 = none ∧
    number? {} ⟨.hardDisk, 128⟩ = some 0x100 ∧ (0x100 : UInt32) ≠ ({} : Config).opticalDrive ∧
    ofNumber? {} 0x100 = some ⟨.floppy, 256⟩ := by
  decide

/-! ## Reading, then writing -/

theorem number?_of_ranged {s : Slot} (h : ofNumber? config d = some s) (hd : config.Ranged d) :
    s.number? config = some d ∧ s.kind.InRange config d := by
  obtain ⟨kind, i⟩ := s
  cases kind with
  | floppy =>
    obtain ⟨-, hne, hbit, hdi⟩ := ofNumber?_floppy.1 h
    have hlt : d < hardDiskBase := by
      rcases hd with hopt | hlt | hset
      · exact absurd hopt hne
      · exact hlt
      · exact absurd ((and_hardDiskBase_ne_zero_iff d).1 hset) hbit
    have hi : d.toNat < 128 := UInt32.lt_iff_toNat_lt.1 hlt
    exact ⟨number?_floppy.2 ⟨by omega, hdi⟩, hlt⟩
  | hardDisk =>
    obtain ⟨-, -, -, hdi⟩ := ofNumber?_hardDisk.1 h
    have hle : 128 ≤ d.toNat := by omega
    exact ⟨number?_hardDisk.2 hdi, UInt32.le_iff_toNat_le.2 hle⟩
  | optical =>
    obtain ⟨-, hdi, hi⟩ := ofNumber?_optical.1 h
    exact ⟨number?_optical.2 ⟨hi, hdi⟩, hdi⟩

/-- A number out of range is read as a floppy so far up the roster that it has no number. -/
theorem number?_of_not_ranged {s : Slot} (h : ofNumber? config d = some s) (hd : ¬config.Ranged d) :
    s = ⟨.floppy, d.toNat⟩ ∧ s.number? config = none := by
  obtain ⟨hopt, hge, hclear⟩ : d ≠ config.opticalDrive ∧ ¬d < hardDiskBase ∧ ¬d &&& hardDiskBase ≠ 0 := by
    simpa only [Config.Ranged, not_or] using hd
  have hbit : ¬d.toNat / 128 % 2 = 1 := fun hb => hclear ((and_hardDiskBase_ne_zero_iff d).2 hb)
  obtain ⟨-, hs⟩ := ofNumber?_eq_some.1 h
  rw [if_neg hopt, if_neg hbit] at hs
  subst hs
  exact ⟨rfl, if_neg fun hlt => hge (UInt32.lt_iff_toNat_lt.2 hlt)⟩

/-- **A number that is read as a slot is that slot's own number, and in the range of its kind, exactly when it is below
the hard disks, has the hard disk bit or is the configured one**; otherwise the slot it is read as has no number. -/
theorem number?_ofNumber?_iff {s : Slot} (h : ofNumber? config d = some s) :
    (s.number? config = some d ∧ s.kind.InRange config d ↔ config.Ranged d) ∧
      (¬config.Ranged d → s = ⟨.floppy, d.toNat⟩ ∧ s.number? config = none) := by
  refine ⟨⟨fun ⟨hd, _⟩ => ?_, number?_of_ranged h⟩, number?_of_not_ranged h⟩
  by_contra hr
  rw [(number?_of_not_ranged h hr).2] at hd
  cases hd

/-- The last number that is still a floppy's own, and the first with which the floppies begin again. -/
theorem number?_ofNumber?_iff_at_bounds :
    ofNumber? {} 0x7f = some ⟨.floppy, 127⟩ ∧
    (number? {} ⟨.floppy, 127⟩ = some 0x7f ∧ DriveKind.floppy.InRange {} 0x7f ↔ Config.Ranged {} 0x7f) ∧
    ofNumber? {} 0x100 = some ⟨.floppy, 256⟩ ∧ ¬Config.Ranged {} 0x100 ∧ number? {} ⟨.floppy, 256⟩ = none := by
  have hlast : ofNumber? {} 0x7f = some ⟨.floppy, 127⟩ := by decide
  have hagain : ofNumber? {} 0x100 = some ⟨.floppy, 256⟩ := by decide
  have hout : ¬Config.Ranged {} 0x100 := by decide
  exact ⟨hlast, (number?_ofNumber?_iff hlast).1, hagain, hout, ((number?_ofNumber?_iff hagain).2 hout).2⟩

/-- **A number may be read as a slot that has no number**: under the usual configuration `0x100`, which is past the
floppies, is read as the 257th floppy. -/
theorem ofNumber?_unnumbered :
    ofNumber? {} 0x100 = some ⟨.floppy, 256⟩ ∧ number? {} ⟨.floppy, 256⟩ = none ∧
    ¬DriveKind.floppy.InRange {} 0x100 := by
  decide

/-! ## Numbers that cannot clash -/

variable {count : Nat}

theorem ofNumber?_of_hardDisk (hd : number? config ⟨.hardDisk, i⟩ = some d) (hi : i < count) (hcount : count ≤ 0x80)
    (hout : config.OpticalOutside 0x80 count) : ofNumber? config d = some ⟨.hardDisk, i⟩ := by
  have hdi := number?_hardDisk.1 hd
  have hne : d ≠ config.opticalDrive := by
    rintro rfl
    exact hout (by omega)
  have hback : i / 128 % 2 = 0 ∧ 128 + i ≠ 4294967295 := by omega
  exact ofNumber?_of_readsBack hd nofun (fun _ => hne) hback

theorem exists_number?_hardDisk (hi : i < count) (hcount : count ≤ 0x80) (hout : config.OpticalOutside 0x80 count) :
    ∃ d, number? config ⟨.hardDisk, i⟩ = some d ∧ ofNumber? config d = some ⟨.hardDisk, i⟩ := by
  have hd : number? config ⟨.hardDisk, i⟩ = some (UInt32.ofNat (128 + i)) :=
    number?_hardDisk.2 (UInt32.toNat_ofNat_of_lt' (Nat.lt_of_lt_of_le (by omega : 128 + i < 256) (by decide)))
  exact ⟨_, hd, ofNumber?_of_hardDisk hd hi hcount hout⟩

theorem exists_number?_floppy (hi : i < count) (hcount : count ≤ 0x20) (hout : config.OpticalOutside 0 count) :
    ∃ d, number? config ⟨.floppy, i⟩ = some d ∧ ofNumber? config d = some ⟨.floppy, i⟩ := by
  have hto : (UInt32.ofNat i).toNat = i :=
    UInt32.toNat_ofNat_of_lt' (Nat.lt_of_lt_of_le (by omega : i < 128) (by decide))
  have hd : number? config ⟨.floppy, i⟩ = some (UInt32.ofNat i) := number?_floppy.2 ⟨by omega, hto⟩
  have hne : UInt32.ofNat i ≠ config.opticalDrive := by
    intro h
    rw [h] at hto
    exact hout (by omega)
  have hback : i ≠ 32 := by omega
  exact ⟨_, hd, ofNumber?_of_readsBack hd nofun (fun _ => hne) hback⟩

theorem exists_number?_optical (hr : config.opticalDrive ≠ invalidDrive ∧ config.opticalDrive ≠ networkDrive) :
    ∃ d, number? config ⟨.optical, 0⟩ = some d ∧ ofNumber? config d = some ⟨.optical, 0⟩ :=
  ⟨_, number?_optical.2 ⟨rfl, rfl⟩, ofNumber?_optical.2 ⟨hr, rfl, rfl⟩⟩

end Slot
end DriveMap
