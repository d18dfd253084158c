import DriveMap.Spelling
import Mathlib.Algebra.Order.Ring.Nat
/-!
# Words, written and read

`LittleEndian.decode` reads back what `LittleEndian.encode` wrote of a number that fits its field, and a field has only
one spelling.
-/
namespace DriveMap
namespace LittleEndian

theorem decode_lt : ∀ bs : Bytes, decode bs < 256 ^ bs.length
  | [] => by decide
  | b :: rest => by
    have hb : b.toNat < 256 := b.toNat_lt
    have hr := decode_lt rest
    rw [decode, List.length_cons, Nat.pow_succ]
    omega

/-- **A number that fits its field is read back.** -/
theorem decode_encode : ∀ {w n : Nat}, n < 256 ^ w → decode (encode w n) = n
  | 0, n, h => by
    rw [Nat.pow_zero] at h
    rw [encode, decode]
    omega
  | w + 1, n, h => by
    have hq : n / 256 < 256 ^ w := by
      rw [Nat.pow_succ] at h
      exact Nat.div_lt_of_lt_mul (by omega)
    rw [encode, decode, decode_encode hq, UInt8.toNat_ofNat']
    omega

/-- **A field has one spelling**: writing what was read gives the same bytes. -/
theorem encode_decode : ∀ bs : Bytes, encode bs.length (decode bs) = bs
  | [] => rfl
  | b :: rest => by
    have hb : b.toNat < 256 := b.toNat_lt
    have hd : (b.toNat + 256 * decode rest) / 256 = decode rest := by omega
    have hm : UInt8.ofNat (b.toNat + 256 * decode rest) = b := by
      apply UInt8.toNat_inj.1
      rw [UInt8.toNat_ofNat']
      omega
    rw [List.length_cons, decode, encode, hd, hm, encode_decode rest]

theorem encode_decode_of_length {bs : Bytes} {w : Nat} (h : bs.length = w) : encode w (decode bs) = bs := by
  rw [← h, encode_decode]

theorem encode_toNat32 {bs : Bytes} (h : bs.length = 4) : encode 4 (UInt32.ofNat (decode bs)).toNat = bs := by
  have hlt : decode bs < 256 ^ 4 := h ▸ decode_lt bs
  rw [UInt32.toNat_ofNat_of_lt' hlt, encode_decode_of_length h]

theorem encode_toNat64 {bs : Bytes} (h : bs.length = 8) : encode 8 (UInt64.ofNat (decode bs)).toNat = bs := by
  have hlt : decode bs < 256 ^ 8 := h ▸ decode_lt bs
  rw [UInt64.toNat_ofNat_of_lt' hlt, encode_decode_of_length h]

theorem decode_toNat32 (x : UInt32) : UInt32.ofNat (decode (encode 4 x.toNat)) = x := by
  have hlt : x.toNat < 256 ^ 4 := x.toNat_lt
  rw [decode_encode hlt, UInt32.ofNat_toNat]

theorem decode_toNat64 (x : UInt64) : UInt64.ofNat (decode (encode 8 x.toNat)) = x := by
  have hlt : x.toNat < 256 ^ 8 := x.toNat_lt
  rw [decode_encode hlt, UInt64.ofNat_toNat]

end LittleEndian
end DriveMap
