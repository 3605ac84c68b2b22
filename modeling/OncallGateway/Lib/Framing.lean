import OncallGateway.Lib.Bytes
import Mathlib.Algebra.Order.Ring.Int

/-! # Fields put together as bytes

A record is written as the concatenation of its fields: numbers in a fixed number of bytes,
most significant first (`bigEndian`), and byte strings with their length before them
(`lengthPrefixed`).  Such a record is read back in one way only, field by field: two equal
texts that begin with the same kind of field have equal first fields and equal rests
(`bigEndian_append_inj`, `lengthPrefixed_append_inj`).
-/

/-- The last `n` bytes of a number, most significant first. -/
def bigEndian : Nat → Nat → ByteString
  | 0, _ => []
  | n + 1, v => bigEndian n (v / 256) ++ [UInt8.ofNat (v % 256)]

@[simp] theorem length_bigEndian (n v : Nat) : (bigEndian n v).length = n := by
  induction n generalizing v with
  | zero => rfl
  | succ n ih => simp [bigEndian, ih]

theorem bigEndian_injective {n v w : Nat} (hv : v < 256 ^ n) (hw : w < 256 ^ n)
    (h : bigEndian n v = bigEndian n w) : v = w := by
  induction n generalizing v w with
  | zero =>
    rw [Nat.pow_zero, Nat.lt_one_iff] at hv hw
    rw [hv, hw]
  | succ n ih =>
    rw [Nat.pow_succ] at hv hw
    obtain ⟨hhigh, hlow⟩ := List.append_inj h (by simp)
    have hdiv : v / 256 = w / 256 := ih (by omega) (by omega) hhigh
    have hmod : v % 256 = w % 256 := by
      have hbyte := congrArg UInt8.toNat (List.cons.inj hlow).1
      simp only [UInt8.toNat_ofNat'] at hbyte
      omega
    omega

theorem bigEndian_append_inj {n v w : Nat} {rest rest' : ByteString} (hv : v < 256 ^ n)
    (hw : w < 256 ^ n) (h : bigEndian n v ++ rest = bigEndian n w ++ rest') :
    v = w ∧ rest = rest' := by
  obtain ⟨hfield, hrest⟩ := List.append_inj h (by simp)
  exact ⟨bigEndian_injective hv hw hfield, hrest⟩

/-- The length of a byte string in `n` bytes, and the byte string. -/
def lengthPrefixed (n : Nat) (value : ByteString) : ByteString :=
  bigEndian n value.length ++ value

/-- **A field with its length before it ends where it says.** -/
theorem lengthPrefixed_append_inj {n : Nat} {value value' rest rest' : ByteString}
    (hv : value.length < 256 ^ n) (hw : value'.length < 256 ^ n)
    (h : lengthPrefixed n value ++ rest = lengthPrefixed n value' ++ rest') :
    value = value' ∧ rest = rest' := by
  unfold lengthPrefixed at h
  rw [List.append_assoc, List.append_assoc] at h
  obtain ⟨hlength, h⟩ := bigEndian_append_inj hv hw h
  exact List.append_inj h hlength
