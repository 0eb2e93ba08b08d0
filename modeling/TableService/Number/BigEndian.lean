/-
  Whole numbers as bytes, the most significant first.

  * `bigEndian` writes a number in a width, modulo its range; a negative number is written as its
    complement.
  * `unsigned` and `signed` read bytes back; `signed_bigEndian` says that a number within the range
    of a width is read back as it was.
-/

namespace TableService

/-- The last `width` bytes of a number. -/
def bytesOfNat : Nat → Nat → List UInt8
  | 0, _ => []
  | width + 1, n => bytesOfNat width (n / 256) ++ [UInt8.ofNat (n % 256)]

/-- A whole number in a width. -/
def bigEndian (width : Nat) (i : Int) : List UInt8 :=
  bytesOfNat width (i % (Nat.pow 256 width : Nat)).toNat

/-- The number that bytes are, without sign. -/
def unsigned (bytes : List UInt8) : Nat := bytes.foldl (fun n b => 256 * n + b.toNat) 0

/-- The number that bytes are, the first bit standing for the sign. -/
def signed (bytes : List UInt8) : Int :=
  if 2 * unsigned bytes < Nat.pow 256 bytes.length then unsigned bytes
  else (unsigned bytes : Int) - (Nat.pow 256 bytes.length : Nat)

theorem length_bytesOfNat (width n : Nat) : (bytesOfNat width n).length = width := by
  induction width generalizing n with
  | zero => rfl
  | succ w ih => simp [bytesOfNat, ih]

theorem length_bigEndian (width : Nat) (i : Int) : (bigEndian width i).length = width :=
  length_bytesOfNat width _

theorem unsigned_append (l : List UInt8) (b : UInt8) :
    unsigned (l ++ [b]) = 256 * unsigned l + b.toNat := by
  simp [unsigned]

theorem unsigned_bytesOfNat (width n : Nat) :
    unsigned (bytesOfNat width n) = n % Nat.pow 256 width := by
  induction width generalizing n with
  | zero => simp [bytesOfNat, unsigned, Nat.mod_one]
  | succ w ih =>
    have last : (UInt8.ofNat (n % 256)).toNat = n % 256 :=
      UInt8.toNat_ofNat_of_lt' (Nat.mod_lt n (by decide))
    have power : Nat.pow 256 (w + 1) = 256 * Nat.pow 256 w := Nat.pow_succ'
    rw [bytesOfNat, unsigned_append, ih, last, power, Nat.mod_mul]
    omega

theorem signed_bigEndian {width : Nat} {i : Int} (lower : -(Nat.pow 256 width : Nat) ≤ 2 * i)
    (upper : 2 * i < (Nat.pow 256 width : Nat)) : signed (bigEndian width i) = i := by
  have range : 0 < Nat.pow 256 width := Nat.pow_pos (by decide)
  have read : unsigned (bigEndian width i) = (i % (Nat.pow 256 width : Nat)).toNat := by
    rw [bigEndian, unsigned_bytesOfNat, Nat.mod_eq_of_lt]
    have := Int.emod_lt_of_pos i (b := (Nat.pow 256 width : Nat)) (by omega)
    omega
  rw [signed, read, length_bigEndian]
  generalize Nat.pow 256 width = r at *
  by_cases sign : 0 ≤ i
  · rw [Int.emod_eq_of_lt sign (by omega), if_pos (by omega)]
    omega
  · have : i % (r : Int) = i + r := by
      rw [← Int.add_emod_right, Int.emod_eq_of_lt (by omega) (by omega)]
    rw [this, if_neg (by omega)]
    omega

end TableService
