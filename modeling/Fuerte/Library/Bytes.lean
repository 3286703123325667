import Mathlib.Algebra.GroupWithZero.Nat
import Mathlib.Data.List.Basic

/-! # Byte memory and little-endian machine words

A pointer is the memory seen from one address on; nothing bounds it, so a read
past the end of a block is a read of whatever lies behind the block. The block
operations below say when a read stays inside.
-/

namespace ByteMemory

set_option autoImplicit false

/-- The bytes found at and behind an address. -/
abbrev Pointer := Nat → UInt8

namespace Pointer

def add (p : Pointer) (n : Nat) : Pointer := fun i => p (n + i)

def read (p : Pointer) (n : Nat) : List UInt8 := (List.range n).map p

/-- The address of a block whose last byte is followed by `behind`. -/
def ofList (block : List UInt8) (behind : Pointer) : Pointer :=
  fun i => block[i]?.getD (behind (i - block.length))

@[simp] theorem add_zero (p : Pointer) : p.add 0 = p := by
  funext i
  simp [add]

@[simp] theorem add_add (p : Pointer) (m n : Nat) : (p.add m).add n = p.add (m + n) := by
  funext i
  simp [add, Nat.add_assoc]

@[simp] theorem length_read (p : Pointer) (n : Nat) : (p.read n).length = n := by
  simp [read]

@[simp] theorem read_zero (p : Pointer) : p.read 0 = [] := rfl

theorem ofList_lt {block : List UInt8} {behind : Pointer} {i : Nat} (h : i < block.length) :
    ofList block behind i = block[i] := by
  simp [ofList, h]

theorem ofList_append_add (front back : List UInt8) (behind : Pointer) :
    (ofList (front ++ back) behind).add front.length = ofList back behind := by
  funext i
  simp only [add, ofList, List.length_append]
  rw [List.getElem?_append_right (Nat.le_add_right _ _)]
  congr 2 <;> omega

theorem read_ofList_append (front back : List UInt8) (behind : Pointer) :
    (ofList (front ++ back) behind).read front.length = front := by
  apply List.ext_getElem
  · simp
  · intro i h _
    simp only [length_read] at h
    simp only [read, List.getElem_map, List.getElem_range]
    rw [ofList_lt (by simp; omega), List.getElem_append_left h]

theorem read_ofList (block : List UInt8) (behind : Pointer) :
    (ofList block behind).read block.length = block := by
  simpa using read_ofList_append block [] behind

theorem read_add (p : Pointer) (m n : Nat) : p.read (m + n) = p.read m ++ (p.add m).read n := by
  rw [read, read, read, List.range_add, List.map_append, List.map_map]
  rfl

theorem read_add_ofList (block : List UInt8) (behind : Pointer) (offset n : Nat)
    (h : offset + n ≤ block.length) :
    ((ofList block behind).add offset).read n = (block.drop offset).take n := by
  apply List.ext_getElem
  · simp only [length_read, List.length_take, List.length_drop]
    omega
  · intro i hi _
    simp only [length_read] at hi
    simp only [read, add, List.getElem_map, List.getElem_range, List.getElem_take, List.getElem_drop]
    exact ofList_lt (by omega)

end Pointer

/-- The natural number with the given digits in base 256, least significant first. -/
def wordOf : List UInt8 → Nat
  | [] => 0
  | b :: bs => b.toNat + 256 * wordOf bs

/-- The lowest `w` digits of a number in base 256, least significant first. -/
def bytesOf : Nat → Nat → List UInt8
  | 0, _ => []
  | w + 1, n => UInt8.ofNat n :: bytesOf w (n / 256)

@[simp] theorem length_bytesOf (w n : Nat) : (bytesOf w n).length = w := by
  induction w generalizing n with
  | zero => rfl
  | succ w ih => rw [bytesOf, List.length_cons, ih]

theorem wordOf_bytesOf (w n : Nat) : wordOf (bytesOf w n) = n % 256 ^ w := by
  induction w generalizing n with
  | zero => simp [wordOf, bytesOf, Nat.mod_one]
  | succ w ih =>
    have hByte : (UInt8.ofNat n).toNat = n % 256 := by simp
    rw [bytesOf, wordOf, ih, hByte, Nat.pow_succ', Nat.mod_mul]

theorem wordOf_lt (bs : List UInt8) : wordOf bs < 256 ^ bs.length := by
  induction bs with
  | nil => simp [wordOf]
  | cons b bs ih =>
    have hByte : b.toNat < 256 := b.toNat_lt
    rw [wordOf, List.length_cons, Nat.pow_succ']
    omega

theorem bytesOf_wordOf (bs : List UInt8) : bytesOf bs.length (wordOf bs) = bs := by
  induction bs with
  | nil => rfl
  | cons b bs ih =>
    have hByte : b.toNat < 256 := b.toNat_lt
    have hLow : UInt8.ofNat (b.toNat + 256 * wordOf bs) = b := by
      apply UInt8.toNat_inj.mp
      simp only [UInt8.toNat_ofNat']
      omega
    have hHigh : (b.toNat + 256 * wordOf bs) / 256 = wordOf bs := by omega
    rw [List.length_cons, wordOf, bytesOf, hLow, hHigh, ih]

/-- The 32-bit little-endian word stored at an address. -/
def word32 (p : Pointer) : UInt32 := UInt32.ofNat (wordOf (p.read 4))

/-- The 64-bit little-endian word stored at an address. -/
def word64 (p : Pointer) : UInt64 := UInt64.ofNat (wordOf (p.read 8))

def bytes32 (x : UInt32) : List UInt8 := bytesOf 4 x.toNat

def bytes64 (x : UInt64) : List UInt8 := bytesOf 8 x.toNat

@[simp] theorem length_bytes32 (x : UInt32) : (bytes32 x).length = 4 := length_bytesOf 4 _

@[simp] theorem length_bytes64 (x : UInt64) : (bytes64 x).length = 8 := length_bytesOf 8 _

theorem word32_bytes32 (x : UInt32) (rest : List UInt8) (behind : Pointer) :
    word32 (Pointer.ofList (bytes32 x ++ rest) behind) = x := by
  have hRead := Pointer.read_ofList_append (bytes32 x) rest behind
  rw [length_bytes32] at hRead
  have hLt : x.toNat % 256 ^ 4 = x.toNat := Nat.mod_eq_of_lt x.toNat_lt
  rw [word32, hRead, bytes32, wordOf_bytesOf, hLt, UInt32.ofNat_toNat]

theorem word64_bytes64 (x : UInt64) (rest : List UInt8) (behind : Pointer) :
    word64 (Pointer.ofList (bytes64 x ++ rest) behind) = x := by
  have hRead := Pointer.read_ofList_append (bytes64 x) rest behind
  rw [length_bytes64] at hRead
  have hLt : x.toNat % 256 ^ 8 = x.toNat := Nat.mod_eq_of_lt x.toNat_lt
  rw [word64, hRead, bytes64, wordOf_bytesOf, hLt, UInt64.ofNat_toNat]

/-- A word that is written where it was read changes nothing. -/
theorem bytes32_word32 (p : Pointer) : bytes32 (word32 p) = p.read 4 := by
  have hLength : (p.read 4).length = 4 := Pointer.length_read p 4
  have hLt : wordOf (p.read 4) < 2 ^ 32 := by
    have hWord := wordOf_lt (p.read 4)
    rwa [hLength] at hWord
  rw [bytes32, word32, UInt32.toNat_ofNat', Nat.mod_eq_of_lt hLt]
  have hBytes := bytesOf_wordOf (p.read 4)
  rwa [hLength] at hBytes

theorem bytes64_word64 (p : Pointer) : bytes64 (word64 p) = p.read 8 := by
  have hLength : (p.read 8).length = 8 := Pointer.length_read p 8
  have hLt : wordOf (p.read 8) < 2 ^ 64 := by
    have hWord := wordOf_lt (p.read 8)
    rwa [hLength] at hWord
  rw [bytes64, word64, UInt64.toNat_ofNat', Nat.mod_eq_of_lt hLt]
  have hBytes := bytesOf_wordOf (p.read 8)
  rwa [hLength] at hBytes

end ByteMemory
