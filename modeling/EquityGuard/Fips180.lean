import Mathlib.Algebra.Group.Nat.Defs
import Mathlib.Data.List.Forall2
import Mathlib.Data.List.GetD
import Mathlib.Data.List.Induction

/-!
SHA-256 as FIPS 180-4 defines it, for messages of whole bytes.
-/
namespace EquityGuard.Fips180

abbrev Word := BitVec 32

/-! ### Functions and constants (4.1.2, 4.2.2, 5.3.3) -/

def Ch (x y z : Word) : Word := (x &&& y) ^^^ (~~~x &&& z)
def Maj (x y z : Word) : Word := (x &&& y) ^^^ (x &&& z) ^^^ (y &&& z)
def bigSigma0 (x : Word) : Word := x.rotateRight 2 ^^^ x.rotateRight 13 ^^^ x.rotateRight 22
def bigSigma1 (x : Word) : Word := x.rotateRight 6 ^^^ x.rotateRight 11 ^^^ x.rotateRight 25
def sigma0 (x : Word) : Word := x.rotateRight 7 ^^^ x.rotateRight 18 ^^^ (x >>> 3)
def sigma1 (x : Word) : Word := x.rotateRight 17 ^^^ x.rotateRight 19 ^^^ (x >>> 10)

/-- The first thirty-two bits of the fractional parts of the cube roots of the first sixty-four primes. -/
def K : List Word := [
  0x428a2f98, 0x71374491, 0xb5c0fbcf, 0xe9b5dba5, 0x3956c25b, 0x59f111f1, 0x923f82a4, 0xab1c5ed5,
  0xd807aa98, 0x12835b01, 0x243185be, 0x550c7dc3, 0x72be5d74, 0x80deb1fe, 0x9bdc06a7, 0xc19bf174,
  0xe49b69c1, 0xefbe4786, 0x0fc19dc6, 0x240ca1cc, 0x2de92c6f, 0x4a7484aa, 0x5cb0a9dc, 0x76f988da,
  0x983e5152, 0xa831c66d, 0xb00327c8, 0xbf597fc7, 0xc6e00bf3, 0xd5a79147, 0x06ca6351, 0x14292967,
  0x27b70a85, 0x2e1b2138, 0x4d2c6dfc, 0x53380d13, 0x650a7354, 0x766a0abb, 0x81c2c92e, 0x92722c85,
  0xa2bfe8a1, 0xa81a664b, 0xc24b8b70, 0xc76c51a3, 0xd192e819, 0xd6990624, 0xf40e3585, 0x106aa070,
  0x19a4c116, 0x1e376c08, 0x2748774c, 0x34b0bcb5, 0x391c0cb3, 0x4ed8aa4a, 0x5b9cca4f, 0x682e6ff3,
  0x748f82ee, 0x78a5636f, 0x84c87814, 0x8cc70208, 0x90befffa, 0xa4506ceb, 0xbef9a3f7, 0xc67178f2]
/-- The first sixty-four primes. -/
def primes : List Nat := [
  2, 3, 5, 7, 11, 13, 17, 19, 23, 29, 31, 37, 41, 43, 47, 53,
  59, 61, 67, 71, 73, 79, 83, 89, 97, 101, 103, 107, 109, 113, 127, 131,
  137, 139, 149, 151, 157, 163, 167, 173, 179, 181, 191, 193, 197, 199, 211, 223,
  227, 229, 233, 239, 241, 251, 257, 263, 269, 271, 277, 281, 283, 293, 307, 311]
/-- A word is the first thirty-two bits of the fractional part of a root. -/
def FirstBits (degree number : Nat) (word : Word) : Prop := ∃ whole : Nat,
  (whole * 2 ^ 32 + word.toNat) ^ degree ≤ number * 2 ^ (32 * degree) ∧
    number * 2 ^ (32 * degree) < (whole * 2 ^ 32 + word.toNat + 1) ^ degree
/-- Eight words: a hash value, or the working variables. -/
structure Words where
  a : Word
  b : Word
  c : Word
  d : Word
  e : Word
  f : Word
  g : Word
  h : Word
deriving DecidableEq
def Words.toList (words : Words) : List Word :=
  [words.a, words.b, words.c, words.d, words.e, words.f, words.g, words.h]
/-- The first thirty-two bits of the fractional parts of the square roots of the first eight primes. -/
def H0 : Words := ⟨0x6a09e667, 0xbb67ae85, 0x3c6ef372, 0xa54ff53a, 0x510e527f, 0x9b05688c, 0x1f83d9ab, 0x5be0cd19⟩

/-! ### Padding (5.1.1) -/

/-- A number in some bytes, the most significant first. -/
def beBytes : Nat → Nat → List UInt8
  | 0, _ => []
  | size + 1, value => beBytes size (value / 256) ++ [UInt8.ofNat value]
def beNat (bytes : List UInt8) : Nat := bytes.foldl (fun value byte => value * 256 + byte.toNat) 0
/-- The zero bytes between the byte that begins with the one bit and the eight of the length. -/
def zeros (length : Nat) : Nat := (119 - length % 64) % 64
def pad (message : List UInt8) : List UInt8 :=
  message ++ 0x80 :: (List.replicate (zeros message.length) 0 ++ beBytes 8 (8 * message.length))

/-! ### Hash computation (6.2.2) -/

/-- A word of the padded message. -/
def wordAt (bytes : List UInt8) (offset : Nat) : Word := BitVec.ofNat 32 (beNat ((bytes.drop offset).take 4))
/-- The first words of the message schedule of a block. -/
def schedule (block : Nat → Word) : Nat → List Word
  | 0 => []
  | t + 1 =>
    let W := schedule block t
    W ++ [if t < 16 then block t
      else sigma1 (W.getD (t - 2) 0) + W.getD (t - 7) 0 + sigma0 (W.getD (t - 15) 0) + W.getD (t - 16) 0]
def round (work : Words) (k w : Word) : Words :=
  let T1 := work.h + bigSigma1 work.e + Ch work.e work.f work.g + k + w
  let T2 := bigSigma0 work.a + Maj work.a work.b work.c
  ⟨T1 + T2, work.a, work.b, work.c, work.d + T1, work.e, work.f, work.g⟩
def rounds (work : Words) (W : List Word) : Words :=
  (List.range 64).foldl (fun work t => round work (K.getD t 0) (W.getD t 0)) work
def compress (hash : Words) (block : Nat → Word) : Words :=
  let work := rounds hash (schedule block 64)
  ⟨work.a + hash.a, work.b + hash.b, work.c + hash.c, work.d + hash.d, work.e + hash.e, work.f + hash.f, work.g + hash.g,
    work.h + hash.h⟩
def hashOf (padded : List UInt8) (blocks : Nat) : Words :=
  (List.range blocks).foldl (fun hash i => compress hash (fun t => wordAt padded (64 * i + 4 * t))) H0
def sha256 (message : List UInt8) : List UInt8 :=
  (hashOf (pad message) ((pad message).length / 64)).toList.flatMap (fun word => beBytes 4 word.toNat)

/-- The message "abc" of the standard's own example. -/
example : sha256 [0x61, 0x62, 0x63] = [
    0xba, 0x78, 0x16, 0xbf, 0x8f, 0x01, 0xcf, 0xea, 0x41, 0x41, 0x40, 0xde, 0x5d, 0xae, 0x22, 0x23,
    0xb0, 0x03, 0x61, 0xa3, 0x96, 0x17, 0x7a, 0x9c, 0xb4, 0x10, 0xff, 0x61, 0xf2, 0x00, 0x15, 0xad] := by
  decide +kernel

/-! ### Where the constants come from -/

theorem firstBits_of_all {degree : Nat} {numbers : List Nat} {words : List Word} (sizes : numbers.length = words.length)
    (all : (numbers.zip words).all (fun (number, word) => (List.range 7).any fun whole =>
      decide ((whole * 2 ^ 32 + word.toNat) ^ degree ≤ number * 2 ^ (32 * degree)) &&
        decide (number * 2 ^ (32 * degree) < (whole * 2 ^ 32 + word.toNat + 1) ^ degree)) = true) :
    List.Forall₂ (FirstBits degree) numbers words := by
  rw [List.forall₂_iff_zip]
  refine ⟨sizes, fun {number word} paired => ?_⟩
  obtain ⟨whole, _, found⟩ := List.any_eq_true.mp (List.all_eq_true.mp all _ paired)
  rw [Bool.and_eq_true, decide_eq_true_eq, decide_eq_true_eq] at found
  exact ⟨whole, found⟩
theorem K_bits : List.Forall₂ (FirstBits 3) primes K := firstBits_of_all rfl (by decide +kernel)
theorem H0_bits : List.Forall₂ (FirstBits 2) (primes.take 8) H0.toList := firstBits_of_all rfl (by decide +kernel)

/-! ### Bytes -/

@[simp] theorem length_beBytes (size value : Nat) : (beBytes size value).length = size := by
  induction size generalizing value with
  | zero => rfl
  | succ size ih => rw [beBytes, List.length_append, ih, List.length_singleton]
theorem beNat_concat (bytes : List UInt8) (byte : UInt8) : beNat (bytes ++ [byte]) = beNat bytes * 256 + byte.toNat := by
  rw [beNat, List.foldl_append]
  rfl
/-- Writing a number drops what does not fit. -/
theorem beNat_beBytes (size value : Nat) : beNat (beBytes size value) = value % 256 ^ size := by
  induction size generalizing value with
  | zero => rw [Nat.pow_zero, Nat.mod_one]; rfl
  | succ size ih =>
    have split : value % 256 ^ (size + 1) = value % 256 + 256 * (value / 256 % 256 ^ size) := by
      rw [Nat.pow_succ, Nat.mul_comm, Nat.mod_mul]
    rw [beBytes, beNat_concat, ih, UInt8.toNat_ofNat', split]
    omega
theorem beNat_lt (bytes : List UInt8) : beNat bytes < 256 ^ bytes.length := by
  induction bytes using List.reverseRecOn with
  | nil => decide
  | append_singleton bytes byte ih =>
    have small := byte.toNat_lt
    rw [beNat_concat, List.length_append, List.length_singleton, Nat.pow_succ]
    omega

/-! ### What the padding is -/

/-- The padded message is whole blocks. -/
theorem zeros_fill (length : Nat) : (length + 1 + zeros length + 8) % 64 = 0 := by
  unfold zeros
  omega
/-- No fewer zeros would do. -/
theorem zeros_le {length fewer : Nat} (fill : (length + 1 + fewer + 8) % 64 = 0) : zeros length ≤ fewer := by
  unfold zeros
  omega
theorem length_pad (message : List UInt8) : (pad message).length = message.length + 1 + zeros message.length + 8 := by
  simp only [pad, List.length_append, List.length_cons, List.length_replicate, length_beBytes]
  omega

/-! ### The schedule, word by word -/

@[simp] theorem length_schedule (block : Nat → Word) (t : Nat) : (schedule block t).length = t := by
  induction t with
  | zero => rfl
  | succ t ih => rw [schedule, List.length_append, ih, List.length_singleton]
/-- The words that are there stay. -/
theorem schedule_getD {block : Nat → Word} {t n more : Nat} (inside : t < n) (less : n ≤ more) :
    (schedule block more).getD t 0 = (schedule block n).getD t 0 := by
  induction less with
  | refl => rfl
  | step less ih =>
    rw [schedule, List.getD_append _ _ _ _ (by rw [length_schedule]; exact Nat.lt_of_lt_of_le inside less)]
    exact ih
/-- `W_t`. -/
def scheduled (block : Nat → Word) (t : Nat) : Word := (schedule block (t + 1)).getD t 0
theorem schedule_succ (block : Nat → Word) (t : Nat) : schedule block (t + 1) = schedule block t ++ [scheduled block t] := by
  rw [scheduled, schedule, List.getD_append_right _ _ _ _ (Nat.le_of_eq (length_schedule block t)), length_schedule, Nat.sub_self]
  rfl
theorem schedule_getD_eq {block : Nat → Word} {t n : Nat} (inside : t < n) :
    (schedule block n).getD t 0 = scheduled block t :=
  schedule_getD (Nat.lt_succ_self t) inside
theorem scheduled_first {block : Nat → Word} {t : Nat} (first : t < 16) : scheduled block t = block t := by
  rw [scheduled, schedule, List.getD_append_right _ _ _ _ (Nat.le_of_eq (length_schedule block t)), length_schedule, Nat.sub_self, if_pos first]
  rfl
theorem scheduled_later {block : Nat → Word} {t : Nat} (later : 16 ≤ t) : scheduled block t =
    sigma1 (scheduled block (t - 2)) + scheduled block (t - 7) + sigma0 (scheduled block (t - 15)) +
      scheduled block (t - 16) := by
  rw [scheduled, schedule, List.getD_append_right _ _ _ _ (Nat.le_of_eq (length_schedule block t)), length_schedule, Nat.sub_self,
    if_neg (Nat.not_lt.mpr later), schedule_getD_eq (by omega), schedule_getD_eq (by omega), schedule_getD_eq (by omega),
    schedule_getD_eq (by omega)]
  rfl

end EquityGuard.Fips180
