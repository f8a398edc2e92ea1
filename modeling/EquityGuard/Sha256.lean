import EquityGuard.Fips180
import EquityGuard.IntegerRoot

/-!
The digest of the state package, computed on numbers that are doubles, against the standard.
-/
namespace EquityGuard.Sha256
open EquityGuard.Binary64 EquityGuard.Errors EquityGuard.Failures EquityGuard.Fips180 EquityGuard.IntegerRoot EquityGuard.JsonText EquityGuard.Loops

/-! ### Operators on whole numbers -/

/-- `left + right`. -/
def add (left right : Int) : Int := toDouble (left + right)
/-- What the bitwise operators read of a number. -/
def toInt32 (value : Int) : Word := BitVec.ofInt 32 value
/-- `left & right`, as are the next ones a signed number. -/
def bitAnd (left right : Int) : Int := (toInt32 left &&& toInt32 right).toInt
/-- `left | right`. -/
def bitOr (left right : Int) : Int := (toInt32 left ||| toInt32 right).toInt
/-- `left ^ right`. -/
def bitXor (left right : Int) : Int := (toInt32 left ^^^ toInt32 right).toInt
/-- `~value`. -/
def bitNot (value : Int) : Int := (~~~toInt32 value).toInt
/-- `value << count`. -/
def shl (value : Int) (count : Nat) : Int := (toInt32 value <<< (count % 32)).toInt
/-- `value >>> count`, not a signed number. -/
def shr (value : Int) (count : Nat) : Int := ((toInt32 value >>> (count % 32)).toNat : Int)

/-! ### Constants -/

/-- `left % right`, of the left's sign. -/
def bigRem (left right : Int) : Attempt Int := do
  refuse_if (right = 0) (.RangeError ["Division by zero"])
  return left.tmod right
def primesRound : Int × List Int → Attempt ((Int × List Int) ⊕ (Int × List Int)) :=
  whileRound (fun (_, out) => .ok (decide (out.length < 64))) (fun (n, out) => do
    let every ← out.allM fun p => do return decide ((← bigRem n p) ≠ 0)
    return (n + 1, if every then out ++ [n] else out))
def PRIMES (fuel : Nat) : Fueled Failure (List Int) := do
  let (_, out) ← forever primesRound fuel (2, [])
  return out
/-- What an element of a `Uint32Array` keeps of a number. -/
def toUint32 (value : Int) : Int := value % 2 ^ 32
/-- `Number(integerRoot(p << shift, degree) & MASK_32)`. -/
def fraction (shift : Nat) (degree p : Int) (fuel : Nat) : Fueled Failure Int := do
  return toDouble ((← integerRoot (p * 2 ^ shift) degree fuel) % 2 ^ 32)
def K (fuel : Nat) : Fueled Failure (List Int) := do
  let primes ← PRIMES fuel
  return (← primes.mapM (fraction 96 3 · fuel)).map toUint32
def H0 (fuel : Nat) : Fueled Failure (List Int) := do
  let primes ← PRIMES fuel
  return (← (primes.take 8).mapM (fraction 64 2 · fuel)).map toUint32

/-! ### The digest -/

def rotr (x : Int) (n : Nat) : Int := bitOr (shr x n) (shl x (32 - n))
/-- Bytes written over others; what is written is inside. -/
def overwrite (bytes : List UInt8) (offset : Nat) (written : List UInt8) : List UInt8 :=
  bytes.take offset ++ (written ++ bytes.drop (offset + written.length))
def padded (data : List UInt8) : List UInt8 :=
  let blocks := (data.length + 9 + 63) / 64
  let padded := List.replicate (blocks * 64) (0 : UInt8)
  let padded := overwrite padded 0 data
  let padded := padded.set data.length 0x80
  overwrite padded (padded.length - 8) (beBytes 8 (data.length * 8))
/-- `view.getUint32(offset, false)`. -/
def getUint32 (view : List UInt8) (offset : Nat) : Int := beNat ((view.drop offset).take 4)
def loadWord (view : List UInt8) (block : Nat) (w : List Int) (i : Nat) : List Int :=
  w.set i (toUint32 (getUint32 view (block + i * 4)))
def extendWord (w : List Int) (i : Nat) : List Int :=
  let a := w.getD (i - 15) 0
  let b := w.getD (i - 2) 0
  let s0 := bitXor (bitXor (rotr a 7) (rotr a 18)) (shr a 3)
  let s1 := bitXor (bitXor (rotr b 17) (rotr b 19)) (shr b 10)
  w.set i (toUint32 (shr (add (add (add (w.getD (i - 16) 0) s0) (w.getD (i - 7) 0)) s1) 0))
/-- The variables of the rounds. -/
structure Vars where
  a : Int
  b : Int
  c : Int
  d : Int
  e : Int
  f : Int
  g : Int
  hh : Int
def roundStep (K w : List Int) (vars : Vars) (i : Nat) : Vars :=
  let t1 := shr (add (add (add (add vars.hh (bitXor (bitXor (rotr vars.e 6) (rotr vars.e 11)) (rotr vars.e 25)))
    (bitXor (bitAnd vars.e vars.f) (bitAnd (bitNot vars.e) vars.g))) (K.getD i 0)) (w.getD i 0)) 0
  let t2 := shr (add (bitXor (bitXor (rotr vars.a 2) (rotr vars.a 13)) (rotr vars.a 22))
    (bitXor (bitXor (bitAnd vars.a vars.b) (bitAnd vars.a vars.c)) (bitAnd vars.b vars.c))) 0
  { hh := vars.g, g := vars.f, f := vars.e, e := shr (add vars.d t1) 0
    d := vars.c, c := vars.b, b := vars.a, a := shr (add t1 t2) 0 }
def blockStep (K : List Int) (view : List UInt8) (state : List Int × List Int) (block : Nat) : List Int × List Int :=
  let (h, w) := state
  let w := (List.range' 0 16).foldl (loadWord view block) w
  let w := (List.range' 16 48).foldl extendWord w
  let vars := (List.range' 0 64).foldl (roundStep K w)
    ⟨h.getD 0 0, h.getD 1 0, h.getD 2 0, h.getD 3 0, h.getD 4 0, h.getD 5 0, h.getD 6 0, h.getD 7 0⟩
  let sums := [vars.a, vars.b, vars.c, vars.d, vars.e, vars.f, vars.g, vars.hh]
  ((List.range' 0 8).foldl (fun h i => h.set i (toUint32 (shr (add (h.getD i 0) (sums.getD i 0)) 0))) h, w)
/-- `outView.setUint32(i * 4, h[i], false)` for each of the eight. -/
def output (h : List Int) : List UInt8 :=
  (List.range' 0 8).foldl (fun out i => overwrite out (i * 4) (beBytes 4 (toUint32 (h.getD i 0)).toNat)) (List.replicate 32 0)
/-- The call, with the constants of the module. -/
def digest (K H0 : List Int) (data : List UInt8) : List UInt8 :=
  let view := padded data
  let (h, _) := (List.range' 0 ((view.length + 63) / 64) 64).foldl (blockStep K view) (H0, List.replicate 64 0)
  output h
def sha256 (data : List UInt8) (fuel : Nat) : Fueled Failure (List UInt8) := do
  return digest (← K fuel) (← H0 fuel) data

/-! ### Numbers and words -/

/-- The number that an element of a `Uint32Array` holds for a word. -/
def unsigned (word : Word) : Int := word.toNat

@[simp] theorem toInt32_toInt (word : Word) : toInt32 word.toInt = word := BitVec.ofInt_toInt
@[simp] theorem toInt32_unsigned (word : Word) : toInt32 (unsigned word) = word := by
  rw [toInt32, unsigned, BitVec.ofInt_natCast, BitVec.ofNat_toNat, BitVec.setWidth_eq]
theorem unsigned_bounds (word : Word) : 0 ≤ unsigned word ∧ unsigned word < 2 ^ 32 := by
  have inside := word.isLt
  unfold unsigned
  omega
@[simp] theorem toUint32_unsigned (word : Word) : toUint32 (unsigned word) = unsigned word :=
  Int.emod_eq_of_lt (unsigned_bounds word).1 (unsigned_bounds word).2
theorem shr_unsigned (word : Word) {count : Nat} (inside : count < 32) :
    shr (unsigned word) count = unsigned (word >>> count) := by
  rw [shr, toInt32_unsigned, Nat.mod_eq_of_lt inside, unsigned]
theorem rotr_unsigned (word : Word) {count : Nat} (positive : 0 < count) (inside : count < 32) :
    rotr (unsigned word) count = (word.rotateRight count).toInt := by
  rw [rotr, bitOr, shr_unsigned word inside, shl, toInt32_unsigned, toInt32_unsigned, toInt32_toInt,
    Nat.mod_eq_of_lt (by omega), BitVec.rotateRight_def, Nat.mod_eq_of_lt inside]

/-- A sum so far: it is the word's modulo 2^32, and not so large that a double would round it. -/
def Holds (terms : Nat) (value : Int) (word : Word) : Prop := toInt32 value = word ∧ value.natAbs ≤ terms * 2 ^ 32

theorem Holds.unsigned (word : Word) : Holds 1 (unsigned word) word := by
  have bounds := unsigned_bounds word
  exact ⟨toInt32_unsigned word, by omega⟩
theorem Holds.signed (word : Word) : Holds 1 word.toInt word := by
  have least := word.le_toInt
  have greatest := @BitVec.toInt_lt _ word
  exact ⟨toInt32_toInt word, by omega⟩
theorem Holds.add {terms more : Nat} {left right : Int} {first second : Word} (one : Holds terms left first)
    (two : Holds more right second) (few : terms + more < 2 ^ 20 := by decide) :
    Holds (terms + more) (add left right) (first + second) := by
  obtain ⟨rfl, small⟩ := one
  obtain ⟨rfl, little⟩ := two
  have exact_sum : Sha256.add left right = left + right := toDouble_small (by omega)
  rw [exact_sum]
  exact ⟨BitVec.ofInt_add left right, by omega⟩
theorem Holds.truncated {terms : Nat} {value : Int} {word : Word} (sum : Holds terms value word) :
    shr value 0 = Sha256.unsigned word := by
  rw [← sum.1]
  rfl

/-! ### Rounds and schedule -/

/-- The variables that hold eight words. -/
def varsOf (work : Words) : Vars :=
  ⟨unsigned work.a, unsigned work.b, unsigned work.c, unsigned work.d, unsigned work.e, unsigned work.f, unsigned work.g,
    unsigned work.h⟩

theorem bigSigma0_eq (word : Word) : bitXor (bitXor (rotr (unsigned word) 2) (rotr (unsigned word) 13)) (rotr (unsigned word) 22) =
    (bigSigma0 word).toInt := by
  simp only [bitXor, rotr_unsigned, toInt32_toInt, bigSigma0, Nat.reduceLT]
theorem bigSigma1_eq (word : Word) : bitXor (bitXor (rotr (unsigned word) 6) (rotr (unsigned word) 11)) (rotr (unsigned word) 25) =
    (bigSigma1 word).toInt := by
  simp only [bitXor, rotr_unsigned, toInt32_toInt, bigSigma1, Nat.reduceLT]
theorem sigma0_eq (word : Word) : bitXor (bitXor (rotr (unsigned word) 7) (rotr (unsigned word) 18)) (shr (unsigned word) 3) =
    (sigma0 word).toInt := by
  simp only [bitXor, rotr_unsigned, shr_unsigned, toInt32_toInt, toInt32_unsigned, sigma0, Nat.reduceLT]
theorem sigma1_eq (word : Word) : bitXor (bitXor (rotr (unsigned word) 17) (rotr (unsigned word) 19)) (shr (unsigned word) 10) =
    (sigma1 word).toInt := by
  simp only [bitXor, rotr_unsigned, shr_unsigned, toInt32_toInt, toInt32_unsigned, sigma1, Nat.reduceLT]
theorem Ch_eq (x y z : Word) : bitXor (bitAnd (unsigned x) (unsigned y)) (bitAnd (bitNot (unsigned x)) (unsigned z)) =
    (Ch x y z).toInt := by
  simp only [bitXor, bitAnd, bitNot, toInt32_toInt, toInt32_unsigned, Ch]
theorem Maj_eq (x y z : Word) :
    bitXor (bitXor (bitAnd (unsigned x) (unsigned y)) (bitAnd (unsigned x) (unsigned z))) (bitAnd (unsigned y) (unsigned z)) =
      (Maj x y z).toInt := by
  simp only [bitXor, bitAnd, toInt32_toInt, toInt32_unsigned, Maj]

/-- The elements of an array that holds words. -/
theorem getD_unsigned (words : List Word) (i : Nat) : (words.map unsigned).getD i 0 = unsigned (words.getD i 0) :=
  List.getD_map words 0 unsigned
theorem roundStep_eq (constants W : List Word) (work : Words) (i : Nat) :
    roundStep (constants.map unsigned) (W.map unsigned) (varsOf work) i =
      varsOf (round work (constants.getD i 0) (W.getD i 0)) := by
  have t1 := (((((Holds.unsigned work.h).add (.signed (bigSigma1 work.e))).add (.signed (Ch work.e work.f work.g))).add
    (.unsigned (constants.getD i 0))).add (.unsigned (W.getD i 0))).truncated
  have t2 := ((Holds.signed (bigSigma0 work.a)).add (.signed (Maj work.a work.b work.c))).truncated
  simp only [roundStep, varsOf, bigSigma0_eq, bigSigma1_eq, Ch_eq, Maj_eq, getD_unsigned, t1, t2, Fips180.round]
  rw [((Holds.unsigned work.d).add (.unsigned _)).truncated, ((Holds.unsigned _).add (.unsigned _)).truncated]
theorem rounds_eq (W : List Word) (work : Words) :
    (List.range' 0 64).foldl (roundStep (Fips180.K.map unsigned) (W.map unsigned)) (varsOf work) =
      varsOf (rounds work W) := by
  refine @counted_keeps _ _ (fun i vars => vars =
    varsOf ((List.range i).foldl (fun work t => round work (Fips180.K.getD t 0) (W.getD t 0)) work)) _ _ _ ?_ _ rfl
  rintro i _ _ rfl
  rw [List.range_succ, List.foldl_append, Nat.zero_add, Nat.one_mul]
  exact roundStep_eq _ _ _ i

theorem getUint32_eq (view : List UInt8) (offset : Nat) : getUint32 view offset = unsigned (wordAt view offset) := by
  have four : ((view.drop offset).take 4).length ≤ 4 := List.length_take_le _ _
  have small : beNat ((view.drop offset).take 4) < 2 ^ 32 :=
    (beNat_lt _).trans_le (Nat.pow_le_pow_right (by decide) four)
  rw [getUint32, unsigned, wordAt, BitVec.toNat_ofNat, Nat.mod_eq_of_lt small]

section
variable {block : Nat → Word} {old : List Int} {i : Nat}

/-- The array while the schedule is written over what it held. -/
def written (block : Nat → Word) (old : List Int) (i : Nat) : List Int := (schedule block i).map unsigned ++ old.drop i

theorem written_getD {t : Nat} (before : t < i) : (written block old i).getD t 0 = unsigned (scheduled block t) := by
  rw [written, List.getD_append _ _ _ _ (by rwa [List.length_map, length_schedule]), getD_unsigned,
    schedule_getD_eq before]
theorem written_set (inside : i < old.length) :
    (written block old i).set i (unsigned (scheduled block i)) = written block old (i + 1) := by
  have here : ((schedule block i).map unsigned).length = i := by rw [List.length_map, length_schedule]
  rw [written, List.set_append_right _ _ (Nat.le_of_eq here), here, Nat.sub_self, List.drop_eq_getElem_cons inside,
    List.set_cons_zero, written, schedule_succ, List.map_append, List.append_assoc]
  rfl
theorem loadWord_eq {view : List UInt8} {offset : Nat} (room : old.length = 64) (first : i < 16) :
    loadWord view offset (written (fun t => wordAt view (offset + 4 * t)) old i) i =
      written (fun t => wordAt view (offset + 4 * t)) old (i + 1) := by
  rw [loadWord, getUint32_eq, toUint32_unsigned, Nat.mul_comm i 4, ← written_set (by omega), scheduled_first first]
theorem extendWord_eq (room : old.length = 64) (later : 16 ≤ i) (inside : i < 64) :
    extendWord (written block old i) i = written block old (i + 1) := by
  have sum := (((Holds.unsigned (scheduled block (i - 16))).add (.signed (sigma0 (scheduled block (i - 15))))).add
    (.unsigned (scheduled block (i - 7)))).add (.signed (sigma1 (scheduled block (i - 2))))
  have order : scheduled block (i - 16) + sigma0 (scheduled block (i - 15)) + scheduled block (i - 7) +
      sigma1 (scheduled block (i - 2)) = scheduled block i := by
    rw [scheduled_later later]
    ac_rfl
  simp only [extendWord]
  rw [written_getD (by omega), written_getD (by omega), written_getD (by omega), written_getD (by omega), sigma0_eq, sigma1_eq,
    sum.truncated, order, toUint32_unsigned, written_set (by omega)]
theorem schedule_eq {view : List UInt8} {offset : Nat} (room : old.length = 64) :
    (List.range' 16 48).foldl extendWord ((List.range' 0 16).foldl (loadWord view offset) old) =
      (schedule (fun t => wordAt view (offset + 4 * t)) 64).map unsigned := by
  have loaded : (List.range' 0 16).foldl (loadWord view offset) old =
      written (fun t => wordAt view (offset + 4 * t)) old 16 := by
    refine @counted_keeps _ _ (fun i w => w = written (fun t => wordAt view (offset + 4 * t)) old i) _ _ _ ?_ _ rfl
    rintro i first _ rfl
    rw [Nat.zero_add, Nat.one_mul, loadWord_eq room first]
  have extended : (List.range' 16 48).foldl extendWord (written (fun t => wordAt view (offset + 4 * t)) old 16) =
      written (fun t => wordAt view (offset + 4 * t)) old (16 + 48) := by
    refine @counted_keeps _ _ (fun i w => w = written (fun t => wordAt view (offset + 4 * t)) old (16 + i)) _ _ _ ?_ _ rfl
    rintro i inside _ rfl
    rw [Nat.one_mul, extendWord_eq room (by omega) (by omega), Nat.add_assoc]
  rw [loaded, extended, written, List.drop_eq_nil_of_le (by omega), List.append_nil]
end

/-! ### Blocks -/

theorem sums_eq (left right : Words) :
    (List.range' 0 8).foldl (fun h i => h.set i (toUint32 (shr (add (h.getD i 0) ((right.toList.map unsigned).getD i 0)) 0)))
      (left.toList.map unsigned) =
    (Words.mk (right.a + left.a) (right.b + left.b) (right.c + left.c) (right.d + left.d) (right.e + left.e)
      (right.f + left.f) (right.g + left.g) (right.h + left.h)).toList.map unsigned := by
  have each (x y : Word) : toUint32 (shr (add (unsigned x) (unsigned y)) 0) = unsigned (y + x) := by
    rw [((Holds.unsigned x).add (.unsigned y)).truncated, toUint32_unsigned, BitVec.add_comm]
  simp only [Words.toList, List.map_cons, List.map_nil, ← each]
  rfl
theorem blockStep_eq {view : List UInt8} {hash : Words} {w : List Int} {block : Nat} (room : w.length = 64) :
    blockStep (Fips180.K.map unsigned) view (hash.toList.map unsigned, w) block =
      ((compress hash (fun t => wordAt view (block + 4 * t))).toList.map unsigned,
        (schedule (fun t => wordAt view (block + 4 * t)) 64).map unsigned) := by
  have rounded := rounds_eq (schedule (fun t => wordAt view (block + 4 * t)) 64) hash
  have summed := sums_eq hash (rounds hash (schedule (fun t => wordAt view (block + 4 * t)) 64))
  simp only [blockStep, schedule_eq room]
  rw [Prod.mk.injEq]
  refine ⟨?_, rfl⟩
  rw [compress, ← summed]
  exact congrArg (fun vars : Vars => (List.range' 0 8).foldl (fun h i => h.set i (toUint32 (shr (add (h.getD i 0)
    ([vars.a, vars.b, vars.c, vars.d, vars.e, vars.f, vars.g, vars.hh].getD i 0)) 0))) (hash.toList.map unsigned)) rounded
theorem blocks_eq (view : List UInt8) (blocks : Nat) :
    ((List.range' 0 blocks 64).foldl (blockStep (Fips180.K.map unsigned) view)
      (Fips180.H0.toList.map unsigned, List.replicate 64 0)).1 = (hashOf view blocks).toList.map unsigned := by
  suffices kept : ((List.range' 0 blocks 64).foldl (blockStep (Fips180.K.map unsigned) view)
      (Fips180.H0.toList.map unsigned, List.replicate 64 0)).1 = (hashOf view blocks).toList.map unsigned ∧
      ((List.range' 0 blocks 64).foldl (blockStep (Fips180.K.map unsigned) view)
        (Fips180.H0.toList.map unsigned, List.replicate 64 0)).2.length = 64 from kept.1
  refine @counted_keeps _ _ (fun i (state : List Int × List Int) => state.1 = (hashOf view i).toList.map unsigned ∧
    state.2.length = 64) _ _ _ ?_ _ ⟨rfl, List.length_replicate⟩
  rintro i _ ⟨_, w⟩ ⟨rfl, room⟩
  rw [blockStep_eq room, Nat.zero_add]
  refine ⟨?_, by rw [List.length_map, length_schedule]⟩
  rw [hashOf, hashOf, List.range_succ, List.foldl_append]
  rfl
theorem output_eq (hash : Words) :
    output (hash.toList.map unsigned) = hash.toList.flatMap (fun word => beBytes 4 word.toNat) := by
  have each (word : Word) : word.toNat = (toUint32 (unsigned word)).toNat := by rw [toUint32_unsigned]; rfl
  simp only [each]
  rfl

/-! ### Padding -/

theorem overwrite_length (bytes : List UInt8) {offset : Nat} {old : List UInt8} (written : List UInt8)
    (front : bytes.length = offset) (same : old.length = written.length) (after : List UInt8) :
    overwrite (bytes ++ (old ++ after)) offset written = bytes ++ (written ++ after) := by
  rw [overwrite, List.take_left' front, ← same, ← List.append_assoc bytes old, List.drop_left' (by rw [List.length_append, front])]
theorem padded_eq (data : List UInt8) : padded data = pad data := by
  have whole : (data.length + 9 + 63) / 64 * 64 = data.length + (1 + (zeros data.length + 8)) := by
    unfold zeros
    omega
  have laid : List.replicate ((data.length + 9 + 63) / 64 * 64) (0 : UInt8) =
      [] ++ (List.replicate data.length 0 ++ (0 :: (List.replicate (zeros data.length) 0 ++ List.replicate 8 0))) := by
    rw [whole, List.replicate_add, List.replicate_add, List.replicate_add]
    rfl
  have begun : overwrite (List.replicate ((data.length + 9 + 63) / 64 * 64) (0 : UInt8)) 0 data =
      data ++ 0 :: (List.replicate (zeros data.length) 0 ++ List.replicate 8 0) := by
    rw [laid]
    exact overwrite_length [] data rfl List.length_replicate _
  have marked : (data ++ 0 :: (List.replicate (zeros data.length) 0 ++ List.replicate 8 0)).set data.length (0x80 : UInt8) =
      data ++ 0x80 :: List.replicate (zeros data.length) 0 ++ (List.replicate 8 0 ++ []) := by
    rw [List.set_append_right _ _ Nat.le.refl, Nat.sub_self, List.append_nil, List.append_assoc]
    rfl
  have last : (data ++ 0x80 :: List.replicate (zeros data.length) (0 : UInt8)).length =
      (data ++ 0x80 :: List.replicate (zeros data.length) 0 ++ (List.replicate 8 (0 : UInt8) ++ [])).length - 8 := by
    rw [List.append_nil, @List.length_append _ _ (List.replicate 8 0), List.length_replicate, Nat.add_sub_cancel]
  simp only [padded]
  rw [begun, marked, overwrite_length _ _ last (by rw [List.length_replicate, length_beBytes]), List.append_nil, Nat.mul_comm,
    List.append_assoc]
  rfl
theorem digest_eq (data : List UInt8) : digest (Fips180.K.map unsigned) (Fips180.H0.toList.map unsigned) data = Fips180.sha256 data := by
  have whole : ((pad data).length + 63) / 64 = (pad data).length / 64 := by
    have fill := zeros_fill data.length
    rw [length_pad]
    omega
  simp only [digest, padded_eq, blocks_eq, whole, output_eq]
  rfl

/-! ### The constants -/

theorem primes_ends : Ends PRIMES (primes.map fun p => (p : Int)) := by
  have found : forever primesRound 400 (2, []) = pure (312, primes.map fun p => (p : Int)) :=
    eq_pure_of_toOption (by decide +kernel)
  exact (Ends.enough found).bind (.pure _)
theorem fraction_ends {shift degree number : Nat} {word : Word} (bits : FirstBits (degree + 1) number word)
    (whole : shift = 32 * (degree + 1)) (positive : 0 < number) :
    Ends (fraction shift (degree + 1 : Nat) number) (unsigned word) := by
  obtain ⟨integer, low, high⟩ := bits
  have root : Nat.nthRoot (degree + 1) (number * 2 ^ shift) = integer * 2 ^ 32 + word.toNat :=
    Nat.nthRoot_eq_of_le_of_lt (whole ▸ low) (whole ▸ high)
  have ends := @integerRoot_ends (number * 2 ^ shift) degree (Nat.mul_pos positive (Nat.pow_pos (by decide)))
  have kept : ((integer * 2 ^ 32 + word.toNat : Nat) : Int) % 2 ^ 32 = unsigned word := by
    have inside := word.isLt
    unfold unsigned
    omega
  have bounds := unsigned_bounds word
  have rounded : toDouble (((integer * 2 ^ 32 + word.toNat : Nat) : Int) % 2 ^ 32) = unsigned word := by
    rw [kept, toDouble_small (by omega)]
  rw [root] at ends
  rw [← rounded]
  exact ends.bind (.pure _)
theorem fractions_end {shift degree : Nat} {numbers : List Nat} {words : List Word} (whole : shift = 32 * (degree + 1))
    (bits : List.Forall₂ (FirstBits (degree + 1)) numbers words) (positive : ∀ number ∈ numbers, 0 < number) :
    Ends (fun fuel => (numbers.map fun p => (p : Int)).mapM (fraction shift (degree + 1 : Nat) · fuel)) (words.map unsigned) := by
  refine Ends.mapM ?_
  rw [List.forall₂_map_left_iff, List.forall₂_map_right_iff]
  induction bits with
  | nil => exact .nil
  | cons head _ ih =>
    rw [List.forall_mem_cons] at positive
    exact .cons (fraction_ends head whole positive.1) (ih positive.2)
theorem toUint32_map (words : List Word) : (words.map unsigned).map toUint32 = words.map unsigned := by
  rw [List.map_map]
  exact List.map_congr_left fun word _ => toUint32_unsigned word
theorem K_ends : Ends K (Fips180.K.map unsigned) := by
  have fractions := @fractions_end 96 2 _ _ rfl K_bits (by decide)
  rw [← toUint32_map]
  exact primes_ends.bind (fractions.bind (.pure _))
theorem H0_ends : Ends H0 (Fips180.H0.toList.map unsigned) := by
  have fractions := @fractions_end 64 1 _ _ rfl H0_bits (by decide)
  rw [← toUint32_map]
  exact primes_ends.bind (fractions.bind (.pure _))

/-- The constants, the padding and the digest are those of the standard. -/
theorem sha256_standard (data : List UInt8) (short : data.length < 2 ^ 61) :
    Ends K (Fips180.K.map unsigned) ∧ Ends H0 (Fips180.H0.toList.map unsigned) ∧
    (∃ zeros length, padded data = data ++ 0x80 :: (List.replicate zeros 0 ++ length) ∧ (padded data).length % 64 = 0 ∧
      (∀ fewer, (data.length + 1 + fewer + 8) % 64 = 0 → zeros ≤ fewer) ∧ length.length = 8 ∧
      beNat length = 8 * data.length) ∧
    Ends (sha256 data) (Fips180.sha256 data) := by
  refine ⟨K_ends, H0_ends, ⟨zeros data.length, beBytes 8 (8 * data.length), padded_eq data, ?_, fun _ => zeros_le,
    length_beBytes _ _, ?_⟩, ?_⟩
  · rw [padded_eq, length_pad]
    exact zeros_fill data.length
  · rw [beNat_beBytes, Nat.mod_eq_of_lt (by omega)]
  · rw [← digest_eq]
    exact K_ends.bind (H0_ends.bind (.pure _))
theorem sha256_standard_abc : Ends K (Fips180.K.map unsigned) ∧ Ends H0 (Fips180.H0.toList.map unsigned) ∧
    (∃ zeros length, padded [0x61, 0x62, 0x63] = [0x61, 0x62, 0x63] ++ 0x80 :: (List.replicate zeros 0 ++ length) ∧
      (padded [0x61, 0x62, 0x63]).length % 64 = 0 ∧
      (∀ fewer, (3 + 1 + fewer + 8) % 64 = 0 → zeros ≤ fewer) ∧ length.length = 8 ∧
      beNat length = 8 * 3) ∧
    Ends (sha256 [0x61, 0x62, 0x63]) (Fips180.sha256 [0x61, 0x62, 0x63]) :=
  sha256_standard [0x61, 0x62, 0x63] (by decide)

end EquityGuard.Sha256
