import Mathlib.Data.UInt

/-! Checked fixed-width arithmetic, read through the natural numbers and integers it stands for. -/

/-- The sum of two 64-bit words, or nothing when it does not fit. -/
def UInt64.checkedAdd (a b : UInt64) : Option UInt64 :=
  if a.toNat + b.toNat < 2 ^ 64 then some (a + b) else none

/-- The difference of two 64-bit words, or nothing when it is negative. -/
def UInt64.checkedSub (a b : UInt64) : Option UInt64 :=
  if b.toNat ≤ a.toNat then some (a - b) else none

/-- The difference of two 64-bit words, or zero when it is negative. -/
def UInt64.saturatingSub (a b : UInt64) : UInt64 :=
  if b.toNat ≤ a.toNat then a - b else 0

/-- The sum of two 32-bit words, or nothing when it does not fit. -/
def UInt32.checkedAdd (a b : UInt32) : Option UInt32 :=
  if a.toNat + b.toNat < 2 ^ 32 then some (a + b) else none

/-- The sum of two signed 64-bit words, or nothing when it does not fit. -/
def Int64.checkedAdd (a b : Int64) : Option Int64 :=
  if -2 ^ 63 ≤ a.toInt + b.toInt ∧ a.toInt + b.toInt < 2 ^ 63 then some (a + b) else none

/-- A checked sum succeeds with exactly the word standing for the sum. -/
theorem UInt64.checkedAdd_eq_some {a b c : UInt64} :
    a.checkedAdd b = some c ↔ c.toNat = a.toNat + b.toNat := by
  -- A word below the modulus is determined by the number it stands for.
  have width := c.toNat_lt
  unfold UInt64.checkedAdd
  split
  · rename_i fits
    rw [Option.some.injEq, ← UInt64.toNat_inj, UInt64.toNat_add, Nat.mod_eq_of_lt fits, eq_comm]
  · simp only [reduceCtorEq, false_iff]
    omega

/-- A checked difference succeeds with exactly the word that adds back to the minuend. -/
theorem UInt64.checkedSub_eq_some {a b c : UInt64} :
    a.checkedSub b = some c ↔ c.toNat + b.toNat = a.toNat := by
  -- Where it is not negative, the difference of the words is that of their numbers.
  unfold UInt64.checkedSub
  split
  · rename_i fits
    rw [Option.some.injEq, ← UInt64.toNat_inj,
      UInt64.toNat_sub_of_le _ _ (UInt64.le_iff_toNat_le.mpr fits)]
    omega
  · simp only [reduceCtorEq, false_iff]
    omega

/-- A saturating difference is the truncated difference of natural numbers. -/
@[simp] theorem UInt64.toNat_saturatingSub (a b : UInt64) :
    (a.saturatingSub b).toNat = a.toNat - b.toNat := by
  -- Both sides are zero exactly when the difference would be negative.
  unfold UInt64.saturatingSub
  split
  · rename_i fits
    exact UInt64.toNat_sub_of_le _ _ (UInt64.le_iff_toNat_le.mpr fits)
  · rw [UInt64.toNat_zero]
    omega

/-- A checked 32-bit sum succeeds with exactly the word standing for the sum. -/
theorem UInt32.checkedAdd_eq_some {a b c : UInt32} :
    a.checkedAdd b = some c ↔ c.toNat = a.toNat + b.toNat := by
  -- A word below the modulus is determined by the number it stands for.
  have width := c.toNat_lt
  unfold UInt32.checkedAdd
  split
  · rename_i fits
    rw [Option.some.injEq, ← UInt32.toNat_inj, UInt32.toNat_add, Nat.mod_eq_of_lt fits, eq_comm]
  · simp only [reduceCtorEq, false_iff]
    omega

/-- A checked signed sum succeeds with exactly the word standing for the sum. -/
theorem Int64.checkedAdd_eq_some {a b c : Int64} :
    a.checkedAdd b = some c ↔ c.toInt = a.toInt + b.toInt := by
  -- The bounds of the result decide whether the sum is in range.
  have upper := c.toInt_lt
  have lower := c.le_toInt
  unfold Int64.checkedAdd
  split
  · rename_i fits
    -- Inside the signed range the balanced remainder is the sum itself.
    have exact : (a.toInt + b.toInt).bmod (2 ^ 64) = a.toInt + b.toInt :=
      Int.bmod_eq_of_le (by omega) (by omega)
    rw [Option.some.injEq, ← Int64.toInt_inj, Int64.toInt_add, exact, eq_comm]
  · simp only [reduceCtorEq, false_iff]
    omega

/-- A sum that fits is the sum its checked form succeeds with. -/
theorem UInt64.checkedAdd_of_lt {a b : UInt64} (fits : a.toNat + b.toNat < 2 ^ 64) :
    ∃ c, a.checkedAdd b = some c ∧ c.toNat = a.toNat + b.toNat :=
  ⟨a + b, if_pos fits, by rw [UInt64.toNat_add, Nat.mod_eq_of_lt fits]⟩

/-- A difference that is not negative is the one its checked form succeeds with. -/
theorem UInt64.checkedSub_of_le {a b : UInt64} (fits : b.toNat ≤ a.toNat) :
    ∃ c, a.checkedSub b = some c ∧ c.toNat + b.toNat = a.toNat :=
  ⟨a - b, if_pos fits, by
    rw [UInt64.toNat_sub_of_le _ _ (UInt64.le_iff_toNat_le.mpr fits)]; omega⟩

/-- A sum of words that fits stands for the sum of their numbers. -/
theorem UInt64.toNat_add_of_fits {a b : UInt64} (fits : a.toNat + b.toNat < 2 ^ 64) :
    (a + b).toNat = a.toNat + b.toNat := by
  rw [UInt64.toNat_add, Nat.mod_eq_of_lt fits]

/-- A difference of words that is not negative adds back to what it was taken from. -/
theorem UInt64.toNat_sub_add_cancel {a b : UInt64} (fits : b.toNat ≤ a.toNat) :
    (a - b).toNat + b.toNat = a.toNat := by
  rw [UInt64.toNat_sub_of_le _ _ (UInt64.le_iff_toNat_le.mpr fits)]
  omega

/-- A number cut down to a signed word is cut down to the unsigned word of the same bits. -/
theorem Int64.toUInt64_ofInt (value : Int) : (Int64.ofInt value).toUInt64 = UInt64.ofInt value := by
  apply UInt64.toBitVec_inj.mp
  change BitVec.ofInt 64 value = BitVec.ofNat 64 _
  -- Both bit patterns are the remainder by the number of words.
  apply BitVec.eq_of_toNat_eq
  rw [BitVec.toNat_ofInt, BitVec.toNat_ofNat]
  omega
