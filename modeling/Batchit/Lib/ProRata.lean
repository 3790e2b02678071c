import Batchit.Lib.Store
import Mathlib.Tactic.Ring

/-! Splitting an amount in proportion to weights, each share rounded down. -/

namespace ProRata

variable {α : Type}

/-- The share of one weight out of a total, rounded down. -/
def share (amount total weight : Nat) : Nat := amount * weight / total

/-- The sum of the shares of a list of weights. -/
def shares (amount total : Nat) (weight : α → Nat) (entries : List α) : Nat :=
  (entries.map fun entry => share amount total (weight entry)).sum

/-- How many of the entries carry any weight. -/
def weighing (weight : α → Nat) (entries : List α) : Nat :=
  (entries.map fun entry => if weight entry = 0 then 0 else 1).sum

/-- Rounding down only ever loses, over any list of weights. -/
theorem shares_mul_le (amount total : Nat) (weight : α → Nat) (entries : List α) :
    shares amount total weight entries * total ≤ amount * (entries.map weight).sum := by
  induction entries with
  | nil => simp [shares]
  | cons entry rest ih =>
    -- One more entry adds its floor on the left and its exact part on the right.
    have floor : share amount total (weight entry) * total ≤ amount * weight entry :=
      Nat.div_mul_le_self _ _
    simp only [shares, List.map_cons, List.sum_cons, Nat.add_mul, Nat.mul_add] at ih ⊢
    omega

/-- Rounding loses less than one unit for each entry that carries weight. -/
theorem mul_le_shares_add (amount total : Nat) (positive : 0 < total) (weight : α → Nat)
    (entries : List α) :
    amount * (entries.map weight).sum
      ≤ shares amount total weight entries * total + weighing weight entries * (total - 1) := by
  induction entries with
  | nil => simp
  | cons entry rest ih =>
    -- The remainder of one division is below the total, and is zero for a zero weight.
    have exact : share amount total (weight entry) * total
        + amount * weight entry % total = amount * weight entry := by
      rw [Nat.mul_comm]
      exact Nat.div_add_mod _ _
    have remainder : amount * weight entry % total
        ≤ (if weight entry = 0 then 0 else 1) * (total - 1) := by
      split
      · rename_i nothing
        simp [nothing]
      · -- A remainder is at most one less than the divisor.
        have below := Nat.mod_lt (amount * weight entry) positive
        omega
    simp only [shares, weighing, List.map_cons, List.sum_cons, Nat.add_mul, Nat.mul_add] at ih ⊢
    omega

/-- Shares of weights that add up to the total never exceed the amount. -/
theorem shares_le {amount total : Nat} {weight : α → Nat} {entries : List α}
    (positive : 0 < total) (whole : (entries.map weight).sum = total) :
    shares amount total weight entries ≤ amount := by
  have bound := shares_mul_le amount total weight entries
  rw [whole] at bound
  exact Nat.le_of_mul_le_mul_right bound positive

/-- Weights that do not add up to zero are carried by some entry. -/
theorem weighing_pos {weight : α → Nat} {entries : List α}
    (heavy : 0 < (entries.map weight).sum) : 0 < weighing weight entries := by
  induction entries with
  | nil => simp at heavy
  | cons entry rest ih =>
    simp only [weighing, List.map_cons, List.sum_cons] at ih heavy ⊢
    -- Either this entry carries weight, or all of it is in the rest.
    split
    · rename_i nothing
      have tail := ih (by omega)
      omega
    · omega

/-- Weights that carry anything are shared short of their exact part by less than one each. -/
theorem mul_lt_shares_add (amount : Nat) {total : Nat} {weight : α → Nat} {entries : List α}
    (positive : 0 < total) (heavy : 0 < (entries.map weight).sum) :
    amount * (entries.map weight).sum
      < (shares amount total weight entries + weighing weight entries) * total := by
  have bound := mul_le_shares_add amount total positive weight entries
  have counted : 0 < weighing weight entries := weighing_pos heavy
  -- A full unit per weight is one more than the remainders can reach.
  have split : weighing weight entries * total
      = weighing weight entries * (total - 1) + weighing weight entries := by
    obtain ⟨rest, rfl⟩ : ∃ rest, total = rest + 1 := ⟨total - 1, by omega⟩
    rw [Nat.add_sub_cancel, Nat.mul_succ]
  rw [Nat.add_mul]
  omega

/-- Shares of weights that add up to the total fall short by less than one per weight. -/
theorem lt_shares_add {amount total : Nat} {weight : α → Nat} {entries : List α}
    (positive : 0 < total) (whole : (entries.map weight).sum = total) :
    amount < shares amount total weight entries + weighing weight entries := by
  -- The exact part of the whole total is the amount itself.
  have short := mul_lt_shares_add amount positive (whole.symm ▸ positive)
  rw [whole] at short
  exact Nat.lt_of_mul_lt_mul_right short

/-! ### One weight split over several entries -/

/-- Sharing the parts of a weight never beats sharing it whole. -/
theorem shares_le_share {amount total : Nat} (positive : 0 < total) (weight : α → Nat)
    (entries : List α) :
    shares amount total weight entries ≤ share amount total (entries.map weight).sum := by
  -- The exact part of the whole weight bounds what the rounded parts add up to.
  exact (Nat.le_div_iff_mul_le positive).mpr (shares_mul_le amount total weight entries)

/-- No more entries carry weight than there are entries. -/
theorem weighing_le (weight : α → Nat) (entries : List α) :
    weighing weight entries ≤ entries.length := by
  induction entries with
  | nil => simp [weighing]
  | cons entry rest ih =>
    simp only [weighing, List.map_cons, List.sum_cons, List.length_cons] at ih ⊢
    -- The newest entry counts for one at most.
    split
    · omega
    · omega

/-- Sharing a weight whole beats sharing its parts by less than one unit for each of them. -/
theorem share_le_shares_add {amount total : Nat} (positive : 0 < total) (weight : α → Nat)
    {entries : List α} (some : entries ≠ []) :
    share amount total (entries.map weight).sum
      ≤ shares amount total weight entries + (entries.length - 1) := by
  have counted := weighing_le weight entries
  have long : 0 < entries.length := List.length_pos_iff.mpr some
  by_cases heavy : 0 < (entries.map weight).sum
  · -- The parts fall short of the exact share by less than one unit each.
    have short : share amount total (entries.map weight).sum
        < shares amount total weight entries + weighing weight entries :=
      (Nat.div_lt_iff_lt_mul positive).mpr (mul_lt_shares_add amount positive heavy)
    omega
  · -- Without any weight there is nothing to share.
    have nothing : (entries.map weight).sum = 0 := by omega
    rw [nothing, share, Nat.mul_zero, Nat.zero_div]
    exact Nat.zero_le _

/-! ### A share of a share -/

/-- A share of an amount worth no more than its total is worth no more than its weight. -/
theorem share_mul_le {amount total weight units price : Nat} (positive : 0 < total)
    (worth : amount * price ≤ units * total) :
    share amount total weight * price ≤ units * weight := by
  -- Multiplied by the total, the share is at most the amount times the weight.
  have floor : share amount total weight * total ≤ amount * weight := Nat.div_mul_le_self _ _
  apply Nat.le_of_mul_le_mul_right _ positive
  calc share amount total weight * price * total
      = share amount total weight * total * price := by ring
    _ ≤ amount * weight * price := Nat.mul_le_mul_right price floor
    _ = amount * price * weight := by ring
    _ ≤ units * total * weight := Nat.mul_le_mul_right weight worth
    _ = units * weight * total := by ring

/-- Rounding a price over the total and again over one part costs the part at most one unit. -/
theorem share_le_share_share {total weight units price : Nat} (positive : 0 < total)
    (priced : 0 < price) (part : weight ≤ total) :
    share units price weight ≤ share (share units price total) total weight + 1 := by
  -- The first rounding loses less than one unit of the whole.
  have first : units * total < (share units price total + 1) * price :=
    Nat.lt_mul_of_div_lt (Nat.lt_succ_self _) priced
  generalize share units price total = amount at first ⊢
  -- The second loses less than one unit of the part.
  have second : amount * weight < (share amount total weight + 1) * total :=
    Nat.lt_mul_of_div_lt (Nat.lt_succ_self _) positive
  generalize share amount total weight = paid at second ⊢
  -- Together they lose less than two, since the part is no larger than the whole.
  have both : units * weight < (paid + 2) * price := by
    apply Nat.lt_of_mul_lt_mul_right (a := total)
    calc units * weight * total
        = units * total * weight := by ring
      _ ≤ (amount + 1) * price * weight := Nat.mul_le_mul_right weight first.le
      _ = (amount * weight + weight) * price := by ring
      _ < ((paid + 1) * total + total) * price :=
        Nat.mul_lt_mul_of_pos_right (Nat.add_lt_add_of_lt_of_le second part) priced
      _ = (paid + 2) * price * total := by ring
  exact Nat.le_of_lt_succ (Nat.div_lt_of_lt_mul (by rw [Nat.mul_comm price]; exact both))

end ProRata
