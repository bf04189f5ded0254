import Mathlib.Data.Nat.Digits.Defs

/-!
# Digits of numbers

The digits of a number, most significant first, as they stand in a text: which characters they are, what number
they stand for, and where they end.
-/

set_option autoImplicit false

namespace QuicSessions.Text

/-! ## Where a run of characters ends -/

/-- What follows does not go on with characters of a kind. -/
def Stops (p : Char → Bool) (tail : List Char) : Prop := ∀ c rest, tail = c :: rest → p c = false

theorem stops_nil (p : Char → Bool) : Stops p [] := fun _ _ e => by cases e

theorem stops_cons {p : Char → Bool} {c : Char} (other : p c = false) (rest : List Char) : Stops p (c :: rest) :=
  fun _ _ e => by cases e; exact other

section Runs

variable {p : Char → Bool} {front tail : List Char}

theorem takeWhile_front (front_p : ∀ c ∈ front, p c = true) (stops : Stops p tail) :
    (front ++ tail).takeWhile p = front := by
  rw [List.takeWhile_append_of_pos front_p]
  cases tail with
  | nil => exact List.append_nil front
  | cons c rest => rw [List.takeWhile_cons_of_neg (by simp [stops c rest rfl]), List.append_nil]

theorem dropWhile_front (front_p : ∀ c ∈ front, p c = true) (stops : Stops p tail) :
    (front ++ tail).dropWhile p = tail := by
  rw [List.dropWhile_append_of_pos front_p]
  cases tail with
  | nil => rfl
  | cons c rest => exact List.dropWhile_cons_of_neg (by simp [stops c rest rfl])

end Runs

/-! ## The digits of a number -/

section Digits

variable {base : Nat}

theorem mem_toDigits (two : 1 < base) {n : Nat} {c : Char} (mem : c ∈ Nat.toDigits base n) :
    ∃ d, d < base ∧ c = d.digitChar := by
  induction n using Nat.strongRecOn with
  | ind n ih =>
    rw [Nat.toDigits_eq_if two] at mem
    split at mem
    · rename_i small
      exact ⟨n, small, List.mem_singleton.1 mem⟩
    · rename_i large
      obtain mem | mem := List.mem_append.1 mem
      · exact ih (n / base) (Nat.div_lt_self (by omega) two) mem
      · exact ⟨n % base, Nat.mod_lt n (by omega), List.mem_singleton.1 mem⟩

theorem foldl_toDigits (two : 1 < base) {value : Char → Nat}
    (values : ∀ d, d < base → value d.digitChar = d) (n : Nat) :
    (Nat.toDigits base n).foldl (fun m c => m * base + value c) 0 = n := by
  induction n using Nat.strongRecOn with
  | ind n ih =>
    rw [Nat.toDigits_eq_if two]
    split
    · rename_i small
      show 0 * base + value n.digitChar = n
      rw [values n small, Nat.zero_mul, Nat.zero_add]
    · rename_i large
      rw [List.foldl_append, ih (n / base) (Nat.div_lt_self (by omega) two)]
      show n / base * base + value (n % base).digitChar = n
      rw [values _ (Nat.mod_lt n (by omega)), Nat.mul_comm]
      exact Nat.div_add_mod n base

theorem digitChar_eq_zero {d : Nat} (zero : d.digitChar = '0') : d = 0 := by
  have small : ∀ d < 16, d.digitChar = '0' → d = 0 := by decide
  by_cases digit : d < 16
  · exact small d digit zero
  · simp [Nat.digitChar, show ∀ n < 16, d ≠ n by omega] at zero

/-- The digits of a positive number do not begin with a zero. -/
theorem toDigits_of_pos (two : 1 < base) {n : Nat} (positive : n ≠ 0) {rest : List Char} :
    Nat.toDigits base n ≠ '0' :: rest := by
  induction n using Nat.strongRecOn generalizing rest with
  | ind n ih =>
    rw [Nat.toDigits_eq_if two]
    split
    · intro e
      exact positive (digitChar_eq_zero (List.cons.inj e).1)
    · rename_i large
      have quotient : n / base ≠ 0 := Nat.div_ne_zero_iff.2 ⟨by omega, by omega⟩
      have less : n / base < n := Nat.div_lt_self (by omega) two
      -- The first digit is the first digit of the quotient, which is positive too.
      cases front : Nat.toDigits base (n / base) with
      | nil => exact absurd front Nat.toDigits_ne_nil
      | cons c more =>
        intro e
        obtain ⟨rfl, -⟩ := List.cons.inj e
        exact ih (n / base) less quotient front

/-- Zero is the only number whose digits begin with a zero. -/
theorem toDigits_zero_cons (two : 1 < base) {n : Nat} {rest : List Char}
    (h : Nat.toDigits base n = '0' :: rest) : rest = [] := by
  by_cases zero : n = 0
  · rw [zero, Nat.toDigits_of_lt_base (by omega)] at h
    exact (List.cons.inj h).2.symm
  · exact absurd h (toDigits_of_pos two zero)

end Digits

end QuicSessions.Text
