import EntityProps.Text.Numeral
import Mathlib.Data.List.Basic

/-!
# Numerals and their values

The numeral of a number has this number as its value, in every base up to sixteen
(`numeralValue?_numeral`). It has no needless zero at its start.
-/

namespace EntityProps.Text

variable {base : Nat}

/-! ## Digits -/

theorem hexValue?_digitChar {v : Nat} (h : v < 16) : hexValue? (digitChar v) = some v := by
  revert v
  decide

theorem digitValue?_digitChar (hbase : base ≤ 16) {v : Nat} (hv : v < base) :
    digitValue? base (digitChar v) = some v := by
  rw [digitValue?, hexValue?_digitChar (Nat.lt_of_lt_of_le hv hbase)]
  simpa using hv

theorem numeralValue?_append_singleton {n v : Nat} {digits : List Char} {c : Char}
    (hdigits : numeralValue? base digits = some n) (hc : digitValue? base c = some v) :
    numeralValue? base (digits ++ [c]) = some (base * n + v) := by
  rw [numeralValue?] at hdigits ⊢
  rw [List.foldlM_append, hdigits]
  simp [hc]

/-- A number is the value of its digits. -/
theorem numeralValue?_numeral (h2 : 2 ≤ base) (h16 : base ≤ 16) (n : Nat) :
    numeralValue? base (numeral base n) = some n := by
  fun_induction numeral base n with
  | case1 n h =>
    have hn : n < base := by omega
    simpa [numeralValue?] using digitValue?_digitChar h16 hn
  | case2 n h ih =>
    have hmod : n % base < base := Nat.mod_lt n (by omega)
    rw [numeralValue?_append_singleton ih (digitValue?_digitChar h16 hmod), Nat.div_add_mod]

theorem exists_digit_of_mem_numeral (h2 : 2 ≤ base) {n : Nat} {c : Char}
    (hc : c ∈ numeral base n) : ∃ v < base, c = digitChar v := by
  fun_induction numeral base n with
  | case1 n h => exact ⟨n, by omega, List.mem_singleton.mp hc⟩
  | case2 n h ih =>
    rcases List.mem_append.mp hc with hc | hc
    · exact ih hc
    · exact ⟨n % base, Nat.mod_lt n (by omega), List.mem_singleton.mp hc⟩

theorem numeral_ne_nil (base n : Nat) : numeral base n ≠ [] := by
  rw [numeral]
  split <;> simp

/-- Only the number zero has a numeral that starts with a zero. -/
theorem eq_zero_of_head?_numeral (h2 : 2 ≤ base) (h16 : base ≤ 16) {n : Nat}
    (h : (numeral base n).head? = some '0') : n = 0 := by
  fun_induction numeral base n with
  | case1 n hn =>
    have hvalue := hexValue?_digitChar (v := n) (by omega)
    rw [List.head?_singleton, Option.some.injEq] at h
    rw [h] at hvalue
    exact (Option.some.inj hvalue).symm
  | case2 n hn ih =>
    rw [List.head?_append_of_ne_nil _ (numeral_ne_nil base (n / base))] at h
    have := Nat.div_pos (by omega : base ≤ n) (by omega)
    have := ih h
    omega

/-- An integer starts with its sign or with a digit. -/
theorem head_integer (n : Int) : ∃ c more, integer n = c :: more ∧
    (c = '-' ∨ ∃ v < 10, c = digitChar v) := by
  rw [integer]
  split
  · exact ⟨'-', _, rfl, Or.inl rfl⟩
  · obtain ⟨c, more, h⟩ := List.exists_cons_of_ne_nil (numeral_ne_nil 10 n.natAbs)
    have hc : c ∈ numeral 10 n.natAbs := by rw [h]; exact List.mem_cons_self
    exact ⟨c, more, h, Or.inr (exists_digit_of_mem_numeral (by decide) hc)⟩

end EntityProps.Text
