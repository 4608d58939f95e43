import InlineEval.Text.Natural
import Mathlib.Data.List.Basic

/-! # Decimal digits of a number

A number is written with digits only and without a zero in front of them, and
reading the digits gives the number back as long as it fits 64 bits. What can
be read as a number is its digits, with at most zeros and a plus sign in front.
-/

namespace InlineEval.Text

theorem ofNat_ne_nil (n : Nat) : ofNat n ≠ [] := by
  have hpos : 0 < (ofNat n).length := Nat.length_toDigits_pos
  exact List.ne_nil_of_length_pos hpos

theorem isDigit_of_mem_ofNat {n : Nat} {c : Char} (hc : c ∈ ofNat n) : c.isDigit = true :=
  Nat.isDigit_of_mem_toDigits (by decide) (by decide) hc

theorem ofDigitChars_ofNat (n : Nat) : Nat.ofDigitChars 10 (ofNat n) 0 = n :=
  Nat.ofDigitChars_toDigits (by decide) (by decide)

theorem ofNat_injective : Function.Injective ofNat :=
  Function.LeftInverse.injective ofDigitChars_ofNat

/-- A larger number has no fewer digits. -/
theorem length_ofNat_le {m n : Nat} (hle : m ≤ n) : (ofNat m).length ≤ (ofNat n).length := by
  have hpos : 0 < (ofNat n).length := Nat.length_toDigits_pos
  have hbound : n < 10 ^ (ofNat n).length :=
    (Nat.length_toDigits_le_iff (by decide) hpos).mp (Nat.le_refl _)
  exact (Nat.length_toDigits_le_iff (by decide) hpos).mpr (Nat.lt_of_le_of_lt hle hbound)

/-- Only zero is written with a zero in front. -/
theorem head?_ofNat_ne_zero {n : Nat} (hn : n ≠ 0) : (ofNat n).head? ≠ some '0' := by
  induction n using Nat.strongRecOn with
  | _ n ih =>
      unfold ofNat at ih ⊢
      rw [Nat.toDigits_eq_if (by decide)]
      split
      next hsmall =>
        rw [List.head?_cons, ne_eq, Option.some.injEq]
        have hdigits : ∀ d < 10, d ≠ 0 → Nat.digitChar d ≠ '0' := by decide
        exact hdigits n hsmall hn
      next hlarge =>
        have hne : Nat.toDigits 10 (n / 10) ≠ [] := ofNat_ne_nil (n / 10)
        rw [List.head?_append_of_ne_nil _ hne]
        exact ih (n / 10) (by omega) (by omega)

/-! ## Numbers of 64 bits -/

/-- The digits of a number of 64 bits. There is at least one, and zeros may
come first. -/
structure IsDecimal (digits : Text) (n : Nat) : Prop where
  ne_nil : digits ≠ []
  isDigit : ∀ c ∈ digits, c.isDigit = true
  value_eq : Nat.ofDigitChars 10 digits 0 = n
  lt_bound : n < wordBound

/-- How a number of 64 bits may be given. -/
inductive IsNumber : Text → Nat → Prop
  | bare {digits : Text} {n : Nat} (hdigits : IsDecimal digits n) : IsNumber digits n
  | signed {digits : Text} {n : Nat} (hdigits : IsDecimal digits n) : IsNumber ('+' :: digits) n

/-- More digits make no smaller value. -/
theorem le_ofDigitChars (digits : Text) (value : Nat) :
    value ≤ Nat.ofDigitChars 10 digits value := by
  induction digits generalizing value with
  | nil => exact Nat.le_refl value
  | cons c rest ih =>
      rw [Nat.ofDigitChars_cons]
      have hmore := ih (10 * value + (c.toNat - '0'.toNat))
      omega

theorem digitsFrom_eq_ok {value : Nat} {digits : Text}
    (hdigits : ∀ c ∈ digits, c.isDigit = true)
    (hbound : Nat.ofDigitChars 10 digits value < wordBound) :
    digitsFrom value digits = .ok (Nat.ofDigitChars 10 digits value) := by
  induction digits generalizing value with
  | nil => rfl
  | cons c rest ih =>
      have hdigit : digit? c = some (c.toNat - '0'.toNat) := by
        rw [digit?, if_pos (hdigits c List.mem_cons_self)]
      rw [Nat.ofDigitChars_cons, Nat.mul_comm] at hbound ⊢
      have hfits := Nat.lt_of_le_of_lt (le_ofDigitChars rest _) hbound
      simp only [digitsFrom, hdigit, hfits, if_true]
      exact ih (fun d hd => hdigits d (List.mem_cons_of_mem c hd)) hbound

/-- Digits are read if their value, that of those before them included, fits 64
bits. -/
theorem digitsFrom_eq_ok_iff {value n : Nat} {digits : Text} (hvalue : value < wordBound) :
    digitsFrom value digits = .ok n ↔
      (∀ c ∈ digits, c.isDigit = true) ∧ Nat.ofDigitChars 10 digits value = n ∧ n < wordBound := by
  constructor
  · intro hread
    induction digits generalizing value with
    | nil =>
        cases hread
        exact ⟨fun c hc => (List.not_mem_nil hc).elim, rfl, hvalue⟩
    | cons c rest ih =>
        unfold digitsFrom digit? at hread
        by_cases hdigit : c.isDigit = true
        · rw [if_pos hdigit] at hread
          dsimp only at hread
          split at hread
          next hfits =>
            obtain ⟨hdigits, hresult, hbound⟩ := ih hfits hread
            refine ⟨List.forall_mem_cons.mpr ⟨hdigit, hdigits⟩, ?_, hbound⟩
            rw [Nat.ofDigitChars_cons, Nat.mul_comm]
            exact hresult
          next => cases hread
        · rw [if_neg hdigit] at hread
          cases hread
  · rintro ⟨hdigits, rfl, hbound⟩
    exact digitsFrom_eq_ok hdigits hbound

theorem digitsFrom_zero_eq_ok_iff {digits : Text} {n : Nat} (hne : digits ≠ []) :
    digitsFrom 0 digits = .ok n ↔ IsDecimal digits n := by
  rw [digitsFrom_eq_ok_iff (by decide)]
  exact ⟨fun h => ⟨hne, h.1, h.2.1, h.2.2⟩, fun h => ⟨h.isDigit, h.value_eq, h.lt_bound⟩⟩

/-- A text is read as a number if it is one of the ways to give that number. -/
theorem readNatural_eq_ok_iff {t : Text} {n : Nat} : readNatural t = .ok n ↔ IsNumber t n := by
  unfold readNatural
  constructor
  · intro hread
    split at hread
    next => cases hread
    next digits =>
      split at hread
      next => cases hread
      next hne =>
        rw [List.isEmpty_iff] at hne
        exact .signed ((digitsFrom_zero_eq_ok_iff hne).mp hread)
    next hne _ => exact .bare ((digitsFrom_zero_eq_ok_iff hne).mp hread)
  · intro hnumber
    cases hnumber with
    | bare hdigits =>
        -- The first digit is no plus sign.
        have hplus : ∀ rest, t ≠ '+' :: rest := by
          rintro rest rfl
          cases hdigits.isDigit '+' List.mem_cons_self
        split
        next => exact absurd rfl hdigits.ne_nil
        next rest => exact absurd rfl (hplus rest)
        next => exact (digitsFrom_zero_eq_ok_iff hdigits.ne_nil).mpr hdigits
    | @signed digits _ hdigits =>
        have hsome : digits.isEmpty = false := List.isEmpty_eq_false_iff.mpr hdigits.ne_nil
        simp only [hsome, Bool.false_eq_true, if_false]
        exact (digitsFrom_zero_eq_ok_iff hdigits.ne_nil).mpr hdigits

theorem digitsFrom_ofNat {n : Nat} (hn : n < wordBound) : digitsFrom 0 (ofNat n) = .ok n := by
  have hvalue := ofDigitChars_ofNat n
  rw [digitsFrom_eq_ok (fun c => isDigit_of_mem_ofNat) (by rwa [hvalue]), hvalue]

end InlineEval.Text
