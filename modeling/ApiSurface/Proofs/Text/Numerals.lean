import ApiSurface.Text.Digits
import Mathlib.Data.Nat.Digits.Defs
import Mathlib.Tactic.Ring

/-!
# Decimal numerals

A natural number is read from one or more decimal digits, with or without a plus sign in front,
and from nothing else (`readNatural?_eq_some_iff`).
-/

namespace ApiSurface.Text

def decimalDigit (c : Char) : Nat :=
  c.toNat - '0'.toNat

def decimalValue (digits : List Char) : Nat :=
  Nat.ofDigits 10 (digits.reverse.map decimalDigit)

theorem decimalValue_nil : decimalValue [] = 0 :=
  rfl

theorem decimalValue_cons (c : Char) (digits : List Char) :
    decimalValue (c :: digits) = decimalDigit c * 10 ^ digits.length + decimalValue digits := by
  simp only [decimalValue, List.reverse_cons, List.map_append, List.map_singleton,
    Nat.ofDigits_append, List.length_map, List.length_reverse, Nat.ofDigits_singleton]
  ring

def IsDecimal (cs : List Char) (value : Nat) : Prop :=
  ∃ digits, digits ≠ [] ∧ (∀ c ∈ digits, c.isDigit = true) ∧ (cs = digits ∨ cs = '+' :: digits) ∧
    value = decimalValue digits

/-! ## Reading -/

theorem digitValue?_of_isDigit {c : Char} (hdigit : c.isDigit = true) :
    digitValue? 10 c = some (decimalDigit c) := by
  have hbound : decimalDigit c < 10 := by
    simp only [Char.isDigit, Bool.and_eq_true, decide_eq_true_eq] at hdigit
    obtain ⟨-, hupper⟩ := hdigit
    have hupper : c.toNat ≤ 57 := hupper
    simp only [decimalDigit]
    change c.toNat - 48 < 10
    omega
  simp only [digitValue?, hdigit, if_true]
  simpa [Option.filter, decimalDigit] using hbound

theorem digitValue?_of_not_isDigit {c : Char} (hdigit : c.isDigit = false) :
    digitValue? 10 c = none := by
  rw [digitValue?, hdigit, if_neg Bool.false_ne_true]
  simp only [Option.filter_eq_none_iff]
  intro value hvalue
  split at hvalue
  · cases hvalue
    simp
  · split at hvalue
    · cases hvalue
      simp
    · cases hvalue

theorem valueAfter?_eq_some_iff {cs : List Char} {before value : Nat} :
    valueAfter? 10 before cs = some value ↔
      (∀ c ∈ cs, c.isDigit = true) ∧ value = before * 10 ^ cs.length + decimalValue cs := by
  induction cs generalizing before with
  | nil => simp [valueAfter?, decimalValue_nil, @eq_comm _ before]
  | cons c cs ih =>
      rw [valueAfter?]
      cases hdigit : c.isDigit with
      | false => simp [digitValue?_of_not_isDigit hdigit, hdigit]
      | true =>
          have hvalue : (before * 10 + decimalDigit c) * 10 ^ cs.length + decimalValue cs =
              before * 10 ^ (c :: cs).length + decimalValue (c :: cs) := by
            rw [decimalValue_cons, List.length_cons]
            ring
          simp [digitValue?_of_isDigit hdigit, ih, hdigit, hvalue]

theorem readNumeral?_eq_some_iff {cs : List Char} {value : Nat} :
    readNumeral? 10 cs = some value ↔
      cs ≠ [] ∧ (∀ c ∈ cs, c.isDigit = true) ∧ value = decimalValue cs := by
  cases cs with
  | nil => simp [readNumeral?]
  | cons c cs => simp [readNumeral?, valueAfter?_eq_some_iff]

theorem readNatural?_eq_some_iff {cs : List Char} {value : Nat} :
    readNatural? cs = some value ↔ IsDecimal cs value := by
  unfold readNatural?
  split
  · next rest =>
      rw [readNumeral?_eq_some_iff]
      constructor
      · rintro ⟨hne, hdigits, rfl⟩
        exact ⟨rest, hne, hdigits, .inr rfl, rfl⟩
      · rintro ⟨digits, hne, hdigits, hcs | hcs, rfl⟩
        · -- a plus sign is no digit
          have hplus := hdigits '+' (hcs ▸ List.mem_cons_self)
          exact absurd hplus (by decide)
        · cases hcs
          exact ⟨hne, hdigits, rfl⟩
  · next hplus =>
      rw [readNumeral?_eq_some_iff]
      constructor
      · rintro ⟨hne, hdigits, rfl⟩
        exact ⟨cs, hne, hdigits, .inl rfl, rfl⟩
      · rintro ⟨digits, hne, hdigits, rfl | rfl, rfl⟩
        · exact ⟨hne, hdigits, rfl⟩
        · exact absurd rfl (hplus digits)

end ApiSurface.Text
