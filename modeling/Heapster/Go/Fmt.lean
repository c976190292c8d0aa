import Mathlib

set_option autoImplicit false

/-! # `fmt.Sprintf("%d:%d", major, minor)` and its inverse

The disk I/O extractors name an unnamed partition by `fmt.Sprintf("%d:%d", major, minor)`:
both `uint64`s in decimal, joined by a colon. `Nat.repr` renders the decimal digits (`toString`
on `Nat`), as Go's `%d` does for an unsigned value.

The key is a faithful encoding of the pair: `parseDColonD` reads it back (`parseDColonD_sprintf`),
because the digits of a number never contain the separator and `digitsValue` inverts
`Nat.toDigits`. Injectivity (`sprintfDColonD_inj`) is then a corollary of the round trip. -/

namespace Go

/-- `fmt.Sprintf("%d:%d", major, minor)` for two `uint64`s. -/
def sprintfDColonD (major minor : UInt64) : String :=
  toString major.toNat ++ ":" ++ toString minor.toNat

/-! ## Decimal digits -/

/-- The number a list of decimal digit characters spells, most significant digit first. -/
def digitsValue : List Char → Nat
  | [] => 0
  | d :: ds => (d.toNat - 48) * 10 ^ ds.length + digitsValue ds

theorem digitChar_value {k : Nat} (h : k < 10) : (Nat.digitChar k).toNat - 48 = k := by
  interval_cases k <;> rfl

theorem digitChar_ne_colon {k : Nat} (h : k < 10) : Nat.digitChar k ≠ ':' := by
  interval_cases k <;> decide

/-- The loop of `Nat.toDigits`, given enough fuel, prepends the digits of `n` to `ds`. -/
theorem digitsValue_toDigitsCore (f n : Nat) (ds : List Char) (h : n < f) :
    digitsValue (Nat.toDigitsCore 10 f n ds) = n * 10 ^ ds.length + digitsValue ds := by
  induction f generalizing n ds with
  | zero => omega
  | succ f ih =>
    have hd := digitChar_value (Nat.mod_lt n (by omega : 10 > 0))
    simp only [Nat.toDigitsCore]
    split
    · simp only [digitsValue, hd]
      rw [Nat.mod_eq_of_lt (by omega)]
    · rw [ih (n / 10) _ (by omega)]
      simp only [digitsValue, hd, List.length_cons, pow_succ]
      conv_rhs => rw [← Nat.div_add_mod n 10]
      ring

theorem colon_not_mem_toDigitsCore (f n : Nat) (ds : List Char) (h : ':' ∉ ds) :
    ':' ∉ Nat.toDigitsCore 10 f n ds := by
  induction f generalizing n ds with
  | zero => exact h
  | succ f ih =>
    have hd := digitChar_ne_colon (Nat.mod_lt n (by omega : 10 > 0))
    simp only [Nat.toDigitsCore]
    split
    · simp [h, hd.symm]
    · exact ih _ _ (by simp [h, hd.symm])

theorem digitsValue_repr (n : Nat) : digitsValue (toString n).toList = n := by
  simpa [Nat.toDigits, digitsValue] using digitsValue_toDigitsCore (n + 1) n [] (by omega)

theorem colon_not_mem_repr (n : Nat) : ':' ∉ (toString n).toList := by
  simpa [Nat.toDigits] using colon_not_mem_toDigitsCore (n + 1) n [] (by simp)

/-! ## The round trip -/

/-- Read a `"%d:%d"` key back: the digits before the first colon, and those after it. -/
def parseDColonD (s : String) : Nat × Nat :=
  (digitsValue (s.toList.takeWhile (· ≠ ':')),
    digitsValue (s.toList.dropWhile (· ≠ ':')).tail)

theorem toList_sprintfDColonD (major minor : UInt64) :
    (sprintfDColonD major minor).toList
      = (toString major.toNat).toList ++ ':' :: (toString minor.toNat).toList := by
  simp [sprintfDColonD]

/-- Every `"%d:%d"` key contains a colon, so it is never a device name without one. -/
theorem sprintfDColonD_ne_of_colon_not_mem {s : String} (h : ':' ∉ s.toList)
    (major minor : UInt64) :
    sprintfDColonD major minor ≠ s := by
  rintro rfl
  exact h (by rw [toList_sprintfDColonD]; simp)

theorem parseDColonD_sprintf (major minor : UInt64) :
    parseDColonD (sprintfDColonD major minor) = (major.toNat, minor.toNat) := by
  have hmajor : ∀ c ∈ (toString major.toNat).toList, decide (c ≠ ':') = true := fun c hc => by
    simp only [ne_eq, decide_eq_true_eq]
    rintro rfl
    exact colon_not_mem_repr _ hc
  rw [parseDColonD, toList_sprintfDColonD, List.takeWhile_append_of_pos hmajor,
    List.dropWhile_append_of_pos hmajor]
  simpa using ⟨digitsValue_repr major.toNat, digitsValue_repr minor.toNat⟩

/-- Two partitions get the same `"%d:%d"` key exactly when their major and minor numbers agree. -/
theorem sprintfDColonD_inj {a b c d : UInt64} :
    sprintfDColonD a b = sprintfDColonD c d ↔ (a, b) = (c, d) := by
  constructor
  · intro h
    have h' := congrArg parseDColonD h
    simp only [parseDColonD_sprintf, Prod.mk.injEq] at h'
    exact Prod.ext (UInt64.toNat.inj h'.1) (UInt64.toNat.inj h'.2)
  · rintro ⟨⟩
    rfl

/-- The key of the spec's example partition, major 8 and minor 1. -/
example : sprintfDColonD 8 1 = "8:1" := by decide

end Go
