import GraphClient.Json.Parser

/-!
# Reading the integers that were written

An integer is written in decimal digits without leading zeros. It is read back in front of anything
that no number goes on with, digit by digit and then as a whole.
-/

namespace GraphClient.Scan

open Text (Source Glyph)

/-- What a number does not go on with: neither a digit, nor a point, nor an exponent. -/
def EndsNumber (rest : List Char) : Prop :=
  ∀ c ∈ rest.head?, c.isDigit = false ∧ c ≠ '.' ∧ c ≠ 'e' ∧ c ≠ 'E'

theorem endsNumber_nil : EndsNumber [] := by
  intro c hc
  cases hc

/-- The digits in front of a text are read up to its first other character. -/
theorem digits_append {ds rest : List Char} (hds : ∀ c ∈ ds, c.isDigit = true)
    (hrest : EndsNumber rest) :
    digits (.ofChars (ds ++ rest)) = (ds.map fun c => c.toNat - 48, .ofChars rest) := by
  induction ds with
  | nil =>
    cases rest with
    | nil => rfl
    | cons c rest =>
      have hc : c.isDigit = false := (hrest c rfl).1
      simp [digits, hc]
  | cons c ds ih =>
    have hc : c.isDigit = true := hds c List.mem_cons_self
    have hrest := ih fun d hd => hds d (List.mem_cons_of_mem c hd)
    simp only [List.cons_append, Source.ofChars_cons, digits, hc, if_true, hrest, List.map_cons]

/-- Digits are taken in as long as the number they make fits. -/
theorem absorb_eq (ds : List Char) (m : Nat)
    (hfits : Nat.ofDigitChars 10 ds m < 18446744073709551616) :
    absorb m (ds.map fun c => c.toNat - 48) = (Nat.ofDigitChars 10 ds m, ds.length) := by
  induction ds generalizing m with
  | nil => simp [absorb]
  | cons c ds ih =>
    have hzero : '0'.toNat = 48 := rfl
    rw [Nat.ofDigitChars_cons, hzero] at hfits ⊢
    have hle : 10 * m + (c.toNat - 48) ≤ Nat.ofDigitChars 10 ds (10 * m + (c.toNat - 48)) := by
      rw [Nat.ofDigitChars_eq_ofDigitChars_zero]
      have hpow : 0 < 10 ^ ds.length := Nat.pow_pos (by decide)
      have := Nat.le_mul_of_pos_left (10 * m + (c.toNat - 48)) hpow
      omega
    have hnext : 10 * m + (c.toNat - 48) < 18446744073709551616 := Nat.lt_of_le_of_lt hle hfits
    simp only [List.map_cons, absorb, hnext, if_true, ih _ hfits, List.length_cons]

/-- A positive number does not begin with a zero. -/
theorem head_toDigits {n : Nat} (hn : 0 < n) {c : Char} {ds : List Char}
    (h : Nat.toDigits 10 n = c :: ds) : c.toNat - 48 ≠ 0 := by
  induction n using Nat.base_induction 10 (by decide) generalizing c ds with
  | single m hm =>
    rw [Nat.toDigits_of_lt_base hm] at h
    obtain ⟨rfl, -⟩ := List.cons.inj h
    rw [Nat.toNat_digitChar_sub_48_of_lt_ten hm]
    omega
  | digit m k hk hm ih =>
    rw [← Nat.toDigits_append_toDigits (by decide) hm hk] at h
    cases hd : Nat.toDigits 10 m with
    | nil => exact absurd hd Nat.toDigits_ne_nil
    | cons d es =>
      rw [hd] at h
      obtain ⟨rfl, -⟩ := List.cons.inj h
      exact ih hm hd

theorem exponent?_eq_none {rest : List Char} (hrest : EndsNumber rest) :
    exponent? (.ofChars rest) = none := by
  cases rest with
  | nil => rfl
  | cons c rest =>
    obtain ⟨-, -, he, hE⟩ := hrest c rfl
    simp only [Source.ofChars_cons]
    unfold exponent?
    split <;> simp_all

/-- A text of decimal digits is read as an integer, if that fits. -/
theorem number_toDigits (negative : Bool) {n : Nat} (hn : n < 18446744073709551616)
    {rest : List Char} (hrest : EndsNumber rest) :
    number negative (.ofChars (Nat.toDigits 10 n ++ rest)) = whole negative n (.ofChars rest) := by
  have hall : ∀ c ∈ Nat.toDigits 10 n, c.isDigit = true := fun c hc =>
    Nat.isDigit_of_mem_toDigits (by decide) (by decide) hc
  have habsorb := absorb_eq (Nat.toDigits 10 n) 0 (by rwa [Nat.ofDigitChars_ten_toDigits])
  have hdigits := digits_append hall hrest
  rw [Nat.ofDigitChars_ten_toDigits] at habsorb
  cases hd : Nat.toDigits 10 n with
  | nil => exact absurd hd Nat.toDigits_ne_nil
  | cons c ds =>
    have hlead : ds ≠ [] → c.toNat - 48 ≠ 0 := by
      intro hds
      apply head_toDigits ?_ hd
      rcases Nat.eq_zero_or_pos n with rfl | hpos
      · simp only [Nat.toDigits_zero, List.cons.injEq] at hd
        exact absurd hd.2.symm hds
      · exact hpos
    rw [hd] at hdigits habsorb
    unfold number
    rw [hdigits]
    split
    · rename_i heq
      simp at heq
    · rename_i heq
      cases ds with
      | nil => simp at heq
      | cons d es => simp [hlead] at heq
    · rename_i ds' rest' _ _ heq
      obtain ⟨rfl, rfl⟩ := Prod.mk.inj heq
      rw [habsorb]
      simp only [List.length_map, Nat.sub_self, if_true]
      split
      · rename_i rest' hpoint
        cases rest with
        | nil => cases hpoint
        | cons c' rest =>
          obtain ⟨rfl, -⟩ : c' = '.' ∧ _ := by simpa using hpoint
          exact absurd rfl (hrest '.' rfl).2.1
      · simp only [exponent?_eq_none hrest]

/-- A number that fits is an integer, with its sign. -/
theorem whole_eq {negative : Bool} {n : Nat} {m : Int}
    (hvalue : (if negative then -(n : Int) else n) = m) (fits : IsJsonInt m)
    (hzero : ¬(negative ∧ n = 0)) (rest : Source) :
    whole negative n rest = .ok (.int m fits, rest) := by
  subst hvalue
  exact dif_pos ⟨fits, hzero⟩

/-- The sign in front of an integer tells how its digits are taken. -/
theorem whole_natAbs {n : Int} (fits : IsJsonInt n) (rest : Source) :
    whole (decide (n < 0)) n.natAbs rest = .ok (.int n fits, rest) := by
  apply whole_eq
  · simp only [decide_eq_true_eq]
    split <;> omega
  · simp only [decide_eq_true_eq]
    omega

/-- The first character of an integer. -/
theorem writeInt_eq (n : Int) :
    (n < 0 ∧ Json.writeInt n = '-' :: Nat.toDigits 10 n.natAbs) ∨
      (¬n < 0 ∧ Json.writeInt n = Nat.toDigits 10 n.natAbs) := by
  by_cases hn : n < 0
  · exact .inl ⟨hn, by simp [Json.writeInt, Json.digitsOf, hn]⟩
  · exact .inr ⟨hn, by simp [Json.writeInt, Json.digitsOf, hn]⟩

/-- A digit in front makes a value a number. -/
theorem plainValue_digit {c : Char} (hc : c.isDigit = true) (src : Source) :
    plainValue (.char c :: src) = do
      let (n, rest) ← number false (.char c :: src)
      return (.number n, rest) := by
  have hne : ∀ d : Char, d.isDigit = false → c ≠ d := by
    rintro d hd rfl
    simp [hc] at hd
  unfold plainValue
  split
  · rename_i heq
    cases heq
  · rename_i heq
    cases heq
    exact absurd rfl (hne 'n' rfl)
  · rename_i heq
    cases heq
    exact absurd rfl (hne 't' rfl)
  · rename_i heq
    cases heq
    exact absurd rfl (hne 'f' rfl)
  · rename_i heq
    cases heq
    exact absurd rfl (hne '"' rfl)
  · rename_i heq
    cases heq
    exact absurd rfl (hne '-' rfl)
  · rename_i heq
    cases heq
    simp only [hc, if_true]
  · rename_i hother
    exact absurd rfl (hother c src)

/-- Reading the text of an integer gives the integer. -/
theorem plainValue_writeInt {n : Int} (fits : IsJsonInt n) {rest : List Char}
    (hrest : EndsNumber rest) :
    plainValue (.ofChars (Json.writeInt n ++ rest)) =
      .ok (.number (.int n fits), .ofChars rest) := by
  have hsmall : n.natAbs < 18446744073709551616 := by
    unfold IsJsonInt at fits
    omega
  have hwhole := whole_natAbs fits (.ofChars rest)
  rcases writeInt_eq n with ⟨hn, hw⟩ | ⟨hn, hw⟩
  · have hread := number_toDigits true hsmall hrest
    simp only [hn, decide_true] at hwhole
    rw [hw, List.cons_append, Source.ofChars_cons]
    unfold plainValue
    simp only [hread, hwhole]
    rfl
  · have hread := number_toDigits false hsmall hrest
    simp only [hn, decide_false] at hwhole
    rw [hw]
    cases hd : Nat.toDigits 10 n.natAbs with
    | nil => exact absurd hd Nat.toDigits_ne_nil
    | cons c ds =>
      have hmem : c ∈ Nat.toDigits 10 n.natAbs := by simp [hd]
      have hc : c.isDigit = true := Nat.isDigit_of_mem_toDigits (by decide) (by decide) hmem
      rw [hd, List.cons_append, Source.ofChars_cons] at hread
      rw [List.cons_append, Source.ofChars_cons, plainValue_digit hc, hread, hwhole]
      rfl

end GraphClient.Scan
