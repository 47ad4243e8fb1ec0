import HttpGateway.Text.Ascii

/-!
# Decimal numerals

Numbers are written with the fewest digits and no sign, except that a negative integer has a minus
sign in front. Reading a written number gives it back.
-/

namespace HttpGateway.Decimal

/-- The digit of a number below ten. -/
def digit (n : Nat) : UInt8 := (48 + n).toUInt8

/-- The decimal digits of a number, without leading zeros. -/
def digits (n : Nat) : Bytes :=
  if n < 10 then [digit n] else digits (n / 10) ++ [digit (n % 10)]
termination_by n
decreasing_by omega

/-- The number written by a run of digits; the empty run and any other byte are refused. -/
def ofDigits? (s : Bytes) : Option Nat :=
  if s.isEmpty || !s.all Ascii.isDigit then none
  else some (s.foldl (fun n b ↦ 10 * n + (b.toNat - 48)) 0)

/-- The number written by digits after an optional plus sign, if it is below the bound. -/
def unsigned? (bound : Nat) (s : Bytes) : Option Nat :=
  let body := match s with
    | 43 :: rest => rest
    | _ => s
  (ofDigits? body).filter (· < bound)

/-- The decimal text of a number. -/
def text (n : Nat) : String := Ascii.text (digits n)

/-- The decimal bytes of an integer. -/
def intDigits : Int → Bytes
  | .ofNat n => digits n
  | .negSucc n => 45 :: digits (n + 1)

/-- The decimal text of an integer. -/
def intText (n : Int) : String := Ascii.text (intDigits n)

/-- A digit below ten is a digit byte of that value. -/
theorem toNat_digit {n : Nat} (h : n < 10) : (digit n).toNat = 48 + n := by
  simp [digit]; omega

/-- The digit of a number below ten is a digit. -/
theorem isDigit_digit {n : Nat} (h : n < 10) : Ascii.isDigit (digit n) = true := by
  simp only [Ascii.isDigit, Bool.and_eq_true, decide_eq_true_eq, UInt8.le_iff_toNat_le,
    toNat_digit h]
  exact ⟨by simp, by simp; omega⟩

/-- A numeral is not empty. -/
theorem digits_ne_nil (n : Nat) : digits n ≠ [] := by
  rw [digits]; split <;> simp

/-- A numeral holds digits only. -/
theorem all_digits (n : Nat) : (digits n).all Ascii.isDigit = true := by
  induction n using Nat.strongRecOn with
  | ind n ih =>
    rw [digits]
    split
    · next h => simp [isDigit_digit h]
    · next h =>
      rw [List.all_append, ih (n / 10) (by omega)]
      simp [isDigit_digit (Nat.mod_lt n (by decide))]

/-- Reading a numeral gives its number. -/
theorem ofDigits?_digits (n : Nat) : ofDigits? (digits n) = some n := by
  have value : (digits n).foldl (fun n b ↦ 10 * n + (b.toNat - 48)) 0 = n := by
    induction n using Nat.strongRecOn with
    | ind n ih =>
      rw [digits]
      split
      · next h => simp [toNat_digit h]
      · next h =>
        rw [List.foldl_append, ih (n / 10) (by omega)]
        simp [toNat_digit (Nat.mod_lt n (by decide))]
        omega
  simp [ofDigits?, digits_ne_nil, all_digits, value]

/-- A run of digits writes a number, with zeros in front or without. -/
inductive Writes : Bytes → Nat → Prop
  | one {d : Nat} : d < 10 → Writes [digit d] d
  | more {s : Bytes} {n d : Nat} : Writes s n → d < 10 → Writes (s ++ [digit d]) (10 * n + d)

/-- A digit byte is the digit of a number below ten. -/
theorem exists_digit_of_isDigit {b : UInt8} (h : Ascii.isDigit b = true) :
    b.toNat - 48 < 10 ∧ digit (b.toNat - 48) = b := by
  simp only [Ascii.isDigit, Bool.and_eq_true, decide_eq_true_eq, UInt8.le_iff_toNat_le] at h
  change 48 ≤ b.toNat ∧ b.toNat ≤ 57 at h
  have below : b.toNat - 48 < 10 := by omega
  refine ⟨below, UInt8.toNat_inj.mp ?_⟩
  rw [toNat_digit below]
  omega

/-- What writes a number is made of digits. -/
theorem Writes.all_isDigit {s : Bytes} {n : Nat} (h : Writes s n) : s.all Ascii.isDigit = true := by
  induction h with
  | one hd => rw [List.all_cons, isDigit_digit hd]; rfl
  | more _ hd ih => rw [List.all_append, ih, List.all_cons, isDigit_digit hd]; rfl

/-- The number of a run of digits is the one that it writes. -/
theorem ofDigits?_eq_some_iff {s : Bytes} {n : Nat} : ofDigits? s = some n ↔ Writes s n := by
  -- Digits are read from the left, so the induction is on those to come.
  have further : ∀ {t : Bytes} {m : Nat} {s : Bytes}, Writes t m → s.all Ascii.isDigit = true →
      Writes (t ++ s) (s.foldl (fun n b ↦ 10 * n + (b.toNat - 48)) m) := by
    intro t m s ht hs
    induction s generalizing t m with
    | nil => rwa [List.append_nil]
    | cons b s ih =>
      rw [List.all_cons, Bool.and_eq_true] at hs
      obtain ⟨below, hb⟩ := exists_digit_of_isDigit hs.1
      have longer := ih (ht.more below) hs.2
      rwa [hb, List.append_assoc] at longer
  constructor
  · intro h
    unfold ofDigits? at h
    split at h
    · cases h
    · next legal =>
      cases h
      cases s with
      | nil => exact absurd rfl legal
      | cons b s =>
        have digits_ : Ascii.isDigit b = true ∧ s.all Ascii.isDigit = true := by simpa using legal
        obtain ⟨below, hb⟩ := exists_digit_of_isDigit digits_.1
        have first := Writes.one below
        rw [hb] at first
        simpa using further first digits_.2
  · intro h
    have some_ : s.isEmpty = false := by cases h <;> simp
    have value : s.foldl (fun n b ↦ 10 * n + (b.toNat - 48)) 0 = n := by
      clear some_
      induction h with
      | one hd => simp [toNat_digit hd]
      | more _ hd ih =>
        rw [List.foldl_append, ih, List.foldl_cons, List.foldl_nil, toNat_digit hd]
        omega
    rw [ofDigits?, some_, h.all_isDigit, value]
    rfl

/-- A numeral is a run of digits, with a plus sign in front or without. -/
def IsNumeral (s : Bytes) (n : Nat) : Prop :=
  Writes s n ∨ ∃ run, s = Ascii.byte '+' :: run ∧ Writes run n

/-- What is read as a number below a bound are the numerals of such numbers. -/
theorem unsigned?_eq_some_iff {bound n : Nat} {s : Bytes} :
    unsigned? bound s = some n ↔ IsNumeral s n ∧ n < bound := by
  unfold unsigned? IsNumeral
  rw [Option.filter_eq_some_iff, decide_eq_true_eq, ofDigits?_eq_some_iff]
  refine and_congr_left fun _ ↦ ?_
  split
  · next run =>
    constructor
    · exact fun h ↦ .inr ⟨run, rfl, h⟩
    · rintro (h | ⟨_, hs, h⟩)
      · have sign := h.all_isDigit
        rw [List.all_cons] at sign
        cases sign
      · cases hs
        exact h
  · next unsigned =>
    constructor
    · exact .inl
    · rintro (h | ⟨run, hs, -⟩)
      · exact h
      · exact absurd hs (unsigned run)

end HttpGateway.Decimal
