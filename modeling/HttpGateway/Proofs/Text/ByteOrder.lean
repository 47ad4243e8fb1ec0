import HttpGateway.Text.Utf8

/-!
# Texts in the order of their bytes

Texts are ordered by their characters, the first that differs deciding. Their bytes are in the same
order: of two characters the greater is written with a greater byte where the two first differ, and
none is written as the beginning of another.
-/

namespace HttpGateway.Utf8

variable {a b : UInt8} {u v : Bytes} {x y : Nat}

/-- The first byte decides if it differs. -/
theorem cons_lt_of_lt (h : a.toNat < b.toNat) : a :: u < b :: v :=
  List.cons_lt_cons_iff.mpr (.inl (UInt8.lt_iff_toNat_lt.mpr h))

/-- A byte that goes up with the quotients of two numbers decides; the rest decides where the
quotients are equal. -/
theorem cons_lt_of_quotients (n : Nat) (h : x < y) (front : x / n < y / n → a.toNat < b.toNat)
    (tie : x / n = y / n → a.toNat = b.toNat ∧ u < v) : a :: u < b :: v := by
  obtain lower | same := Nat.lt_or_eq_of_le (Nat.div_le_div_right (c := n) (Nat.le_of_lt h))
  · exact cons_lt_of_lt (front lower)
  · exact List.cons_lt_cons_iff.mpr (.inr ⟨UInt8.toNat_inj.mp (tie same).1, (tie same).2⟩)

/-- The continuation byte of the six lowest bits of a number. -/
def tail (n : Nat) : UInt8 := .ofNat (n % 64 + 128)

/-- A continuation byte holds six bits. -/
theorem toNat_tail (n : Nat) : (tail n).toNat = n % 64 + 128 := by
  unfold tail
  rw [UInt8.toNat_ofNat']
  omega

/-- One continuation byte tells numbers apart that differ in the six lowest bits only. -/
theorem tail_lt (h : x < y) (same : x / 64 = y / 64) (u v : Bytes) :
    tail x :: u < tail y :: v := by
  apply cons_lt_of_lt
  rw [toNat_tail, toNat_tail]
  omega

/-- Two continuation bytes tell numbers apart that differ in the twelve lowest bits only. -/
theorem two_tails_lt (h : x < y) (same : x / 4096 = y / 4096) (u v : Bytes) :
    tail (x / 64) :: tail x :: u < tail (y / 64) :: tail y :: v := by
  apply cons_lt_of_quotients 64 h
  all_goals rw [toNat_tail, toNat_tail]
  · omega
  · exact fun equal ↦ ⟨by omega, tail_lt h equal u v⟩

/-- Three continuation bytes tell numbers apart that differ in the eighteen lowest bits only. -/
theorem three_tails_lt (h : x < y) (same : x / 262144 = y / 262144) (u v : Bytes) :
    tail (x / 4096) :: tail (x / 64) :: tail x :: u <
      tail (y / 4096) :: tail (y / 64) :: tail y :: v := by
  apply cons_lt_of_quotients 4096 h
  all_goals rw [toNat_tail, toNat_tail]
  · omega
  · exact fun equal ↦ ⟨by omega, two_tails_lt h equal u v⟩

/-- Of two characters the lower is written with the lower bytes, whatever follows. The lengths are
told apart by the first byte. -/
theorem encodeChar_append_lt {c d : Char} (h : c < d) (u v : Bytes) :
    String.utf8EncodeChar c ++ u < String.utf8EncodeChar d ++ v := by
  have number : c.val.toNat < d.val.toNat := h
  have toNat_ofNat : ∀ n, (UInt8.ofNat n).toNat = n % 256 := fun n ↦ UInt8.toNat_ofNat'
  have valid : d.val.toNat < 0xd800 ∨ (0xdfff < d.val.toNat ∧ d.val.toNat < 0x110000) := d.valid
  unfold String.utf8EncodeChar
  dsimp only
  generalize c.val.toNat = x at *
  generalize d.val.toNat = y at *
  by_cases one : x ≤ 127
  · rw [if_pos one]
    repeat' split
    all_goals
      apply cons_lt_of_lt
      rw [toNat_ofNat, toNat_ofNat]
      omega
  rw [if_neg one, if_neg (show ¬ y ≤ 127 by omega)]
  by_cases two : x ≤ 2047
  · rw [if_pos two]
    by_cases two' : y ≤ 2047
    · rw [if_pos two']
      apply cons_lt_of_quotients 64 number
      · rw [toNat_ofNat, toNat_ofNat]
        omega
      · intro same
        exact ⟨by rw [same], tail_lt number same u v⟩
    · rw [if_neg two']
      repeat' split
      all_goals
        apply cons_lt_of_lt
        rw [toNat_ofNat, toNat_ofNat]
        omega
  rw [if_neg two, if_neg (show ¬ y ≤ 2047 by omega)]
  by_cases three : x ≤ 65535
  · rw [if_pos three]
    by_cases three' : y ≤ 65535
    · rw [if_pos three']
      apply cons_lt_of_quotients 4096 number
      · rw [toNat_ofNat, toNat_ofNat]
        omega
      · intro same
        exact ⟨by rw [same], two_tails_lt number same u v⟩
    · rw [if_neg three']
      apply cons_lt_of_lt
      rw [toNat_ofNat, toNat_ofNat]
      omega
  rw [if_neg three, if_neg (show ¬ y ≤ 65535 by omega)]
  apply cons_lt_of_quotients 262144 number
  · rw [toNat_ofNat, toNat_ofNat]
    omega
  · intro same
    exact ⟨by rw [same], three_tails_lt number same u v⟩

/-- Texts in their order are in the order of their bytes. -/
theorem encode_lt_encode {s t : String} (h : s < t) : encode s < encode t := by
  change s.toList < t.toList at h
  unfold encode
  generalize s.toList = a at h
  generalize t.toList = b at h
  induction h with
  | @nil c rest =>
    rw [List.flatMap_nil, List.flatMap_cons]
    cases first : String.utf8EncodeChar c with
    | nil =>
      have length := String.length_utf8EncodeChar c
      rw [first] at length
      exact absurd length (Nat.ne_of_lt (Char.utf8Size_pos c))
    | cons byte bytes => exact List.nil_lt_cons byte _
  | rel lower =>
    rw [List.flatMap_cons, List.flatMap_cons]
    exact encodeChar_append_lt lower _ _
  | cons _ ih =>
    rw [List.flatMap_cons, List.flatMap_cons]
    exact List.append_left_lt ih

end HttpGateway.Utf8
