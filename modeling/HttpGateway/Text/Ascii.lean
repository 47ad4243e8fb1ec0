/-!
# Octet strings and ASCII text

Bodies, header values and metadata are octet strings, held as lists of bytes. The operations here
treat the bytes below 128 as ASCII and leave all others alone, which is what the header syntax of
HTTP asks for. The laws say that folding letters is idempotent, that splitting loses nothing and
that trimming only removes blanks.
-/

namespace HttpGateway

/-- An octet string. -/
abbrev Bytes := List UInt8

namespace Ascii

/-- The byte of an ASCII character. -/
def byte (c : Char) : UInt8 := c.toNat.toUInt8

/-- The bytes of an ASCII text. -/
def bytes (s : String) : Bytes := s.toList.map byte

/-- The text of ASCII bytes; a byte above 127 is read as the character of that number. -/
def text (b : Bytes) : String := String.ofList (b.map fun x ↦ Char.ofNat x.toNat)

/-- An upper-case letter. -/
def isUpper (b : UInt8) : Bool := 65 ≤ b && b ≤ 90

/-- A lower-case letter. -/
def isLower (b : UInt8) : Bool := 97 ≤ b && b ≤ 122

/-- A decimal digit. -/
def isDigit (b : UInt8) : Bool := 48 ≤ b && b ≤ 57

/-- A letter or a digit. -/
def isAlphanum (b : UInt8) : Bool := isUpper b || isLower b || isDigit b

/-- The space or the horizontal tab. -/
def isBlank (b : UInt8) : Bool := b == 32 || b == 9

/-- A byte with upper-case letters folded to lower case. -/
def lower (b : UInt8) : UInt8 := if isUpper b then b + 32 else b

/-- A string with upper-case letters folded to lower case. -/
def lowerAll (s : Bytes) : Bytes := s.map lower

/-- Equality up to the case of ASCII letters. -/
def eqIgnoreCase (a b : Bytes) : Bool := lowerAll a == lowerAll b

/-- The string without the blanks at its ends. -/
def trim (s : Bytes) : Bytes :=
  ((s.dropWhile isBlank).reverse.dropWhile isBlank).reverse

/-- The pieces between the occurrences of a separator; there is always at least one. -/
def splitOn (sep : UInt8) : Bytes → List Bytes
  | [] => [[]]
  | b :: rest =>
    if b = sep then [] :: splitOn sep rest
    else match splitOn sep rest with
      | [] => [[b]]
      | piece :: pieces => (b :: piece) :: pieces

/-- The part before the first separator, and the part after it if there is one. -/
def cut (sep : UInt8) : Bytes → Bytes × Option Bytes
  | [] => ([], none)
  | b :: rest =>
    if b = sep then ([], some rest)
    else
      let (before, after) := cut sep rest
      (b :: before, after)

/-- The pieces with a separator between neighbours. -/
def join (sep : Bytes) : List Bytes → Bytes
  | [] => []
  | [piece] => piece
  | piece :: pieces => piece ++ sep ++ join sep pieces

/-- What holds of the bytes of all numbers below 256 holds of every byte. -/
theorem forall_byte {p : UInt8 → Prop} (h : ∀ n < 256, p n.toUInt8) (b : UInt8) : p b := by
  have hb := h b.toNat b.toNat_lt_size
  rwa [Nat.toUInt8_eq, UInt8.ofNat_toNat] at hb

/-- Folding twice is folding once. -/
theorem lower_lower (b : UInt8) : lower (lower b) = lower b := by
  unfold lower
  split
  · next h =>
    have hb : isUpper (b + 32) = false := by
      simp only [isUpper, Bool.and_eq_true, decide_eq_true_eq] at h
      simp only [isUpper, Bool.and_eq_false_iff, decide_eq_false_iff_not]
      right
      have h1 : b.toNat ≤ 90 := by simpa [UInt8.le_iff_toNat_le] using h.2
      have h0 : 65 ≤ b.toNat := by simpa [UInt8.le_iff_toNat_le] using h.1
      rw [UInt8.le_iff_toNat_le, UInt8.toNat_add]
      simp
      omega
    simp [hb]
  · rfl

/-- A byte that is no upper-case letter is folded already. -/
theorem lower_of_not_isUpper {b : UInt8} (h : isUpper b = false) : lower b = b := by
  unfold lower
  rw [h]
  rfl

/-- Folding a folded string changes nothing. -/
theorem lowerAll_lowerAll (s : Bytes) : lowerAll (lowerAll s) = lowerAll s := by
  simp [lowerAll, lower_lower]

/-- Two strings are equal up to case exactly when their folded forms are equal. -/
theorem eqIgnoreCase_iff {a b : Bytes} : eqIgnoreCase a b = true ↔ lowerAll a = lowerAll b := by
  simp [eqIgnoreCase]

/-- What is left of a trimmed string was there before. -/
theorem mem_of_mem_trim {b : UInt8} {s : Bytes} (h : b ∈ trim s) : b ∈ s := by
  unfold trim at h
  have front := (List.dropWhile_sublist isBlank).mem (List.mem_reverse.mp h)
  exact (List.dropWhile_sublist isBlank).mem (List.mem_reverse.mp front)

/-- Splitting yields at least one piece. -/
theorem splitOn_ne_nil (sep : UInt8) (s : Bytes) : splitOn sep s ≠ [] := by
  cases s with
  | nil => simp [splitOn]
  | cons b rest =>
    simp only [splitOn]
    split
    · simp
    · split <;> simp

/-- Joining the pieces with the separator gives the string back. -/
theorem join_splitOn (sep : UInt8) (s : Bytes) : join [sep] (splitOn sep s) = s := by
  induction s with
  | nil => simp [splitOn, join]
  | cons b rest ih =>
    simp only [splitOn]
    split
    · next h =>
      subst h
      cases hs : splitOn b rest with
      | nil => exact absurd hs (splitOn_ne_nil b rest)
      | cons piece pieces => simp [join, ← hs, ih]
    · cases hs : splitOn sep rest with
      | nil => exact absurd hs (splitOn_ne_nil sep rest)
      | cons piece pieces =>
        rw [hs] at ih
        cases pieces with
        | nil => simpa [join] using ih
        | cons p ps => simp [join] at ih ⊢; exact ih

/-- No piece holds the separator. -/
theorem not_mem_of_mem_splitOn {sep : UInt8} {s piece : Bytes} (h : piece ∈ splitOn sep s) :
    sep ∉ piece := by
  induction s generalizing piece with
  | nil => simp [splitOn] at h; simp [h]
  | cons b rest ih =>
    simp only [splitOn] at h
    split at h
    · rcases List.mem_cons.mp h with rfl | h
      · simp
      · exact ih h
    · next hb =>
      cases hs : splitOn sep rest with
      | nil => exact absurd hs (splitOn_ne_nil sep rest)
      | cons p ps =>
        rw [hs] at h ih
        rcases List.mem_cons.mp h with rfl | h
        · simp only [List.mem_cons, not_or]
          exact ⟨fun e ↦ hb e.symm, ih (by simp)⟩
        · exact ih (by simp [h])

/-- A string without the separator is one piece. -/
theorem splitOn_of_not_mem {sep : UInt8} {s : Bytes} (h : sep ∉ s) : splitOn sep s = [s] := by
  induction s with
  | nil => rfl
  | cons b rest ih =>
    have hb : b ≠ sep := by
      intro e
      exact h (e ▸ List.mem_cons_self)
    rw [splitOn, if_neg hb, ih fun hm ↦ h (List.mem_cons_of_mem b hm)]

/-- A string is split at each of its separators. -/
theorem splitOn_append (sep : UInt8) (a b : Bytes) :
    splitOn sep (a ++ sep :: b) = splitOn sep a ++ splitOn sep b := by
  induction a with
  | nil =>
    change splitOn sep (sep :: b) = [] :: splitOn sep b
    rw [splitOn, if_pos rfl]
  | cons x a ih =>
    rw [List.cons_append, splitOn, splitOn]
    split
    · rw [ih]
      rfl
    · rw [ih]
      cases hs : splitOn sep a with
      | nil => exact absurd hs (splitOn_ne_nil sep a)
      | cons piece pieces => rfl

/-- Splitting what was joined gives the pieces back, if none of them holds the separator. -/
theorem splitOn_join {sep : UInt8} {pieces : List Bytes} (some_ : pieces ≠ [])
    (h : ∀ piece ∈ pieces, sep ∉ piece) : splitOn sep (join [sep] pieces) = pieces := by
  induction pieces with
  | nil => exact absurd rfl some_
  | cons piece pieces ih =>
    have hp := splitOn_of_not_mem (h piece List.mem_cons_self)
    cases pieces with
    | nil => exact hp
    | cons next pieces =>
      have later := ih (List.cons_ne_nil next pieces) fun p mem ↦ h p (List.mem_cons_of_mem _ mem)
      rw [join, List.append_assoc]
      · change splitOn sep (piece ++ sep :: join [sep] (next :: pieces)) = _
        rw [splitOn_append, hp, later]
        rfl
      · nofun

/-- What is joined holds the bytes of the pieces and of the separator only. -/
theorem mem_of_mem_join {b : UInt8} {sep : Bytes} {pieces : List Bytes} (h : b ∈ join sep pieces) :
    b ∈ sep ∨ ∃ piece ∈ pieces, b ∈ piece := by
  induction pieces with
  | nil => cases h
  | cons piece pieces ih =>
    cases pieces with
    | nil => exact .inr ⟨piece, List.mem_cons_self, h⟩
    | cons next pieces =>
      rw [join, List.append_assoc, List.mem_append, List.mem_append] at h
      · rcases h with first | between | later
        · exact .inr ⟨piece, List.mem_cons_self, first⟩
        · exact .inl between
        · rcases ih later with between | ⟨p, mem, hb⟩
          · exact .inl between
          · exact .inr ⟨p, List.mem_cons_of_mem _ mem, hb⟩
      · nofun

/-- A string is cut at the first separator. -/
theorem cut_append {sep : UInt8} {before : Bytes} (h : sep ∉ before) (after : Bytes) :
    cut sep (before ++ sep :: after) = (before, some after) := by
  induction before with
  | nil =>
    change cut sep (sep :: after) = _
    rw [cut, if_pos rfl]
  | cons b before ih =>
    have hb : b ≠ sep := fun e ↦ h (e ▸ List.mem_cons_self)
    rw [List.cons_append, cut, if_neg hb, ih fun mem ↦ h (List.mem_cons_of_mem b mem)]

/-- A string without the separator is not cut. -/
theorem cut_of_not_mem {sep : UInt8} {s : Bytes} (h : sep ∉ s) : cut sep s = (s, none) := by
  induction s with
  | nil => rfl
  | cons b s ih =>
    have hb : b ≠ sep := fun e ↦ h (e ▸ List.mem_cons_self)
    rw [cut, if_neg hb, ih fun mem ↦ h (List.mem_cons_of_mem b mem)]

/-- What a cut leaves in front is what stands there without a separator, up to a separator or the
end. -/
theorem cut_fst_eq_iff {sep : UInt8} {s before : Bytes} :
    (cut sep s).1 = before ↔ sep ∉ before ∧
      ∃ rest, s = before ++ rest ∧ (rest = [] ∨ ∃ after, rest = sep :: after) := by
  constructor
  · rintro rfl
    induction s with
    | nil => exact ⟨List.not_mem_nil, [], rfl, .inl rfl⟩
    | cons b s ih =>
      rw [cut]
      by_cases hb : b = sep
      · rw [if_pos hb]
        exact ⟨List.not_mem_nil, b :: s, rfl, .inr ⟨s, congrArg (· :: s) hb⟩⟩
      · rw [if_neg hb]
        obtain ⟨without, rest, hs, ends⟩ := ih
        refine ⟨fun mem ↦ ?_, rest, congrArg (b :: ·) hs, ends⟩
        rcases List.mem_cons.mp mem with rfl | later
        · exact hb rfl
        · exact without later
  · rintro ⟨without, rest, rfl, rfl | ⟨after, rfl⟩⟩
    · rw [List.append_nil, cut_of_not_mem without]
    · rw [cut_append without]

private theorem join_append (sep : Bytes) {a b : List Bytes} (ha : a ≠ []) (hb : b ≠ []) :
    join sep (a ++ b) = join sep a ++ sep ++ join sep b := by
  induction a with
  | nil => exact absurd rfl ha
  | cons piece a ih =>
    cases a with
    | nil =>
      cases b with
      | nil => exact absurd rfl hb
      | cons p b => rfl
    | cons p a =>
      have later := ih (List.cons_ne_nil p a)
      simp only [List.cons_append, join] at later ⊢
      rw [later]
      simp only [List.append_assoc]

/-- The pieces of a string are what stands between two separators, or one and an end. -/
theorem mem_splitOn_iff {sep : UInt8} {s piece : Bytes} :
    piece ∈ splitOn sep s ↔ sep ∉ piece ∧ ∃ before after, s = before ++ piece ++ after ∧
      (before = [] ∨ ∃ b, before = b ++ [sep]) ∧ (after = [] ∨ ∃ a, after = sep :: a) := by
  constructor
  · intro h
    refine ⟨not_mem_of_mem_splitOn h, ?_⟩
    obtain ⟨p, q, hs⟩ := List.append_of_mem h
    have whole := join_splitOn sep s
    rw [hs] at whole
    have right : ∃ after, join [sep] (piece :: q) = piece ++ after ∧
        (after = [] ∨ ∃ a, after = sep :: a) := by
      cases q with
      | nil => exact ⟨[], (List.append_nil piece).symm, .inl rfl⟩
      | cons r q =>
        refine ⟨sep :: join [sep] (r :: q), ?_, .inr ⟨_, rfl⟩⟩
        rw [join, List.append_assoc]
        · rfl
        · nofun
    obtain ⟨after, ha, hafter⟩ := right
    by_cases hp : p = []
    · subst hp
      exact ⟨[], after, (ha ▸ whole).symm, .inl rfl, hafter⟩
    · rw [join_append [sep] hp (List.cons_ne_nil piece q), ha] at whole
      refine ⟨join [sep] p ++ [sep], after, ?_, .inr ⟨_, rfl⟩, hafter⟩
      rw [← whole]
      simp only [List.append_assoc]
  · rintro ⟨hp, before, after, rfl, hbefore, hafter⟩
    have right : piece ∈ splitOn sep (piece ++ after) := by
      rcases hafter with rfl | ⟨a, rfl⟩
      · rw [List.append_nil, splitOn_of_not_mem hp]
        exact List.mem_singleton_self piece
      · rw [splitOn_append, splitOn_of_not_mem hp]
        exact List.mem_cons_self
    rcases hbefore with rfl | ⟨b, rfl⟩
    · exact right
    · have assoc : b ++ [sep] ++ piece ++ after = b ++ sep :: (piece ++ after) := by simp
      rw [assoc, splitOn_append]
      exact List.mem_append_right _ right

end Ascii
end HttpGateway
