import HttpGateway.Proofs.Metadata.Grouping
import HttpGateway.Proofs.Stream.Flow
import Mathlib.Data.List.Induction

/-!
# What a body brings

The pieces of a backend's body, up to its end or to where it cannot be read any further, are data
and trailers in any order. Frames bring the body to a caller if their data are those of the pieces,
put together, and if at their end, once, there are trailers in which each name has the values that
it has in the last trailers with that name. A body without trailers is brought without.
-/

namespace HttpGateway

namespace HeaderMap

/-- The values of a name in the last of several maps that has the name. -/
def lastValues (maps : List HeaderMap) (name : HeaderName) : List HeaderValue :=
  ((maps.filter fun m ↦ m.contains name).getLast?.map fun m ↦ m.values name).getD []

/-- The names of a second map have its values, and all others keep theirs. -/
theorem values_extend (m more : HeaderMap) (name : HeaderName) :
    (m.extend more).values name =
      if more.contains name then more.values name else m.values name := by
  have grouped : values ⟨more.grouped⟩ name = more.values name := values_grouped more name
  unfold values extend at *
  rw [List.filter_append, List.map_append, grouped, List.filter_filter]
  cases h : more.contains name with
  | true =>
    have replaced : (m.fields.filter fun f ↦ decide (f.1 = name) && !more.contains f.1) = [] := by
      rw [List.filter_eq_nil_iff]
      rintro f - hf
      rw [Bool.and_eq_true, decide_eq_true_eq] at hf
      rw [hf.1, h] at hf
      cases hf.2
    rw [replaced, List.map_nil, List.nil_append, if_pos rfl]
  | false =>
    have absent : more.values name = [] := by
      rw [← Decidable.not_not (p := more.values name = []), ← ne_eq, ← contains_iff, h]
      exact Bool.false_ne_true
    have kept : (m.fields.filter fun f ↦ decide (f.1 = name) && !more.contains f.1) =
        m.fields.filter fun f ↦ decide (f.1 = name) := by
      apply List.filter_congr
      intro f _
      by_cases hf : f.1 = name
      · rw [hf, h]
        simp
      · simp [hf]
    unfold values at absent
    rw [kept, absent, List.append_nil]
    exact (if_neg Bool.false_ne_true).symm

/-- Of maps in a row each name has the values of the last map that has the name. -/
theorem values_foldl_extend (maps : List HeaderMap) (name : HeaderName) :
    (maps.foldl extend empty).values name = lastValues maps name := by
  -- The last map decides, so the induction takes the maps from the end.
  induction maps using List.reverseRecOn with
  | nil => rfl
  | append_singleton maps m ih =>
    rw [List.foldl_append, List.foldl_cons, List.foldl_nil, values_extend, ih]
    unfold lastValues
    rw [List.filter_append]
    cases h : m.contains name with
    | true => simp [h]
    | false => simp [h]

end HeaderMap

namespace Piece

/-- The trailers that pieces yield before the body ends or fails. -/
def trailersOf : List Piece → List HeaderMap
  | [] => []
  | .data _ :: rest => trailersOf rest
  | .trailers t :: rest => t :: trailersOf rest
  | .failure _ :: _ => []

/-- Why the body cannot be read to its end, if it cannot. -/
def failure? : List Piece → Option String
  | [] => none
  | .data _ :: rest | .trailers _ :: rest => failure? rest
  | .failure why :: _ => some why

end Piece

namespace Frame

/-- The trailers that are left of those so far and more in a row, if there are any. -/
def merged (before : Option HeaderMap) (maps : List HeaderMap) : Option HeaderMap :=
  maps.foldl (fun merged t ↦ mergeTrailers merged (.trailers t)) before

/-- The frames of trailers, if there are any. -/
def ofTrailers : Option HeaderMap → List Frame
  | none => []
  | some fields => [.trailers fields]

/-- Frames bring a body to a caller. -/
structure Bring (frames : List Frame) (source : List Piece) : Prop where
  data : frames.flatMap Frame.bytes = Piece.dataOf source
  without : Piece.trailersOf source = [] → ∀ fields, .trailers fields ∉ frames
  once : Piece.trailersOf source ≠ [] → ∃ front fields, frames = front ++ [.trailers fields] ∧
    (∀ other, .trailers other ∉ front) ∧
    ∀ name, fields.values name = HeaderMap.lastValues (Piece.trailersOf source) name

private theorem merged_some (maps : List HeaderMap) (m : HeaderMap) :
    merged (some m) maps = some (maps.foldl HeaderMap.extend m) := by
  induction maps generalizing m with
  | nil => rfl
  | cons t maps ih => exact ih (m.extend t)

/-- Where there are trailers at all, what is left of them is the maps in a row. -/
theorem merged_of_ne_nil {maps : List HeaderMap} (filled : maps ≠ []) :
    merged none maps = some (maps.foldl HeaderMap.extend .empty) := by
  cases maps with
  | nil => exact absurd rfl filled
  | cons t maps => exact merged_some maps (HeaderMap.extend .empty t)

/-- Frames of the data, and behind them what is left of the trailers, bring a body. -/
theorem bring_concat {front : List Frame} {source : List Piece}
    (data : front.flatMap Frame.bytes = Piece.dataOf source)
    (plain : ∀ fields, .trailers fields ∉ front) :
    Bring (front ++ ofTrailers (merged none (Piece.trailersOf source))) source := by
  by_cases none_ : Piece.trailersOf source = []
  · rw [none_]
    refine ⟨?_, fun _ ↦ ?_, absurd none_⟩
    · rw [← data]
      exact congrArg _ (List.append_nil front)
    · intro fields mem
      exact plain fields ((List.append_nil front) ▸ mem)
  · rw [merged_of_ne_nil none_]
    refine ⟨?_, fun h ↦ absurd h none_, fun _ ↦ ⟨front, _, rfl, plain, ?_⟩⟩
    · rw [List.flatMap_append, data]
      exact List.append_nil _
    · exact HeaderMap.values_foldl_extend _

end Frame
end HttpGateway
