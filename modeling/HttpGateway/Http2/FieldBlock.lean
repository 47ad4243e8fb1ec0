import HttpGateway.Http.HeaderMap
import HttpGateway.Http2.Huffman

/-!
# Field blocks of HTTP/2

The fields of a head or of trailers travel as one coded block, cut into frames. A receiver bounds
what it holds: it keeps a field only while the sizes of the fields seen in the frame at hand, and of
those kept before, stay below its limit, and leaves out the rest. It gives the connection up when a
block takes more than three frames, and when a field that goes on in the next frame comes behind one
that was left out and would have to be held in full.
-/

namespace HttpGateway.Http2

/-- Why a stream, or the connection that carries it, is given up. -/
inductive Reason
  /-- What arrived breaks the rules of the protocol. -/
  | protocol
  /-- A coded block cannot be followed any further. -/
  | compression
  /-- The sender abandons what it was about to send. -/
  | cancel
  /-- A block takes too many frames. -/
  | calm
  deriving DecidableEq, Repr

/-- A field of a block. -/
abbrev Field := HeaderName × HeaderValue

/-- What a field adds to the size of a list of fields. -/
def size (f : Field) : Nat := f.1.bytes.length + f.2.bytes.length + 32

/-- The size of a list of fields. -/
def sizeOf (fields : List Field) : Nat := fields.foldl (fun n f ↦ n + size f) 0

/-- The size that a list has to stay below. -/
def sizeLimit : Nat := 16384

/-- The bytes of a block that a frame holds at most. -/
def frameLength : Nat := 16384

/-- The bytes in front of the ones that a frame holds. -/
def frameHead : Nat := 9

/-- The bytes of the number in front of a string. -/
def prefixLength (n : Nat) : Nat :=
  if n < 127 then 1 else if n < 255 then 2 else if n < 16511 then 3 else 4

/-- The bytes of a string behind its length. -/
def stringLength (s : Bytes) : Nat :=
  let n := Huffman.codedLength s
  prefixLength n + n

/-- The bytes of a field in a block: its kind, its name and its value. -/
def codedLength (f : Field) : Nat := 1 + stringLength f.1.bytes + stringLength f.2.bytes

/-- The number of the frame in which the byte in front of an offset lies. -/
def frameOf (offset : Nat) : Nat := (offset - 1) / frameLength

/-- What a receiver holds of the part of a block that it has read. -/
structure Intake where
  /-- The bytes read. -/
  offset : Nat
  /-- The size of the fields of the frame at hand and of those kept before. -/
  counted : Nat
  kept : List Field
  /-- Some field was left out. -/
  isOver : Bool
  deriving DecidableEq

namespace Intake

/-- Nothing is read yet; the fields that the protocol itself puts in front have the given size. -/
def start (front : Nat) : Intake := ⟨0, front, [], false⟩

/-- A field that ends at an offset goes on behind the given number of frames, and what is held of it
then, together with the next frame, is more than the receiver takes of a list that is over its
limit. -/
def isCrowded (i : Intake) (stop total frames : Nat) : Bool :=
  let cut := frames * frameLength
  i.isOver && i.offset < cut && cut < stop &&
    sizeLimit < cut - i.offset + min frameLength (total - cut) + frameHead

/-- Why the receiver gives up within a field that ends at an offset. -/
def fault? (i : Intake) (stop total : Nat) : Option Reason :=
  if i.isCrowded stop total 1 then some .compression
  else if 2 * frameLength < stop && 3 * frameLength < total then some .calm
  else if i.isCrowded stop total 2 then some .compression
  else none

/-- The size counted with a field that ends at an offset. -/
def countWith (i : Intake) (front stop : Nat) (f : Field) : Nat :=
  size f + if frameOf stop = frameOf i.offset then i.counted else front + sizeOf i.kept

/-- Takes the next field, which ends at an offset. -/
def take (i : Intake) (front stop : Nat) (f : Field) : Intake :=
  let counted := i.countWith front stop f
  if counted < sizeLimit then ⟨stop, counted, i.kept ++ [f], i.isOver⟩
  else ⟨stop, counted, i.kept, true⟩

/-- A field that is taken is kept behind the others or left out. -/
theorem kept_take (i : Intake) (front stop : Nat) (f : Field) :
    (i.take front stop f).kept = i.kept ++ [f] ∨
      (i.take front stop f).kept = i.kept ∧ (i.take front stop f).isOver = true := by
  by_cases h : i.countWith front stop f < sizeLimit <;> simp [take, h]

end Intake

/-- Reads the fields of a block of the given length behind those already read. -/
def readFields (front total : Nat) (i : Intake) : List Field → Except Reason Intake
  | [] => .ok i
  | f :: rest =>
    let stop := i.offset + codedLength f
    match i.fault? stop total with
    | some reason => .error reason
    | none => readFields front total (i.take front stop f) rest

/-- Reads the block of a list of fields. -/
def readBlock (front : Nat) (fields : List Field) : Except Reason Intake :=
  readFields front (fields.foldl (fun n f ↦ n + codedLength f) 0) (.start front) fields

/-- The fields that are kept are some of those sent, in their order. -/
theorem sublist_of_readFields {front total : Nat} {i j : Intake} {fields : List Field}
    (h : readFields front total i fields = .ok j) :
    ∃ kept, kept.Sublist fields ∧ j.kept = i.kept ++ kept := by
  induction fields generalizing i with
  | nil => cases h; exact ⟨[], List.Sublist.refl _, by simp⟩
  | cons f rest ih =>
    simp only [readFields] at h
    split at h
    · cases h
    · obtain ⟨kept, hs, hk⟩ := ih h
      rcases i.kept_take front (i.offset + codedLength f) f with ht | ⟨ht, -⟩
      · exact ⟨f :: kept, hs.cons_cons f, by simp [hk, ht]⟩
      · exact ⟨kept, hs.cons f, by simp [hk, ht]⟩

end HttpGateway.Http2
