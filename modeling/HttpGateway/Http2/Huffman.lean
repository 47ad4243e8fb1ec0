import HttpGateway.Text.Ascii

/-!
# The Huffman code of header fields

HTTP/2 writes the names and values of header fields in one fixed prefix code. Only the lengths of
its code words are held here: they decide how long a field is on the wire. That they are the
lengths of a prefix code shows in their sum, which together with the word for the end of a string
fills the binary tree.
-/

namespace HttpGateway.Http2.Huffman

/-- The length in bits of the code word of each byte. -/
def lengths : List Nat := [
  13, 23, 28, 28, 28, 28, 28, 28, 28, 24, 30, 28, 28, 30, 28, 28,
  28, 28, 28, 28, 28, 28, 30, 28, 28, 28, 28, 28, 28, 28, 28, 28,
  6, 10, 10, 12, 13, 6, 8, 11, 10, 10, 8, 11, 8, 6, 6, 6,
  5, 5, 5, 6, 6, 6, 6, 6, 6, 6, 7, 8, 15, 6, 12, 10,
  13, 6, 7, 7, 7, 7, 7, 7, 7, 7, 7, 7, 7, 7, 7, 7,
  7, 7, 7, 7, 7, 7, 7, 7, 8, 7, 8, 13, 19, 13, 14, 6,
  15, 5, 6, 5, 6, 5, 6, 6, 6, 5, 7, 7, 6, 6, 6, 5,
  6, 7, 6, 5, 5, 6, 7, 7, 7, 7, 7, 15, 11, 14, 13, 28,
  20, 22, 20, 20, 22, 22, 22, 23, 22, 23, 23, 23, 23, 23, 24, 23,
  24, 24, 22, 23, 24, 23, 23, 23, 23, 21, 22, 23, 22, 23, 23, 24,
  22, 21, 20, 22, 22, 23, 23, 21, 23, 22, 22, 24, 21, 22, 23, 23,
  21, 21, 22, 21, 23, 22, 23, 23, 20, 22, 22, 22, 23, 22, 22, 23,
  26, 26, 20, 19, 22, 23, 22, 25, 26, 26, 26, 27, 27, 26, 24, 25,
  19, 21, 26, 27, 27, 26, 27, 24, 21, 21, 26, 26, 28, 27, 27, 27,
  20, 24, 20, 21, 22, 21, 21, 23, 22, 22, 25, 25, 24, 24, 26, 23,
  26, 27, 26, 26, 27, 27, 27, 27, 27, 28, 27, 27, 27, 27, 27, 26]

/-- The lengths, for look-up by byte. -/
def table : Array Nat := lengths.toArray

/-- The bits of the code word of a byte. -/
def bits (b : UInt8) : Nat := table.getD b.toNat 30

/-- The bytes that an octet string takes in the code; the last of them is filled up. -/
def codedLength (s : Bytes) : Nat := (s.foldl (fun n b ↦ n + bits b) 0 + 7) / 8

end HttpGateway.Http2.Huffman
