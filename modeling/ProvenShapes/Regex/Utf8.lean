/-
**Encoded characters.**

Characters are encoded in one to four bytes.  The encodings of a range of characters are described by
sequences of ranges of bytes: a sequence stands for all choices of one byte from each of its ranges.

Main definitions:

* `Utf8.sequences` — the sequences of a range of code points, in ascending order;
* `Utf8.encode` — the bytes of one code point.
-/

set_option autoImplicit false

namespace ProvenShapes.Utf8

/-- A range of bytes, both ends included. -/
abbrev ByteRange := Nat × Nat

/-- The sequences of the numbers from one to another, written with a first digit and `more` further
digits of six bits.  `base` is what the first digit is added to.  Numbers with the same first digit
share its byte; where all further digits are free, several first digits share a range. -/
def blocks : Nat → Nat → Nat → Nat → List (List ByteRange)
  | 0, base, low, high => [[(base + low, base + high)]]
  | more + 1, base, low, high =>
      let size := 1 <<< (6 * (more + 1))
      let first := low / size
      let last := high / size
      let under (digit low high : Nat) :=
        (blocks more 0x80 low high).map fun rest => (base + digit, base + digit) :: rest
      if first = last then under first (low % size) (high % size)
      else
        let wholeFirst := low % size == 0
        let wholeLast := high % size + 1 == size
        let head := if wholeFirst then [] else under first (low % size) (size - 1)
        let tail := if wholeLast then [] else under last 0 (high % size)
        let low := if wholeFirst then first else first + 1
        let high := if wholeLast then last else last - 1
        let free := List.replicate (more + 1) (0x80, 0xbf)
        head ++ (if low ≤ high then [(base + low, base + high) :: free] else []) ++ tail

/-- The ranges of code points whose encodings have the same length, with the number of bytes behind
the first one and what the first digit is added to.  Surrogates have no encoding. -/
def lengths : List (ByteRange × Nat × Nat) :=
  [((0, 0x7f), 0, 0), ((0x80, 0x7ff), 1, 0xc0), ((0x800, 0xd7ff), 2, 0xe0),
    ((0xe000, 0xffff), 2, 0xe0), ((0x10000, 0x10ffff), 3, 0xf0)]

/-- The sequences of a range of code points, in ascending order. -/
def sequences (low high : Nat) : List (List ByteRange) :=
  lengths.flatMap fun ((start, stop), more, base) =>
    let low := max low start
    let high := min high stop
    if low ≤ high then blocks more base low high else []

/-- The bytes of one code point. -/
def encode (n : Nat) : List Nat := (sequences n n).flatMap fun sequence => sequence.map Prod.fst

end ProvenShapes.Utf8
