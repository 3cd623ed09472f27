import JsonQuery.Text.Ranges

/-! Ranges of code points as they look in UTF-8. A set of characters falls into blocks;
the characters of a block have the same number of bytes, and each byte ranges over an
interval of its own. -/

namespace JsonQuery.Text

def utf8Bytes (code : Nat) : List Nat :=
  (String.utf8EncodeChar (Char.ofNat code)).map UInt8.toNat

/-- The ranges within which all characters have equally many bytes. -/
def utf8Sections : Ranges :=
  [(0, 0x7F), (0x80, 0x7FF), (0x800, 0xD7FF), (0xE000, 0xFFFF), (0x10000, 0x10FFFF)]

/-- A range of bytes for each place. -/
abbrev ByteBlock := List (Nat × Nat)

/-- Any bytes behind the first, as many as there are given. -/
def freeBytes (bytes : List Nat) : ByteBlock := bytes.map fun _ => (0x80, 0xBF)

/-- The blocks from some bytes behind the first up to the greatest ones. -/
def blocksFrom : List Nat → List ByteBlock
  | [] => [[]]
  | first :: low =>
    if low.all (· == 0x80) then [(first, 0xBF) :: freeBytes low]
    else
      (blocksFrom low).map ((first, first) :: ·) ++
        if first < 0xBF then [(first + 1, 0xBF) :: freeBytes low] else []

/-- The blocks from the least bytes behind the first up to some. -/
def blocksUpTo : List Nat → List ByteBlock
  | [] => [[]]
  | last :: high =>
    if high.all (· == 0xBF) then [(0x80, last) :: freeBytes high]
    else
      (if 0x80 < last then [(0x80, last - 1) :: freeBytes high] else []) ++
        (blocksUpTo high).map ((last, last) :: ·)

/-- The blocks between two encodings of one length, in ascending order. -/
def blocksBetween : List Nat → List Nat → List ByteBlock
  | first :: low, last :: high =>
    if first = last then (blocksBetween low high).map ((first, first) :: ·)
    else
      let isLeast := low.all (· == 0x80)
      let isGreatest := high.all (· == 0xBF)
      let start := if isLeast then first else first + 1
      let stop := if isGreatest then last else last - 1
      let below := if isLeast then [] else (blocksFrom low).map ((first, first) :: ·)
      let between := if start ≤ stop then [(start, stop) :: freeBytes low] else []
      let above := if isGreatest then [] else (blocksUpTo high).map ((last, last) :: ·)
      below ++ between ++ above
  | _, _ => [[]]

/-- The blocks of a set of characters, in ascending order. -/
def Ranges.byteBlocks (ranges : Ranges) : List ByteBlock :=
  ranges.flatMap fun (first, last) => utf8Sections.flatMap fun (low, high) =>
    let first := max first low
    let last := min last high
    if first ≤ last then blocksBetween (utf8Bytes first) (utf8Bytes last) else []

end JsonQuery.Text
