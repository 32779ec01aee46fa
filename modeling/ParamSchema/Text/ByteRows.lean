import ParamSchema.CharSet

/-!
Character sets as bytes of UTF-8: rows of byte ranges, each of which stands for all characters
whose bytes lie in its ranges.
-/

namespace ParamSchema.Text

/-- Ranges for the bytes of a character, first to last. -/
abbrev ByteRow := List (Nat × Nat)

/-- The rows of the codes from `first` to `last`, in order. A code has `count` bytes of six bits
after a byte that adds the rest of it to `lead`. -/
def byteRows : (count lead first last : Nat) → List ByteRow
  | 0, lead, first, last => [[(lead + first, lead + last)]]
  | count + 1, lead, first, last =>
    let block := 64 ^ (count + 1)
    let (a, b) := (first / block, last / block)
    let within (top first last : Nat) : List ByteRow :=
      (byteRows count 0x80 first last).map ((lead + top, lead + top) :: ·)
    if a = b then within a (first % block) (last % block)
    else
      let start := if first % block = 0 then [] else within a (first % block) (block - 1)
      let stop := if last % block = block - 1 then [] else within b 0 (last % block)
      let a := if start.isEmpty then a else a + 1
      let b := if stop.isEmpty then b else b - 1
      let middle :=
        if a ≤ b then [(lead + a, lead + b) :: List.replicate (count + 1) (0x80, 0xBF)] else []
      start ++ middle ++ stop

/-- The codes of equal length: the first and the last, the bytes after the first byte, and what that
byte starts from. The surrogates are left out. -/
def codeLengths : List (Nat × Nat × Nat × Nat) := [
  (0, 0x7F, 0, 0), (0x80, 0x7FF, 1, 0xC0), (0x800, 0xD7FF, 2, 0xE0), (0xE000, 0xFFFF, 2, 0xE0),
  (0x10000, 0x10FFFF, 3, 0xF0)]

/-- The rows of a set, in order. -/
def rowsOf (set : CharSet) : List ByteRow :=
  set.ranges.flatMap fun (first, last) =>
    codeLengths.flatMap fun (least, most, count, lead) =>
      let (first, last) := (max first least, min last most)
      if first ≤ last then byteRows count lead first last else []

/-- The rows by their first ranges: the rest of each row, without rows that end there. Rows with
equal first ranges stand together. -/
def rests : List ByteRow → List ((Nat × Nat) × List ByteRow)
  | [] => []
  | [] :: rows => rests rows
  | (range :: rest) :: rows =>
    match rests rows with
    | (next, others) :: more =>
      if range = next then (next, rest :: others) :: more
      else (range, [rest]) :: (next, others) :: more
    | [] => [(range, [rest])]

/-- What may be left of the rows after some of their bytes, with at least one byte to come. -/
def remainders : (length : Nat) → List ByteRow → List (List ByteRow)
  | 0, _ => []
  | length + 1, rows =>
    let nonempty := rows.filter (!·.isEmpty)
    if nonempty.isEmpty then []
    else nonempty :: (rests nonempty).flatMap fun (_, rest) => remainders length rest

/-- How many ranges rows that follow each other do not share at their starts. -/
def distinctStarts : List ByteRow → Nat
  | [] => 0
  | [row] => row.length
  | row :: next :: rows =>
    let shared := ((row.zip next).takeWhile fun (a, b) => a == b).length
    row.length - shared + distinctStarts (next :: rows)

end ParamSchema.Text
