import CircuitLang.Text.CharClass

/-! The bytes that ranges of characters are written with.

A range of characters is cut into pieces that are each written as a product of byte
ranges, one for each byte. It is cut at the surrogates, then where more bytes are
needed, and then, from the last byte to the first, where a byte does not run through all
its values. -/
namespace CircuitLang.Text.Utf8

/-- A range of bytes. -/
abbrev ByteRange := Nat × Nat

/-- The bytes of characters. -/
def bytesOf (cs : List Char) : List Nat :=
  cs.flatMap fun c => (String.utf8EncodeChar c).map UInt8.toNat

/-- Where the second part of a range begins that is cut because of a byte and those
behind it, which have `unit` values together. -/
def unevenAt? (unit first last : Nat) : Option Nat :=
  if first / unit = last / unit then none
  else if first % unit ≠ 0 then some ((first / unit + 1) * unit)
  else if last % unit ≠ unit - 1 then some (last / unit * unit)
  else none

/-- Where the second part of a range begins, if it has to be cut. -/
def cut? (first last : Nat) : Option Nat :=
  match [0x80, 0x800, 0x10000].find? fun code => first < code && code ≤ last with
  | some code => some code
  | none =>
    if last < 0x80 then none
    else [64, 64 * 64, 64 * 64 * 64].findSome? fun unit => unevenAt? unit first last

/-- The byte ranges between the bytes of two characters of the same length. -/
def product (first last : Nat) : List ByteRange :=
  let bytes := fun code => bytesOf [Char.ofNat code]
  (bytes first).zip (bytes last)

/-- The pieces of a range without surrogates. -/
def pieces (first last : Nat) : List (List ByteRange) :=
  match cut? first last with
  | none => [product first last]
  | some code =>
    if _h : first < code ∧ code ≤ last then pieces first (code - 1) ++ pieces code last
    else [product first last]
  termination_by last - first

/-- The pieces of a range in increasing order. -/
def piecesOf (r : CharRange) : List (List ByteRange) :=
  if r.first ≤ 0xD7FF ∧ 0xE000 ≤ r.last then pieces r.first 0xD7FF ++ pieces 0xE000 r.last
  else pieces r.first r.last

end CircuitLang.Text.Utf8
