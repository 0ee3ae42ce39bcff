import ChainParams.Text.Hex

/-!
# ChainParams — JSON documents as they are written

What this library writes is compact JSON: no blanks, members in the order in which
they are given, and in strings only the characters that JSON forbids are escaped.

* `Document`       — a document built from whole numbers, texts, flags, lists and records.
* `Document.chars` — its one written form.
-/

namespace ChainParams.Json

/-- A document of the kinds of value that this library writes. -/
inductive Document where
  | number (n : Int)
  | text (s : String)
  | flag (b : Bool)
  | list (items : List Document)
  | record (members : List (String × Document))

-- ---------------------------------------------------------------------------
-- Scalars
-- ---------------------------------------------------------------------------

/-- A whole number in decimal digits. -/
def decimal (n : Int) : List Char :=
  if n < 0 then '-' :: Nat.toDigits 10 n.natAbs else Nat.toDigits 10 n.natAbs

/-- One character inside a string: the quote, the backslash and the controls are
escaped, the latter by a letter where there is one; every other character stands
for itself. -/
def escaped (c : Char) : List Char :=
  if c = '"' then ['\\', '"']
  else if c = '\\' then ['\\', '\\']
  else if c = '\x08' then ['\\', 'b']
  else if c = '\x0c' then ['\\', 'f']
  else if c = '\n' then ['\\', 'n']
  else if c = '\r' then ['\\', 'r']
  else if c = '\t' then ['\\', 't']
  else if c.toNat < 0x20 then
    ['\\', 'u', '0', '0', Hex.digit (c.toNat / 16), Hex.digit (c.toNat % 16)]
  else [c]

/-- A text between quotes. -/
def stringChars (s : String) : List Char :=
  '"' :: s.toList.flatMap escaped ++ ['"']

-- ---------------------------------------------------------------------------
-- Documents
-- ---------------------------------------------------------------------------

mutual

/-- The compact written form of a document. -/
def Document.chars : Document → List Char
  | .number n => decimal n
  | .text s => stringChars s
  | .flag true => "true".toList
  | .flag false => "false".toList
  | .list [] => ['[', ']']
  | .list (d :: ds) => '[' :: (d.chars ++ itemChars ds)
  | .record [] => ['\x7b', '\x7d']
  | .record ((key, d) :: ms) => '\x7b' :: (stringChars key ++ ':' :: (d.chars ++ memberChars ms))

/-- What follows an element of a list: its further elements and the closing bracket. -/
def itemChars : List Document → List Char
  | [] => [']']
  | d :: ds => ',' :: (d.chars ++ itemChars ds)

/-- What follows a member of a record: its further members and the closing bracket. -/
def memberChars : List (String × Document) → List Char
  | [] => ['\x7d']
  | (key, d) :: ms => ',' :: (stringChars key ++ ':' :: (d.chars ++ memberChars ms))

end

/-- The compact text of a document. -/
def Document.write (d : Document) : String :=
  String.ofList d.chars

/-- A natural number as a document. -/
def Document.nat (n : Nat) : Document :=
  .number n

theorem Document.chars_nat (n : Nat) : (Document.nat n).chars = Nat.toDigits 10 n := by
  rw [Document.nat, Document.chars, decimal, if_neg (by omega), Int.natAbs_natCast]

end ChainParams.Json
