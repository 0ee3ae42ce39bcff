import ChainParams.Text.Hex
import ChainParams.Text.Quoted

/-!
# ChainParams — digests

The 32-byte digest that names a block or a transaction. Its bytes are held with the
least significant one first; its text shows them the other way round, so that it is
the number in base sixteen.

* `Digest.text`   — always 64 lower-case digits.
* `Digest.parse`  — reads up to 64 digits of either case; missing ones are zeros in front.
* `Digest.ofNat`  — the digest with a given value.

## Results

* `Digest.length_text`  — the text has 64 characters.
-/

namespace ChainParams

/-- The number of bytes in a digest. -/
def Digest.size : Nat := 32

/-- The number of digits in the text of a digest. -/
def Digest.textSize : Nat := 2 * Digest.size

/-- A 32-byte digest, least significant byte first. -/
structure Digest where
  bytes : Vector UInt8 Digest.size
deriving DecidableEq

/-- Why a text is no digest. -/
inductive DigestError where
  /-- The text has more bytes than a digest has digits. -/
  | tooLong (bytes : Nat)
  /-- Filled up to 64 characters, the text has an odd number of bytes. -/
  | oddDigits (text : String)
  /-- Filled up to 64 characters, the text has another number of bytes. -/
  | wrongLength (text : String)
  /-- A character is no digit; its place is counted in the text as filled up. -/
  | badDigit (text : String) (digit : Char) (place : Nat)
deriving DecidableEq

namespace DigestError

/-- What the error says. -/
def message : DigestError → String
  | tooLong bytes => s!"max hash string length is {Digest.textSize} bytes, got {bytes}"
  | oddDigits text => s!"{text}: Odd number of digits"
  | wrongLength text => s!"{text}: Invalid string length"
  | badDigit text digit place =>
    s!"{text}: Invalid character {Text.quotedChar digit} at position {place}"

end DigestError

namespace Digest

/-- The digest of value zero. -/
def zero : Digest :=
  ⟨Vector.replicate size 0⟩

/-- The digest whose bytes are those of a number, reduced modulo 2^256. -/
def ofNat (n : Nat) : Digest :=
  ⟨Vector.ofFn fun i => UInt8.ofNat (n >>> (8 * i.val))⟩

/-- The digest with the given bytes, if they are 32. -/
def ofBytes? (bytes : List UInt8) : Option Digest :=
  if h : bytes.toArray.size = size then some ⟨⟨bytes.toArray, h⟩⟩ else none

instance : Inhabited Digest := ⟨zero⟩

/-- Digests are ordered by their bytes as they are held, the first difference deciding. -/
instance : Ord Digest where
  compare a b := compare a.bytes.toList b.bytes.toList

-- ---------------------------------------------------------------------------
-- Text
-- ---------------------------------------------------------------------------

/-- The digits of a digest, most significant first. -/
def chars (d : Digest) : List Char :=
  Hex.bytes d.bytes.toList.reverse

/-- The text of a digest. -/
def text (d : Digest) : String :=
  String.ofList d.chars

/-- The text of a digest with the name of its kind. -/
def described (d : Digest) : String :=
  s!"ChainHash({d.text})"

/-- The value of the digit at a place of a text; one past the end counts as zero. -/
def digitAt (cs : List Char) (place : Nat) : Nat :=
  ((cs[place]?).bind Hex.value?).getD 0

/-- The byte written by the pair of digits number `pair` of a text. -/
def byteAt (cs : List Char) (pair : Nat) : UInt8 :=
  UInt8.ofNat (16 * digitAt cs (2 * pair) + digitAt cs (2 * pair + 1))

/-- The first character of a text that is no digit, with its place. -/
def firstBad? (cs : List Char) : Option (Char × Nat) :=
  cs.zipIdx.find? fun (c, _) => (Hex.value? c).isNone

/-- A text with zeros in front up to 64 characters. -/
def filled (s : String) : List Char :=
  s.toList.leftpad textSize '0'

/-- Reads the text of a digest. -/
def parse (s : String) : Except DigestError Digest :=
  if s.utf8ByteSize > textSize then
    .error (.tooLong s.utf8ByteSize)
  else
    let cs := filled s
    let bytes := (String.ofList cs).utf8ByteSize
    if bytes % 2 = 1 then .error (.oddDigits s)
    else if bytes ≠ textSize then .error (.wrongLength s)
    else
      match firstBad? cs with
      | some (c, place) => .error (.badDigit s c place)
      | none => .ok ⟨Vector.ofFn fun i => byteAt cs (size - 1 - i.val)⟩

theorem length_chars (d : Digest) : d.chars.length = textSize := by
  rw [chars, Hex.length_bytes, List.length_reverse, Vector.length_toList]
  rfl

theorem length_text (d : Digest) : d.text.length = textSize := by
  rw [text, String.length_ofList, length_chars]

end Digest

end ChainParams
