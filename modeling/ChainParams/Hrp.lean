import ChainParams.Text.Hex

/-!
# ChainParams — human-readable parts

A segwit address starts with a part that people can read, which names its network, and
the separator `1`. The part is made of 1 to 83 visible ASCII characters, and its
letters are of one case.

* `Hrp.check`  — the first reason for which a text is no such part.
-/

namespace ChainParams

/-- Why a text is no human-readable part. -/
inductive HrpError where
  | empty
  | tooLong (bytes : Nat)
  | notAscii (c : Char)
  /-- A control character or a space. -/
  | notVisible (c : Char)
  | mixedCase
deriving DecidableEq

namespace HrpError

/-- What the error says. The number in the message of `tooLong` is not the limit that is
kept. -/
def message : HrpError → String
  | empty => "hrp is empty, must have at least 1 character"
  | tooLong bytes => s!"hrp is too long, found {bytes} characters, must be <= 126"
  | notAscii c => s!"found non-ASCII character: {c}"
  | notVisible c => s!"byte value is not valid US-ASCII: '{String.ofList (Hex.plain c.toNat)}'"
  | mixedCase => "hrp cannot mix upper and lower case"

end HrpError

namespace Hrp

/-- The largest size of a human-readable part in bytes. -/
def maxSize : Nat := 83

/-- The letter cases met so far. -/
structure Cases where
  lower : Bool := false
  upper : Bool := false

/-- The first fault in the characters of a text, the letter cases before them being known. -/
def checkChars (seen : Cases) : List Char → Except HrpError Unit
  | [] => .ok ()
  | c :: cs =>
    if 128 ≤ c.toNat then .error (.notAscii c)
    else if c.toNat < 33 ∨ 126 < c.toNat then .error (.notVisible c)
    else if c.isLower then
      if seen.upper then .error .mixedCase else checkChars { seen with lower := true } cs
    else if c.isUpper then
      if seen.lower then .error .mixedCase else checkChars { seen with upper := true } cs
    else checkChars seen cs

/-- The first reason for which a text is no human-readable part. -/
def check (s : String) : Except HrpError Unit :=
  if s.isEmpty then .error .empty
  else if s.utf8ByteSize > maxSize then .error (.tooLong s.utf8ByteSize)
  else checkChars {} s.toList

end Hrp

end ChainParams
