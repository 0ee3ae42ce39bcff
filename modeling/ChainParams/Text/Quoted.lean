import ChainParams.Text.HiddenTable
import ChainParams.Text.CaseTable
import ChainParams.Text.Hex

/-!
# ChainParams — quoted text in messages

Messages show foreign text between quotes so that every character in it can be
seen: the quote itself and the backslash behind a backslash, the usual controls by
their letters, and every other character without a shape by its number.

* `quoted`     — a text in double quotes; a single quote inside needs no mark.
* `quotedChar` — a character in single quotes; a double quote inside needs no mark.
-/

namespace ChainParams.Text

/-- A character by its number: `\u`, and the digits in braces. -/
def numbered (c : Char) : List Char :=
  ['\\', 'u', '\x7b'] ++ Hex.plain c.toNat ++ ['\x7d']

/-- A character inside quotes of the given kind. -/
def shown (quote c : Char) : List Char :=
  if c = '\x00' then ['\\', '0']
  else if c = '\t' then ['\\', 't']
  else if c = '\r' then ['\\', 'r']
  else if c = '\n' then ['\\', 'n']
  else if c = '\\' ∨ c = quote then ['\\', c]
  else if inRanges hiddenRanges c.toNat then numbered c
  else [c]

/-- A text in double quotes. -/
def quoted (s : String) : String :=
  String.ofList ('"' :: s.toList.flatMap (shown '"') ++ ['"'])

/-- A character in single quotes. -/
def quotedChar (c : Char) : String :=
  String.ofList ('\'' :: shown '\'' c ++ ['\''])

end ChainParams.Text
