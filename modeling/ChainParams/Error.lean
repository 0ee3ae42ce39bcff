import ChainParams.Json.Fault
import ChainParams.Profile.Defect

/-!
# ChainParams — errors

The errors of the library by their causes, and what they say.

* `Error.message`         — the text of an error.
* `Profile.validate`      — a profile with defects is an error that names them all.
* `Digest.ofLiteral`, `Checkpoint.ofLiteral`, `Checkpoints.ofTable` — digests, checkpoints and
  tables of these, read from texts that the program itself holds.
-/

namespace ChainParams

/-- Why a file gives no text. -/
inductive FileFault where
  /-- There is no such file. -/
  | absent
  /-- The bytes of the file are not the UTF-8 form of a text. -/
  | notText
deriving DecidableEq

/-- What can go wrong. -/
inductive Error where
  /-- A network with this magic is registered already. -/
  | duplicateNetwork (magic : Magic)
  /-- Bytes are not the id of extended private keys of any registered network. -/
  | unknownHdKeyId
  | invalidDigest (cause : DigestError)
  /-- The profile of this name has defects. -/
  | invalidProfile (name : String) (defects : List Defect)
  /-- No network goes by this name. -/
  | unknownNetwork (name : String)
  | unreadable (cause : FileFault)
  | unparsable (cause : Json.Fault)
deriving DecidableEq

namespace Error

/-- What the error says. What goes wrong in a file or in a JSON text is told behind the colon in
words that are not this library's, and that are left out. -/
def message : Error → String
  | duplicateNetwork magic => s!"duplicate Earthcoin network: {magic.title}"
  | unknownHdKeyId => "unknown hd private extended key bytes"
  | invalidDigest cause => s!"Invalid hash: {cause.message}"
  | invalidProfile name defects =>
    let reason := String.intercalate "; " (defects.map Defect.message)
    s!"Invalid parameters for {name}: {reason}"
  | unknownNetwork name => s!"Unknown network: {name}"
  | unreadable _ => "IO error: "
  | unparsable _ => "Serialization error: "

/-- The outcome of reading digests, with what is wrong in a text as an error of this library. -/
def ofDigest {α : Type} (outcome : Except DigestError α) : Except Error α :=
  outcome.mapError invalidDigest

end Error

-- ---------------------------------------------------------------------------
-- Literals
-- ---------------------------------------------------------------------------

/-- The digest that a literal spells. -/
def Digest.ofLiteral (text : String) : Except Error Digest :=
  Error.ofDigest (Digest.parse text)

/-- The checkpoint at a height whose digest a literal spells. -/
def Checkpoint.ofLiteral (height : UInt32) (text : String) : Except Error Checkpoint :=
  Error.ofDigest (Checkpoint.parse height text)

/-- The checkpoints of a table of heights and literals. -/
def Checkpoints.ofTable (table : List (UInt32 × String)) : Except Error Checkpoints :=
  Error.ofDigest (Checkpoints.ofLiterals table)

-- ---------------------------------------------------------------------------
-- Profiles
-- ---------------------------------------------------------------------------

namespace Profile

/-- Checks that the parts of a profile fit together. -/
def validate (p : Profile) : Except Error Unit :=
  match p.defects with
  | [] => .ok ()
  | defects => .error (.invalidProfile p.name defects)

end Profile

end ChainParams
