import ChainParams.Config
import ChainParams.Json.Record

/-!
# ChainParams — values read from JSON

How the types of this library are read. A value that is written by this library reads
back as itself; besides, members may come in any order and be mixed with unknown ones.

* `Config.decode`, `Config.ofFile` — the choice of a network, from a text and from a file.
-/

namespace ChainParams

open Json (Reader Record)

-- ---------------------------------------------------------------------------
-- Scalars
-- ---------------------------------------------------------------------------

/-- A byte. -/
def byteReader : Reader UInt8 :=
  (Reader.natural UInt8.size).map UInt8.ofNat

/-- A 32-bit word. -/
def wordReader : Reader UInt32 :=
  (Reader.natural UInt32.size).map UInt32.ofNat

/-- A 64-bit word. -/
def longReader : Reader UInt64 :=
  (Reader.natural UInt64.size).map UInt64.ofNat

/-- The text of a digest. -/
def Digest.reader : Reader Digest :=
  Reader.text.filterMap fun s => (Digest.parse s).toOption

def Magic.reader : Reader Magic :=
  wordReader.map Magic.mk

def Network.reader : Reader Network :=
  .choice (Network.all.map fun n => (n.name, n))

def RuleChange.reader : Reader RuleChange :=
  .choice (RuleChange.all.map fun id => (id.title, id))

-- ---------------------------------------------------------------------------
-- Records
-- ---------------------------------------------------------------------------

/-- A checkpoint of which some fields are known. -/
structure Checkpoint.Draft where
  height : Option UInt32 := none
  digest : Option Digest := none

def Checkpoint.record : Record Checkpoint.Draft Checkpoint where
  fields := [
    { key := "height", present := fun d => d.height.isSome,
      value := wordReader.map fun n d => { d with height := some n } },
    { key := "hash", present := fun d => d.digest.isSome,
      value := Digest.reader.map fun n d => { d with digest := some n } }]
  empty := {}
  finish d := do return { height := ← d.height, digest := ← d.digest }

def Checkpoint.reader : Reader Checkpoint :=
  Checkpoint.record.reader

def Checkpoints.record : Record (Option (List Checkpoint)) Checkpoints where
  fields := [
    { key := "checkpoints", present := Option.isSome,
      value := (Reader.list Checkpoint.reader).map fun cs _ => some cs }]
  empty := none
  finish d := d.map Checkpoints.ofList

def Checkpoints.reader : Reader Checkpoints :=
  Checkpoints.record.reader

/-- A seed of which some fields are known. -/
structure Seed.Draft where
  host : Option String := none
  filtering : Option Bool := none

def Seed.record : Record Seed.Draft Seed where
  fields := [
    { key := "host", present := fun d => d.host.isSome,
      value := Reader.text.map fun s d => { d with host := some s } },
    { key := "has_filtering", present := fun d => d.filtering.isSome,
      value := Reader.flag.map fun b d => { d with filtering := some b } }]
  empty := {}
  finish d := do return { host := ← d.host, filtering := ← d.filtering }

def Seed.reader : Reader Seed :=
  Seed.record.reader

/-- A deployment of which some fields are known. -/
structure Deployment.Draft where
  bit : Option UInt8 := none
  startTime : Option UInt64 := none
  expireTime : Option UInt64 := none

def Deployment.record : Record Deployment.Draft Deployment where
  fields := [
    { key := "bit_number", present := fun d => d.bit.isSome,
      value := byteReader.map fun n d => { d with bit := some n } },
    { key := "start_time", present := fun d => d.startTime.isSome,
      value := longReader.map fun n d => { d with startTime := some n } },
    { key := "expire_time", present := fun d => d.expireTime.isSome,
      value := longReader.map fun n d => { d with expireTime := some n } }]
  empty := {}
  finish d := do
    return { bit := ← d.bit, startTime := ← d.startTime, expireTime := ← d.expireTime }

def Deployment.reader : Reader Deployment :=
  Deployment.record.reader

/-- A table of deployments of which some are known. -/
structure Deployments.Draft where
  testDummy : Option Deployment := none
  csv : Option Deployment := none
  segwit : Option Deployment := none

def Deployments.record : Record Deployments.Draft Deployments where
  fields := [
    { key := RuleChange.testDummy.title, present := fun d => d.testDummy.isSome,
      value := Deployment.reader.map fun n d => { d with testDummy := some n } },
    { key := RuleChange.csv.title, present := fun d => d.csv.isSome,
      value := Deployment.reader.map fun n d => { d with csv := some n } },
    { key := RuleChange.segwit.title, present := fun d => d.segwit.isSome,
      value := Deployment.reader.map fun n d => { d with segwit := some n } }]
  empty := {}
  finish d := do return { testDummy := ← d.testDummy, csv := ← d.csv, segwit := ← d.segwit }

/-- The table is a list without keys. -/
def Deployments.reader : Reader Deployments :=
  Deployments.record.arrayReader

-- ---------------------------------------------------------------------------
-- Configurations
-- ---------------------------------------------------------------------------

/-- A configuration need not name a network. -/
def Config.record : Record (Option String) Config where
  fields := [
    { key := "network", present := Option.isSome,
      value := Reader.text.map fun s _ => some s }]
  empty := none
  finish d := some (d.elim Config.standard Config.mk)

def Config.reader : Reader Config :=
  Config.record.reader

/-- Reads a configuration from a text. -/
def Config.decode (s : String) : Except Error Config :=
  (Config.reader.decode s).mapError .unparsable

/-- Reads a configuration from the bytes of a file, if there is one. -/
def Config.ofFile (contents : Option ByteArray) : Except Error Config :=
  match contents with
  | none => .error (.unreadable .absent)
  | some bytes =>
    match String.fromUTF8? bytes with
    | none => .error (.unreadable .notText)
    | some s => Config.decode s

end ChainParams
