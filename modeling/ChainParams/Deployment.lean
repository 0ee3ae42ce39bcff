import ChainParams.Calendar

/-!
# ChainParams — rule change deployments

A rule change is voted on by a bit in the version of blocks, from one median block time
to another. This library only holds the windows; the vote is counted elsewhere.

* `RuleChange`  — the rule changes that can be voted on.
* `Deployment`  — the bit and the window of one of them.
* `Deployments` — one deployment for each rule change.
-/

namespace ChainParams

/-- The rule changes that can be voted on. -/
inductive RuleChange where
  /-- For tests alone. -/
  | testDummy
  /-- Relative lock times. -/
  | csv
  /-- Segregated witnesses. -/
  | segwit
deriving DecidableEq

namespace RuleChange

/-- The rule changes in the order of their table. -/
def all : List RuleChange :=
  [testDummy, csv, segwit]

/-- The place of a rule change in that order. -/
def index : RuleChange → Nat
  | testDummy => 0
  | csv => 1
  | segwit => 2

/-- The name of a rule change in messages. -/
def name : RuleChange → String
  | testDummy => "testdummy"
  | csv => "csv"
  | segwit => "segwit"

/-- The name of a rule change in documents. -/
def title : RuleChange → String
  | testDummy => "TestDummy"
  | csv => "Csv"
  | segwit => "Segwit"

end RuleChange

-- ---------------------------------------------------------------------------
-- One deployment
-- ---------------------------------------------------------------------------

/-- The bit and the voting window of a rule change. Times are in seconds after the
start of 1970. -/
structure Deployment where
  bit : UInt8
  startTime : UInt64
  expireTime : UInt64
deriving DecidableEq

namespace Deployment

/-- The expire time of a deployment that never expires: the largest signed 64-bit number. -/
def never : UInt64 := 0x7fffffffffffffff

/-- A deployment that is open from the first block on and never expires. -/
def alwaysActive (bit : UInt8) : Deployment where
  bit := bit
  startTime := 0
  expireTime := never

/-- Whether a deployment never expires. -/
def isNeverExpiring (d : Deployment) : Bool :=
  d.expireTime = never

/-- Whether the window of a deployment opens before it closes, if it closes. -/
def hasValidWindow (d : Deployment) : Bool :=
  d.isNeverExpiring || d.startTime < d.expireTime

/-- The opening of the window, if the calendar has it. -/
def startUtc? (d : Deployment) : Option Utc :=
  Utc.ofSeconds? d.startTime.toNat

/-- The closing of the window, if there is one and the calendar has it. -/
def expireUtc? (d : Deployment) : Option Utc :=
  if d.isNeverExpiring then none else Utc.ofSeconds? d.expireTime.toNat

end Deployment

-- ---------------------------------------------------------------------------
-- The table
-- ---------------------------------------------------------------------------

/-- One deployment for each rule change. -/
structure Deployments where
  testDummy : Deployment
  csv : Deployment
  segwit : Deployment
deriving DecidableEq

namespace Deployments

/-- The table in which every rule change is open from the first block on. -/
def alwaysActive (testDummyBit csvBit segwitBit : UInt8) : Deployments where
  testDummy := .alwaysActive testDummyBit
  csv := .alwaysActive csvBit
  segwit := .alwaysActive segwitBit

/-- The deployment of a rule change. -/
def get (ds : Deployments) : RuleChange → Deployment
  | .testDummy => ds.testDummy
  | .csv => ds.csv
  | .segwit => ds.segwit

/-- The deployments in the order of the rule changes. -/
def toList (ds : Deployments) : List Deployment :=
  [ds.testDummy, ds.csv, ds.segwit]

/-- The rule changes with their deployments, in order. -/
def entries (ds : Deployments) : List (RuleChange × Deployment) :=
  RuleChange.all.zip ds.toList

theorem entries_eq_map_get (ds : Deployments) :
    ds.entries = RuleChange.all.map fun id => (id, ds.get id) := rfl

end Deployments

end ChainParams
