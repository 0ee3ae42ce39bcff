import ChainParams.Text.Hex

/-!
# ChainParams — networks

A network is told apart on the wire by its magic. Four networks are built in; each has
a name and a second name that is accepted for it, in any ASCII case.

* `Magic`         — the word in front of every message of a network.
* `Network`       — the built-in networks.
* `Network.named?` — the built-in network that a name refers to.
* `Seed`          — a host through which peers are found.
-/

namespace ChainParams

-- ---------------------------------------------------------------------------
-- Magics
-- ---------------------------------------------------------------------------

/-- The magic of a network. -/
structure Magic where
  word : UInt32
deriving DecidableEq, Hashable

namespace Magic

/-- The magic of the main network. -/
def mainNet : Magic := ⟨0xfdf1dbc0⟩

/-- The magic of the regression test network. -/
def testNet : Magic := ⟨0xdab5bffa⟩

/-- The magic of the test network, version 4. -/
def testNet4 : Magic := ⟨0xf1c8d2fd⟩

/-- The magic of the simulation network. -/
def simNet : Magic := ⟨0x12141c16⟩

/-- A magic as messages show it: by the network's title, or else by its eight digits. -/
def title (m : Magic) : String :=
  if m = mainNet then "MainNet"
  else if m = testNet then "TestNet"
  else if m = testNet4 then "TestNet4"
  else if m = simNet then "SimNet"
  else s!"Unknown BitcoinNet (0x{String.ofList (Hex.padded 8 m.word.toNat)})"

/-- A magic by its number, with the name of its kind. -/
def described (m : Magic) : String :=
  s!"BitcoinNet({m.word.toNat})"

end Magic

-- ---------------------------------------------------------------------------
-- Built-in networks
-- ---------------------------------------------------------------------------

/-- The built-in networks. -/
inductive Network where
  | mainnet
  /-- The public test network, version 4. -/
  | testnet4
  /-- The regression test network, for local development. -/
  | regtest
  /-- The private simulation network. -/
  | simnet
deriving DecidableEq

namespace Network

/-- The built-in networks in the order in which they are registered. -/
def all : List Network :=
  [mainnet, testnet4, regtest, simnet]

/-- The name of a network. -/
def name : Network → String
  | mainnet => "mainnet"
  | testnet4 => "testnet4"
  | regtest => "regtest"
  | simnet => "simnet"

/-- The second name that is accepted for a network. -/
def secondName : Network → String
  | mainnet => "main"
  | testnet4 => "testnet"
  | regtest => "regression"
  | simnet => "simulation"

/-- The name of a network with a capital in front. -/
def title : Network → String
  | mainnet => "Mainnet"
  | testnet4 => "Testnet4"
  | regtest => "Regtest"
  | simnet => "Simnet"

/-- The magic of a network. -/
def magic : Network → Magic
  | mainnet => Magic.mainNet
  | testnet4 => Magic.testNet4
  | regtest => Magic.testNet
  | simnet => Magic.simNet

/-- The network that a text names by either of its names. Case is ignored for ASCII
letters alone: the names have no others. -/
def named? (s : String) : Option Network :=
  all.find? fun network => s.toLower == network.name || s.toLower == network.secondName

theorem mem_all (n : Network) : n ∈ all := by
  cases n <;> decide

end Network

-- ---------------------------------------------------------------------------
-- Seeds
-- ---------------------------------------------------------------------------

/-- A host through which peers are found. -/
structure Seed where
  host : String
  /-- Whether the host can select peers by the services that they offer. -/
  filtering : Bool
deriving DecidableEq

end ChainParams
