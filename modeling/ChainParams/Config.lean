import ChainParams.Registry

/-!
# ChainParams — the choice of a network

A configuration names the network to work on. The name is looked up among the
registered ones as it is; only if there is none, it may be another name of a built-in
network.

* `Config.builtinNetwork` — the built-in network that the name refers to.
* `Config.resolve`        — the profile of the chosen network in a registry.
-/

namespace ChainParams

/-- The choice of a network. -/
structure Config where
  network : String
deriving DecidableEq

namespace Config

/-- The main network, which is chosen where nothing is said. -/
def standard : Config :=
  ⟨Network.mainnet.name⟩

/-- The built-in network that a name refers to. -/
def networkNamed (name : String) : Except Error Network :=
  match Network.named? name with
  | some network => .ok network
  | none => .error (.unknownNetwork name)

/-- The built-in network that is chosen. -/
def builtinNetwork (c : Config) : Except Error Network :=
  networkNamed c.network

/-- The profile of the chosen network in a registry. -/
def resolve (c : Config) (r : Registry) : Except Error Profile :=
  match r.named? c.network with
  | some p => .ok p
  | none =>
    match (Network.named? c.network).bind fun network => r.profile? network.magic with
    | some p => .ok p
    | none => .error (.unknownNetwork c.network)

end Config

end ChainParams
