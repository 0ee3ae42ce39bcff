import ChainParams.Profile.Builtin
import ChainParams.Registry

/-!
# ChainParams — the registry of built-in networks

The registry that a program starts with. A built-in profile that cannot be registered
would be a fault of this library, and ends the program.

* `Registry.defaults`     — the registry that holds the built-in networks.
* `Registry.mustRegister` — a registration whose failure is fatal.
-/

namespace ChainParams

/-- The end of a program that cannot register a network it has to have. -/
structure FatalError where
  cause : Error

/-- What the program says at its end. -/
def FatalError.message (e : FatalError) : String :=
  s!"failed to register network: {e.cause.message}"

namespace Registry

/-- Registers a profile that has to be accepted. -/
def mustRegister (r : Registry) (p : Profile) : Except FatalError Registry :=
  (r.register p).mapError FatalError.mk

/-- The registry of the built-in networks. -/
def defaults : Registry :=
  empty.registerAll Profile.builtin

/-- What setting up the built-in networks says in the log. -/
def defaultsReport : List Event :=
  empty.reportAll Profile.builtin ++ [.bootstrapped defaults.size]

end Registry

end ChainParams
