import ChainParams.Registry

/-!
# ChainParams — shared registries

A registry that is changed while others read it stands behind a lock, and is used by
calls. A call holds the lock from its start to its end, so that calls never overlap:
whoever makes them, they happen one after another on one registry.

* `Call`, `Answer`       — what can be asked of a shared registry, and what it says.
* `SharedRegistry.call`  — one call, with the state that it leaves behind.
* `SharedRegistry.run`   — calls one after another, with their answers.
-/

namespace ChainParams

/-- What can be asked of a shared registry. -/
inductive Call where
  | register (p : Profile)
  | isPubKeyHashId (id : UInt8)
  | isScriptHashId (id : UInt8)
  | isSegwitPrefix (text : String)
  | hdPublicId (bytes : List UInt8)
  | profile (magic : Magic)
  /-- Holds the lock to look at the registry as often as one likes. -/
  | read

/-- What a shared registry says to a call. -/
inductive Answer where
  | registered (outcome : Except Error Unit)
  | truth (value : Bool)
  | hdPublicId (outcome : Except Error HdKeyId)
  | profile (found : Option Profile)
  /-- The registry as it is while the lock is held. -/
  | seen (r : Registry)

/-- A registry behind a lock. -/
structure SharedRegistry where
  /-- What a reader sees who holds the lock. -/
  read : Registry

namespace SharedRegistry

/-- The answer to a call. -/
def answer (shared : SharedRegistry) : Call → Answer
  | .register p => .registered (shared.read.tryRegister p).1
  | .isPubKeyHashId id => .truth (shared.read.isPubKeyHashId id)
  | .isScriptHashId id => .truth (shared.read.isScriptHashId id)
  | .isSegwitPrefix text => .truth (shared.read.isSegwitPrefix text)
  | .hdPublicId bytes => .hdPublicId (shared.read.hdPublicId bytes)
  | .profile magic => .profile (shared.read.profile? magic)
  | .read => .seen shared.read

/-- The state behind a call: only a registration changes it. -/
def after (shared : SharedRegistry) : Call → SharedRegistry
  | .register p => ⟨(shared.read.tryRegister p).2⟩
  | _ => shared

/-- One call: its answer and the state behind it. -/
def call (shared : SharedRegistry) (c : Call) : Answer × SharedRegistry :=
  (shared.answer c, shared.after c)

/-- Calls one after another, with their answers in order. -/
def run (shared : SharedRegistry) : List Call → List Answer × SharedRegistry
  | [] => ([], shared)
  | c :: cs =>
    let (answer, next) := shared.call c
    let (answers, last) := next.run cs
    (answer :: answers, last)

end SharedRegistry

/-- Moves a registry behind a lock. -/
def Registry.share (r : Registry) : SharedRegistry :=
  ⟨r⟩

end ChainParams
