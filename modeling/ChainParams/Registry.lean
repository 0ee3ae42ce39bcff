import ChainParams.Error
import Std.Data.HashMap
import Std.Data.HashSet

/-!
# ChainParams — the registry

A registry holds the profiles of networks in the order in which they were registered,
and indices by which an id is classified without knowing the network that it is from.
The indices run over all registered networks: where two share an id, a lookup does not
tell them apart.

A magic can be registered once; a second profile with it is refused and nothing changes.
A profile with defects is registered all the same, and reported.

* `Registry.tryRegister`  — one more profile or the error of a magic in use, and what is left of
  the registry either way.
* `Registry.register`     — the same for who goes on only with one more profile.
* `Registry.registerAll`  — profiles one after another, refused ones left out.
* `Registry.report`       — what registering a profile says in the log.
* `Registry.isPubKeyHashId`, `isScriptHashId`, `isSegwitPrefix`, `hdPublicId` — the lookups
  in the indices.
* `Registry.profile?`, `Registry.named?` — the profile of a magic, and the first of a name.

## Results

* `Registry.toList_insert`, `isRegistered_insert` and the like — each lookup after one more
  profile, in terms of the lookup before.
-/

namespace ChainParams

/-- Registered profiles and the indices over them. -/
structure Registry where
  /-- The profiles in the order of registration. -/
  profiles : Array Profile
  /-- The place of the profile of each magic. -/
  places : Std.HashMap Magic Nat
  pubKeyHashIds : Std.HashSet UInt8
  scriptHashIds : Std.HashSet UInt8
  /-- The human-readable parts with the separator behind them. -/
  segwitPrefixes : Std.HashSet String
  /-- The public id that goes with each private one. -/
  hdIds : Std.HashMap HdKeyId HdKeyId

namespace Registry

/-- Whether two sets have the same members. -/
def sameMembers {α : Type} [BEq α] [Hashable α] (a b : Std.HashSet α) : Bool :=
  a.all b.contains && b.all a.contains

/-- Two registries are equal if their profiles and all their indices are; the order in
which an index was filled does not matter. -/
instance : BEq Registry where
  beq a b :=
    a.profiles == b.profiles && a.places == b.places &&
    sameMembers a.pubKeyHashIds b.pubKeyHashIds &&
    sameMembers a.scriptHashIds b.scriptHashIds &&
    sameMembers a.segwitPrefixes b.segwitPrefixes && a.hdIds == b.hdIds

/-- The registry without networks. -/
def empty : Registry where
  profiles := #[]
  places := ∅
  pubKeyHashIds := ∅
  scriptHashIds := ∅
  segwitPrefixes := ∅
  hdIds := ∅

-- ---------------------------------------------------------------------------
-- Lookups
-- ---------------------------------------------------------------------------

/-- The profiles in the order of registration. -/
def toList (r : Registry) : List Profile :=
  r.profiles.toList

/-- The number of networks. -/
def size (r : Registry) : Nat :=
  r.profiles.size

/-- Whether there are no networks. -/
def isEmpty (r : Registry) : Bool :=
  r.profiles.isEmpty

/-- Whether a network has the magic. -/
def isRegistered (r : Registry) (magic : Magic) : Bool :=
  r.places.contains magic

/-- The profile of the network with the magic. -/
def profile? (r : Registry) (magic : Magic) : Option Profile :=
  (r.places[magic]?).bind fun place => r.profiles[place]?

/-- The first profile of a name. -/
def named? (r : Registry) (name : String) : Option Profile :=
  r.toList.find? fun p => p.name == name

/-- Whether some network's addresses that pay to a public key's digest start with the byte.
The same byte may be one of `isScriptHashId`, and then it does not say what an address is. -/
def isPubKeyHashId (r : Registry) (id : UInt8) : Bool :=
  r.pubKeyHashIds.contains id

/-- Whether some network's addresses that pay to a script's digest start with the byte. -/
def isScriptHashId (r : Registry) (id : UInt8) : Bool :=
  r.scriptHashIds.contains id

/-- The bytes that start addresses of public keys, and those that start addresses of
scripts, ascending. -/
def addressIds (r : Registry) : List UInt8 × List UInt8 :=
  let ids := (List.range 256).map UInt8.ofNat
  (ids.filter r.isPubKeyHashId, ids.filter r.isScriptHashId)

/-- What the segwit addresses of a human-readable part start with. -/
def segwitPrefix (hrp : String) : String :=
  hrp ++ "1"

/-- Whether the segwit addresses of some network start with the text; the text is taken in
lower case. -/
def isSegwitPrefix (r : Registry) (text : String) : Bool :=
  r.segwitPrefixes.contains (Text.lower text)

/-- The id of extended public keys that goes with an id of extended private keys. -/
def hdPublicId (r : Registry) (bytes : List UInt8) : Except Error HdKeyId :=
  match (HdKeyId.ofBytes? bytes).bind fun id => r.hdIds[id]? with
  | some id => .ok id
  | none => .error .unknownHdKeyId

-- ---------------------------------------------------------------------------
-- Registration
-- ---------------------------------------------------------------------------

/-- Enters a profile into the list and every index. -/
def insert (r : Registry) (p : Profile) : Registry where
  profiles := r.profiles.push p
  places := r.places.insert p.magic r.profiles.size
  pubKeyHashIds := r.pubKeyHashIds.insert p.pubKeyHashId
  scriptHashIds := r.scriptHashIds.insert p.scriptHashId
  segwitPrefixes := r.segwitPrefixes.insert (segwitPrefix p.hrp)
  hdIds := r.hdIds.insert p.hdPrivateId p.hdPublicId

/-- Registers a profile: what comes of it, and the registry that is left behind. A magic in use is
refused before anything is entered. -/
def tryRegister (r : Registry) (p : Profile) : Except Error Unit × Registry :=
  if r.isRegistered p.magic then (.error (.duplicateNetwork p.magic), r) else (.ok (), r.insert p)

/-- The registry with one more profile, for a caller who does not go on after a refusal. -/
def register (r : Registry) (p : Profile) : Except Error Registry :=
  (r.tryRegister p).1.map fun _ => (r.tryRegister p).2

/-- The registry after an attempt to register a profile, whatever came of it. -/
def attempt (r : Registry) (p : Profile) : Registry :=
  (r.tryRegister p).2

/-- The registry after attempts to register profiles one after another. -/
def registerAll (r : Registry) (ps : List Profile) : Registry :=
  ps.foldl attempt r

-- ---------------------------------------------------------------------------
-- What one more profile does to each lookup
-- ---------------------------------------------------------------------------

theorem toList_insert (r : Registry) (p : Profile) :
    (r.insert p).toList = r.toList ++ [p] := by
  simp [insert, toList]

theorem isRegistered_insert (r : Registry) (p : Profile) (magic : Magic) :
    (r.insert p).isRegistered magic = (p.magic == magic || r.isRegistered magic) :=
  Std.HashMap.contains_insert

theorem isPubKeyHashId_insert (r : Registry) (p : Profile) (id : UInt8) :
    (r.insert p).isPubKeyHashId id = (p.pubKeyHashId == id || r.isPubKeyHashId id) :=
  Std.HashSet.contains_insert

theorem isScriptHashId_insert (r : Registry) (p : Profile) (id : UInt8) :
    (r.insert p).isScriptHashId id = (p.scriptHashId == id || r.isScriptHashId id) :=
  Std.HashSet.contains_insert

theorem isSegwitPrefix_insert (r : Registry) (p : Profile) (text : String) :
    (r.insert p).isSegwitPrefix text =
      (segwitPrefix p.hrp == Text.lower text || r.isSegwitPrefix text) :=
  Std.HashSet.contains_insert

/-- A refused call says why, and leaves the registry as it was. -/
theorem tryRegister_of_isRegistered {r : Registry} {p : Profile} (h : r.isRegistered p.magic) :
    r.tryRegister p = (.error (.duplicateNetwork p.magic), r) := by
  rw [tryRegister, if_pos h]

theorem tryRegister_of_not_isRegistered {r : Registry} {p : Profile}
    (h : r.isRegistered p.magic = false) : r.tryRegister p = (.ok (), r.insert p) := by
  rw [tryRegister, h]
  rfl

theorem register_eq_ok_iff {r s : Registry} {p : Profile} :
    r.register p = .ok s ↔ r.tryRegister p = (.ok (), s) := by
  rw [register, map_eq_ok_iff]
  constructor
  · rintro ⟨u, hu, rfl⟩
    exact Prod.ext hu rfl
  · intro h
    rw [h]
    exact ⟨(), rfl, rfl⟩

theorem register_of_not_isRegistered {r : Registry} {p : Profile}
    (h : r.isRegistered p.magic = false) : r.register p = .ok (r.insert p) :=
  register_eq_ok_iff.mpr (tryRegister_of_not_isRegistered h)

theorem attempt_of_isRegistered {r : Registry} {p : Profile} (h : r.isRegistered p.magic) :
    r.attempt p = r := by
  rw [attempt, tryRegister_of_isRegistered h]

theorem attempt_of_not_isRegistered {r : Registry} {p : Profile}
    (h : r.isRegistered p.magic = false) : r.attempt p = r.insert p := by
  rw [attempt, tryRegister_of_not_isRegistered h]

-- ---------------------------------------------------------------------------
-- The log
-- ---------------------------------------------------------------------------

/-- What the log holds. -/
inductive Event where
  /-- A profile with defects is about to be registered. -/
  | inconsistent (name : String) (cause : Error)
  | registered (name : String) (magic : Magic)
  /-- The built-in networks have been registered. -/
  | bootstrapped (count : Nat)

/-- A line of the log, its level in front. -/
def Event.line : Event → String
  | inconsistent name cause =>
    s!"WARN Registering network {name} with inconsistent parameters: {cause.message}"
  | registered name magic => s!"DEBUG Registered network {name} ({magic.title})"
  | bootstrapped count => s!"INFO Registered {count} built-in networks"

/-- What an attempt to register a profile says in the log. -/
def report (r : Registry) (p : Profile) : List Event :=
  if r.isRegistered p.magic then []
  else
    (match p.validate with
      | .ok () => []
      | .error cause => [.inconsistent p.name cause]) ++
    [.registered p.name p.magic]

/-- What attempts to register profiles one after another say in the log. -/
def reportAll (r : Registry) : List Profile → List Event
  | [] => []
  | p :: ps => r.report p ++ reportAll (r.attempt p) ps

end Registry

end ChainParams
