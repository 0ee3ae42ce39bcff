import ChainParams.Config
import ChainParams.Proofs.Registry.Growth
import ChainParams.Proofs.Text.LetterCase

/-!
# ChainParams — what the name of a network leads to

A configuration is resolved in two steps. The first profile that has the name exactly as it
is written comes first. Only if there is none, the name is read as one of the two names of a
built-in network, in any capitals, and that network is found by its magic.

A program may register profiles of its own under any names, those of the built-in networks
included. In the registry that it starts with, though, the built-in profiles are the first of
their names and hold their magics, and both are kept by whatever is registered later. So its
own profiles can take over a second name, or another way of writing a name, but never the
name of a built-in network itself.

## Results

* `Network.named?_eq_some_iff` — the names that stand for a built-in network.
* `Config.resolve_eq_ok_iff`   — the two ways in which a name is resolved.
* `builtin_not_displaced`      — the built-in networks among any others, and what each name
  leads to.
-/

namespace ChainParams

-- ---------------------------------------------------------------------------
-- Names of built-in networks
-- ---------------------------------------------------------------------------

namespace Network

/-- Whether a text is one of the two names of a network, in any capitals. -/
def IsName (n : Network) (s : String) : Prop :=
  Text.SameUpToCase s n.name ∨ Text.SameUpToCase s n.secondName

instance (n : Network) (s : String) : Decidable (n.IsName s) :=
  inferInstanceAs (Decidable (_ ∨ _))

/-- The names are written without capitals, so lowering a text is enough to compare it. -/
theorem isName_iff (n : Network) (s : String) :
    n.IsName s ↔ s.toLower = n.name ∨ s.toLower = n.secondName := by
  have hname : n.name.toLower = n.name := by cases n <;> decide +kernel
  have hsecond : n.secondName.toLower = n.secondName := by cases n <;> decide +kernel
  rw [IsName, Text.sameUpToCase_iff, Text.sameUpToCase_iff, hname, hsecond]

/-- No name stands for two networks. -/
theorem IsName.unique {n m : Network} {s : String} (hn : n.IsName s) (hm : m.IsName s) :
    n = m := by
  have hdistinct : ∀ n ∈ all, ∀ m ∈ all, ∀ t ∈ [n.name, n.secondName],
      t ∈ [m.name, m.secondName] → n = m := by decide
  rw [isName_iff] at hn hm
  exact hdistinct n (mem_all n) m (mem_all m) s.toLower (by simpa using hn) (by simpa using hm)

theorem isName_of_named? {s : String} {n : Network} (h : named? s = some n) : n.IsName s := by
  rw [named?] at h
  have hfound := List.find?_some h
  rw [Bool.or_eq_true, beq_iff_eq, beq_iff_eq] at hfound
  exact (isName_iff n s).mpr hfound

/-- A name is read as the built-in network that goes by it. -/
theorem named?_eq_some_iff (s : String) (n : Network) : named? s = some n ↔ n.IsName s := by
  constructor
  · exact isName_of_named?
  · intro h
    obtain ⟨m, hm⟩ : ∃ m, named? s = some m := by
      rw [← Option.isSome_iff_exists, named?, List.find?_isSome]
      exact ⟨n, mem_all n, by simpa using (isName_iff n s).mp h⟩
    -- the search may stop at an earlier network, but no other goes by the name
    rw [hm, (isName_of_named? hm).unique h]

theorem named?_eq_none_iff (s : String) : named? s = none ↔ ∀ n : Network, ¬ n.IsName s := by
  simp only [Option.eq_none_iff_forall_ne_some, ne_eq, named?_eq_some_iff]

end Network

-- ---------------------------------------------------------------------------
-- Resolution
-- ---------------------------------------------------------------------------

namespace Config

variable {c : Config} {r : Registry} {p : Profile}

/-- A name is resolved as it is written, or else as a name of a built-in network. -/
theorem resolve_eq_ok_iff :
    c.resolve r = .ok p ↔
      r.named? c.network = some p ∨
      r.named? c.network = none ∧ ∃ n : Network, n.IsName c.network ∧
        r.profile? n.magic = some p := by
  have hbuiltin : (∃ n : Network, n.IsName c.network ∧ r.profile? n.magic = some p) ↔
      ((Network.named? c.network).bind fun n => r.profile? n.magic) = some p := by
    simp only [Option.bind_eq_some_iff, Network.named?_eq_some_iff]
  rw [hbuiltin, resolve]
  -- the registry is asked first, and only its silence leads to the built-in names
  cases r.named? c.network with
  | some q => simp
  | none =>
    cases (Network.named? c.network).bind fun n => r.profile? n.magic with
    | some q => simp
    | none => simp

/-- A name that no profile has and that no built-in network goes by is given back in the
error. -/
theorem resolve_of_unknown (hexact : r.named? c.network = none)
    (hbuiltin : ∀ n : Network, ¬ n.IsName c.network) :
    c.resolve r = .error (.unknownNetwork c.network) := by
  rw [resolve, hexact, (Network.named?_eq_none_iff _).mpr hbuiltin]
  rfl

end Config

-- ---------------------------------------------------------------------------
-- The built-in networks among others
-- ---------------------------------------------------------------------------

namespace Registry

theorem profile?_defaults (n : Network) :
    defaults.profile? n.magic = some (Profile.ofNetwork n) := by
  rw [Reachable.defaults.consistent.profile?_eq_some_iff, toList_defaults]
  exact ⟨List.mem_map_of_mem (Network.mem_all n), Profile.magic_ofNetwork n⟩

/-- No built-in profile has the name of an earlier one. -/
theorem named?_defaults (n : Network) :
    defaults.named? n.name = some (Profile.ofNetwork n) := by
  rw [named?, toList_defaults]
  cases n <;> rfl

/--
**Built-in networks are not displaced.** Whatever is registered beside them, the built-in
profiles stay at the front of the registry, and each is found by its magic, by its name, and
by a configuration that gives its name. Any other name leads to the first profile that has
it; without one, to the built-in network that goes by it in some capitals; and without that
to an error that holds the name as it is.
-/
theorem builtin_not_displaced (ps : List Profile) :
    (defaults.registerAll ps).toList.take 4 = Network.all.map Profile.ofNetwork ∧
    (∀ n : Network,
      (defaults.registerAll ps).profile? n.magic = some (Profile.ofNetwork n) ∧
      (defaults.registerAll ps).named? n.name = some (Profile.ofNetwork n) ∧
      Config.resolve ⟨n.name⟩ (defaults.registerAll ps) = .ok (Profile.ofNetwork n)) ∧
    (∀ s : String,
      ((∃ p ∈ (defaults.registerAll ps).toList, p.name = s) →
        ∃ before p after, (defaults.registerAll ps).toList = before ++ p :: after ∧
          p.name = s ∧ (∀ q ∈ before, q.name ≠ s) ∧
          Config.resolve ⟨s⟩ (defaults.registerAll ps) = .ok p) ∧
      ((∀ p ∈ (defaults.registerAll ps).toList, p.name ≠ s) →
        (∀ n : Network, Text.SameUpToCase s n.name ∨ Text.SameUpToCase s n.secondName →
          Config.resolve ⟨s⟩ (defaults.registerAll ps) = .ok (Profile.ofNetwork n)) ∧
        ((∀ n : Network, ¬ (Text.SameUpToCase s n.name ∨ Text.SameUpToCase s n.secondName)) →
          Config.resolve ⟨s⟩ (defaults.registerAll ps) = .error (.unknownNetwork s)))) := by
  have hmagic (n : Network) :=
    profile?_registerAll Reachable.defaults.consistent (profile?_defaults n) ps
  have hname (n : Network) := named?_registerAll (named?_defaults n) ps
  refine ⟨?_, fun n => ⟨hmagic n, hname n, ?_⟩, fun s => ⟨?_, fun hexact => ?_⟩⟩
  · rw [toList_registerAll_eq, toList_defaults]
    exact List.take_left' rfl
  · exact Config.resolve_eq_ok_iff.mpr (Or.inl (hname n))
  · -- some profile has the name, so the search stops at the first that has it
    rintro ⟨q, hq, hqs⟩
    obtain ⟨p, hp⟩ : ∃ p, (defaults.registerAll ps).named? s = some p := by
      rw [← Option.ne_none_iff_exists', ne_eq, named?_eq_none_iff]
      intro hnone
      exact hnone q hq hqs
    obtain ⟨hps, before, after, heq, hbefore⟩ := (named?_eq_some_iff _ _ _).mp hp
    exact ⟨before, p, after, heq, hps, hbefore, Config.resolve_eq_ok_iff.mpr (Or.inl hp)⟩
  · have hnone := (named?_eq_none_iff _ _).mpr hexact
    constructor
    · intro n hn
      exact Config.resolve_eq_ok_iff.mpr (Or.inr ⟨hnone, n, hn, hmagic n⟩)
    · intro hn
      exact Config.resolve_of_unknown hnone hn

end Registry

end ChainParams
