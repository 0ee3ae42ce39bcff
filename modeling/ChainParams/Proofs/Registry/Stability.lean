import ChainParams.Proofs.Config.Resolution

/-!
# ChainParams — answers that last

A program asks a registry at some point and goes on registering networks. This module says
which of the answers it may keep.

What an index says of an id, a prefix or a magic stays true, and a profile that was found by
its magic or its name is found again: registrations only add to an index, and whatever they
add comes behind the profiles that are there. Two lookups can change an answer that they
gave. The table of extended keys goes by the last profile, so a new one with the same private
id replaces the answer. And a name that was read as a name of a built-in network is taken over
by the first new profile that has it exactly.

Neither lookup can lose an answer, and the profile that changes one is among those accepted
since (`hdPublicId_registerAll`, `Config.resolve_registerAll`).

## Results

* `Config.resolve_registerAll` — how the resolution of a name changes.
* `answers_last`               — what each lookup keeps of its answers.
-/

namespace ChainParams

/-- A name that is resolved stays so, and to the same profile unless it was read as a name of
a built-in network and a profile that has it exactly has been accepted. -/
theorem Config.resolve_registerAll {c : Config} {r : Registry} {p : Profile}
    (hr : r.Consistent) (h : c.resolve r = .ok p) (ps : List Profile) :
    ∃ now, c.resolve (r.registerAll ps) = .ok now ∧
      (now ≠ p → r.named? c.network = none ∧
        (∃ n : Network, n.IsName c.network ∧ r.profile? n.magic = some p) ∧
        ∃ q ∈ r.accepted ps, q.name = c.network) := by
  -- a profile of the name stays the first one; without one, a later profile may come first
  rcases resolve_eq_ok_iff.mp h with hexact | ⟨hnone, hbuiltin⟩
  · have hnow := Registry.named?_registerAll hexact ps
    exact ⟨p, resolve_eq_ok_iff.mpr (Or.inl hnow), fun hne => absurd rfl hne⟩
  · have hnow := Registry.named?_registerAll_eq r c.network ps
    rw [hnone, Option.none_or] at hnow
    cases hlater : (r.accepted ps).find? fun q => q.name == c.network with
    | some q =>
      -- the name has been taken over
      rw [hlater] at hnow
      have hname : q.name = c.network := by simpa using List.find?_some hlater
      exact ⟨q, resolve_eq_ok_iff.mpr (Or.inl hnow),
        fun _ => ⟨hnone, hbuiltin, q, List.mem_of_find?_eq_some hlater, hname⟩⟩
    | none =>
      rw [hlater] at hnow
      obtain ⟨n, hn, hmagic⟩ := hbuiltin
      have hkept := Registry.profile?_registerAll hr hmagic ps
      exact ⟨p, resolve_eq_ok_iff.mpr (Or.inr ⟨hnow, n, hn, hkept⟩),
        fun hne => absurd rfl hne⟩

namespace Registry

/-- What is true in an index to which each profile adds its own entry stays true. -/
theorem index_registerAll_of_true (index : Registry → Bool) {has : Profile → Bool}
    (insert : ∀ s p, index (s.insert p) = (has p || index s)) {r : Registry}
    (h : index r = true) (ps : List Profile) : index (r.registerAll ps) = true := by
  rw [index_registerAll insert, h, Bool.true_or]

/--
**Answers last.** Let `ps` be attempted on a reachable registry. Ids, prefixes and magics
that were in use are in use, and a magic or a name that led to a profile leads to it. The
list only grows at its end. An id of extended private keys that had an answer has one; it can
be another only if a profile with that id has been accepted. A name that was resolved is
resolved; to another profile only if it was found as a name of a built-in network, no profile
having it exactly, and a profile that has it exactly has been accepted.
-/
theorem answers_last {r : Registry} (h : Reachable r) (ps : List Profile) :
    (∀ id, r.isPubKeyHashId id = true → (r.registerAll ps).isPubKeyHashId id = true) ∧
    (∀ id, r.isScriptHashId id = true → (r.registerAll ps).isScriptHashId id = true) ∧
    (∀ text, r.isSegwitPrefix text = true → (r.registerAll ps).isSegwitPrefix text = true) ∧
    (∀ magic, r.isRegistered magic = true → (r.registerAll ps).isRegistered magic = true) ∧
    (∀ magic p, r.profile? magic = some p → (r.registerAll ps).profile? magic = some p) ∧
    (∀ name p, r.named? name = some p → (r.registerAll ps).named? name = some p) ∧
    (r.registerAll ps).toList = r.toList ++ r.accepted ps ∧
    (∀ bytes key, r.hdPublicId bytes = .ok key →
      ∃ now, (r.registerAll ps).hdPublicId bytes = .ok now ∧
        (now ≠ key → ∃ p ∈ r.accepted ps, p.hdPrivateId.toList = bytes)) ∧
    (∀ name p, Config.resolve ⟨name⟩ r = .ok p →
      ∃ now, Config.resolve ⟨name⟩ (r.registerAll ps) = .ok now ∧
        (now ≠ p → (∀ q ∈ r.toList, q.name ≠ name) ∧
          (∃ n : Network,
            (Text.SameUpToCase name n.name ∨ Text.SameUpToCase name n.secondName) ∧
            r.profile? n.magic = some p) ∧
          ∃ q ∈ r.accepted ps, q.name = name)) := by
  have hr := h.consistent
  refine ⟨fun id hid => ?_, fun id hid => ?_, fun text htext => ?_, fun magic hmagic => ?_,
    fun magic p hp => profile?_registerAll hr hp ps, fun name p hp => named?_registerAll hp ps,
    toList_registerAll_eq r ps, fun bytes key hkey => hdPublicId_registerAll hr hkey ps,
    fun name p hp => ?_⟩
  · exact index_registerAll_of_true (isPubKeyHashId · id) (isPubKeyHashId_insert · · id) hid ps
  · exact index_registerAll_of_true (isScriptHashId · id) (isScriptHashId_insert · · id) hid ps
  · exact index_registerAll_of_true (isSegwitPrefix · text) (isSegwitPrefix_insert · · text) htext
      ps
  · exact index_registerAll_of_true (isRegistered · magic) (isRegistered_insert · · magic) hmagic ps
  · obtain ⟨now, hnow, hchange⟩ := Config.resolve_registerAll hr hp ps
    refine ⟨now, hnow, fun hne => ?_⟩
    obtain ⟨hnone, hbuiltin, hlater⟩ := hchange hne
    exact ⟨(named?_eq_none_iff r name).mp hnone, hbuiltin, hlater⟩

/-- A new network of the name `testnet` takes over that name from the one that went by it. -/
theorem second_name_taken_over :
    Reachable defaults ∧ Config.resolve ⟨"testnet"⟩ defaults = .ok .testnet4 ∧
    ∃ p, p ≠ .testnet4 ∧ Config.resolve ⟨"testnet"⟩ (defaults.registerAll [p]) = .ok p ∧
      (∀ q ∈ defaults.toList, q.name ≠ "testnet") ∧
      ∃ q ∈ defaults.accepted [p], q.name = "testnet" := by
  have hnone : defaults.named? "testnet" = none := by
    rw [named?_eq_none_iff, toList_defaults]
    decide
  have hbefore : Config.resolve ⟨"testnet"⟩ defaults = .ok .testnet4 :=
    Config.resolve_eq_ok_iff.mpr (Or.inr ⟨hnone, .testnet4, by decide, profile?_defaults .testnet4⟩)
  obtain ⟨p, hname, hmagic⟩ : ∃ p : Profile, p.name = "testnet" ∧ p.magic = ⟨1⟩ :=
    ⟨{ Profile.simnet with name := "testnet", magic := ⟨1⟩ }, rfl, rfl⟩
  have hnew : defaults.isRegistered p.magic = false := by
    rw [← Bool.not_eq_true, Reachable.defaults.consistent.isRegistered_iff, toList_defaults, hmagic]
    decide
  have hafter : Config.resolve ⟨"testnet"⟩ (defaults.registerAll [p]) = .ok p := by
    refine Config.resolve_eq_ok_iff.mpr (Or.inl ?_)
    rw [named?_registerAll_eq, hnone, accepted, if_neg (by simp [hnew])]
    simp [hname]
  have hother : p ≠ .testnet4 := by
    rintro rfl
    exact absurd hmagic (by decide)
  obtain ⟨-, -, -, -, -, -, -, -, hresolve⟩ := answers_last .defaults [p]
  obtain ⟨now, hnow, hchange⟩ := hresolve "testnet" .testnet4 hbefore
  rw [hafter, Except.ok.injEq] at hnow
  subst hnow
  obtain ⟨hexact, -, hlater⟩ := hchange hother
  exact ⟨.defaults, hbefore, p, hother, hafter, hexact, hlater⟩

end Registry

end ChainParams
