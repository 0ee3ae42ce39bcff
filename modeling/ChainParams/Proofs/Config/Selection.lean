import ChainParams.Proofs.Codec.RoundTrip
import ChainParams.Proofs.Config.Resolution
import Mathlib.Data.List.Nodup

/-!
# ChainParams — a written choice selects its network

A choice of a network is written down, read back at another time, and resolved. Nothing is
asked of the name on the way. The text of the choice gives the name back whatever characters
it has, quotes and controls included. And a name that some profile has is never read as
another name of a built-in network, though it may be spelled like one: the profiles come
first.

So what is selected is the first profile of the name. The profile that the name was taken
from may be a later one. Since no two profiles share a magic, a profile stands at one place
of the list only, and it is the first of its name exactly if none before it has the name
(`Consistent.named?_name_eq_some_iff`).

## Results

* `Config.decode_document`               — the text of a choice reads back as the choice.
* `Consistent.named?_name_eq_some_iff`   — when the name of a profile leads to it.
* `written_choice_selects`               — what the written choice of a profile's name selects.
-/

namespace ChainParams

/-- The text of a choice reads back as the choice, whatever characters its name has. -/
theorem Config.decode_document (c : Config) : Config.decode c.document.write = .ok c := by
  rw [Config.decode, (Config.reads c).decode]
  rfl

namespace Registry

variable {r : Registry} {p : Profile} {before after : List Profile}

/-- No profile stands in the list twice, since no magic does. -/
theorem Consistent.nodup_toList (hr : r.Consistent) : r.toList.Nodup :=
  List.Nodup.of_map _ hr.nodup_magics

theorem exists_named? (hp : p ∈ r.toList) : ∃ q, r.named? p.name = some q := by
  rw [← Option.ne_none_iff_exists', ne_eq, named?_eq_none_iff]
  intro hnone
  exact hnone p hp rfl

/-- The name of a profile leads to it if no profile before it has the name. -/
theorem Consistent.named?_name_eq_some_iff (hr : r.Consistent)
    (hlist : r.toList = before ++ p :: after) :
    r.named? p.name = some p ↔ ∀ q ∈ before, q.name ≠ p.name := by
  constructor
  · intro h
    obtain ⟨-, front, back, heq, hfront⟩ := (named?_eq_some_iff _ _ _).mp h
    -- the place where the search finds the profile is the only one that it has
    have hnodup := hr.nodup_toList
    rw [heq, List.nodup_append, List.nodup_cons] at hnodup
    have hpfront : p ∉ front := fun hmem => hfront p hmem rfl
    rw [hlist, eq_comm, List.append_cons_inj_of_notMem hpfront hnodup.2.1.1] at heq
    rw [← heq.1]
    exact hfront
  · intro h
    exact (named?_eq_some_iff _ _ _).mpr ⟨rfl, before, after, hlist, h⟩

/--
**A written choice selects its network.** Take any profile of a reachable registry, and write
down the choice of its name. The text is read as that choice, and the choice is resolved to
the first profile that has exactly the name. It is the profile itself if and only if no
profile that was registered before it has the same name. The name may be any text, other
names of built-in networks included.
-/
theorem written_choice_selects (hr : Reachable r) (hlist : r.toList = before ++ p :: after) :
    ∃ q, Config.decode (Config.document ⟨p.name⟩).write = .ok ⟨p.name⟩ ∧
      Config.resolve ⟨p.name⟩ r = .ok q ∧
      (∃ front back, r.toList = front ++ q :: back ∧ q.name = p.name ∧
        ∀ x ∈ front, x.name ≠ p.name) ∧
      (q = p ↔ ∀ x ∈ before, x.name ≠ p.name) := by
  have hp : p ∈ r.toList := by simp [hlist]
  obtain ⟨q, hq⟩ := exists_named? hp
  obtain ⟨hname, front, back, heq, hfront⟩ := (named?_eq_some_iff _ _ _).mp hq
  refine ⟨q, Config.decode_document _, Config.resolve_eq_ok_iff.mpr (Or.inl hq),
    ⟨front, back, heq, hname, hfront⟩, ?_⟩
  rw [← hr.consistent.named?_name_eq_some_iff hlist, hq, Option.some.injEq]

/-- A network that is called by the second name of the public test network, in capitals, is
selected by its name, and the test network is not. -/
theorem capital_testnet_selected :
    ∃ p, Network.testnet4.IsName p.name ∧ Reachable (defaults.attempt p) ∧
      (defaults.attempt p).toList = Profile.builtin ++ p :: [] ∧
      Config.decode (Config.document ⟨p.name⟩).write = .ok ⟨p.name⟩ ∧
      Config.resolve ⟨p.name⟩ (defaults.attempt p) = .ok p := by
  obtain ⟨p, hname, hmagic⟩ : ∃ p : Profile, p.name = "TESTNET" ∧ p.magic = ⟨1⟩ :=
    ⟨{ Profile.simnet with name := "TESTNET", magic := ⟨1⟩ }, rfl, rfl⟩
  have hreachable : Reachable (defaults.attempt p) := .attempt p .defaults
  have hnew : defaults.isRegistered p.magic = false := by
    rw [← Bool.not_eq_true, Reachable.defaults.consistent.isRegistered_iff, toList_defaults,
      hmagic]
    decide
  have hlist : (defaults.attempt p).toList = Profile.builtin ++ p :: [] := by
    rw [attempt_of_not_isRegistered hnew, toList_insert, toList_defaults]
  obtain ⟨q, hdecode, hresolve, -, hself⟩ := written_choice_selects hreachable hlist
  have hfirst : ∀ x ∈ Profile.builtin, x.name ≠ p.name := by
    rw [hname]
    decide
  rw [hself.mpr hfirst] at hresolve
  refine ⟨p, ?_, hreachable, hlist, hdecode, hresolve⟩
  rw [hname]
  decide

end Registry

end ChainParams
