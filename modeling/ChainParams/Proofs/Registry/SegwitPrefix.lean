import ChainParams.Proofs.Profile.Rules
import ChainParams.Proofs.Registry.SoundProfile
import ChainParams.Proofs.Text.Lowering
import Mathlib.Data.Bool.AllAny

/-!
# ChainParams — which texts are segwit prefixes

A registry enters the segwit prefix of a profile as it is and takes a query in lower case. So
a query is a prefix if its lower-case form has been entered, and what a profile gains from its
human-readable part depends on that part being in lower case.

A part that is its own lower-case form is found by itself, with the separator behind it. Any
other part is never found, because what a query is lowered to is always its own lower-case
form (`exists_query_iff`). This is the rule that validation checks, for all texts and not for
ASCII ones alone.

Lowering is that of the whole repertoire, while the prefixes of sound profiles are ASCII. They
are found in any capitalization, and besides with the Kelvin sign for the letter k, which is
the one character beyond ASCII that is lowered into it. Such a text starts no segwit address.

## Results

* `exists_query_iff`               — a human-readable part that some query finds.
* `Consistent.isSegwitPrefix_iff_of_small` — the queries that find ASCII parts without capitals.
* `segwitPrefix_classified`        — the classification of queries.
* `segwitPrefix_beyond_ascii`      — the queries beyond ASCII that are taken for prefixes.
* `kelvin_sign_accepted`           — there are some, though all profiles are sound.
-/

namespace ChainParams

namespace Registry

-- ---------------------------------------------------------------------------
-- Human-readable parts and the queries for them
-- ---------------------------------------------------------------------------

/-- A human-readable part is found by some query exactly if it is in lower case. -/
theorem exists_query_iff (hrp : String) :
    (∃ query, Text.lower query = segwitPrefix hrp) ↔ Text.lower hrp = hrp := by
  rw [Text.exists_lower_eq_iff, segwitPrefix, Text.lower_append_separator]
  exact String.append_left_inj _

/-- A query finds an ASCII part without capitals exactly if it is its prefix up to case, once
the Kelvin sign is written as a letter. -/
theorem lower_eq_segwitPrefix_iff {hrp : String}
    (hsmall : ∀ c ∈ hrp.toList, c.toNat < 128 ∧ ¬ ('A' ≤ c ∧ c ≤ 'Z')) (query : String) :
    Text.lower query = segwitPrefix hrp ↔
      Text.SameUpToCase (query.map Text.withoutKelvin) (segwitPrefix hrp) := by
  have hchars := Profile.forall_mem_segwitPrefix hsmall (by decide)
  have hlower : (segwitPrefix hrp).toLower = segwitPrefix hrp :=
    (Text.string_toLower_eq_self_iff _).mpr fun c hc => (hchars c hc).2
  rw [Text.lower_eq_iff_of_ascii fun c hc => (hchars c hc).1, Text.sameUpToCase_iff, hlower]

/-- Where all parts are ASCII without capitals, the queries that are found are the prefixes up to
case, once the Kelvin sign is written as a letter. -/
theorem Consistent.isSegwitPrefix_iff_of_small {r : Registry} (hr : r.Consistent)
    (hsmall : ∀ p ∈ r.toList, ∀ c ∈ p.hrp.toList, c.toNat < 128 ∧ ¬ ('A' ≤ c ∧ c ≤ 'Z'))
    (query : String) :
    r.isSegwitPrefix query = true ↔
      ∃ p ∈ r.toList, Text.SameUpToCase (query.map Text.withoutKelvin) (p.hrp ++ "1") := by
  rw [hr.isSegwitPrefix_iff]
  refine exists_congr fun p => and_congr_right fun hp => ?_
  rw [eq_comm, lower_eq_segwitPrefix_iff (hsmall p hp)]
  rfl

/-- A profile alone in a registry is found by some query exactly if it is in lower case, and by
none exactly if validation says that it is not. -/
theorem Consistent.isSegwitPrefix_iff_of_alone {r : Registry} (hr : r.Consistent) {p : Profile}
    (hp : r.toList = [p]) :
    (∃ query, r.isSegwitPrefix query = true) ↔ Text.lower p.hrp = p.hrp := by
  rw [← exists_query_iff]
  refine exists_congr fun query => ?_
  rw [hr.isSegwitPrefix_iff, hp]
  simp [eq_comm]

/--
**The classification of queries.** In a reachable registry a query is a segwit prefix exactly
if its lower-case form is the human-readable part of a registered profile with the separator
behind it. Where all these parts are ASCII without capitals, the ASCII queries among them are
the prefixes up to the case of letters. A profile that is alone in a registry is found by some
query exactly if its part is its own lower-case form; and it is one of its defects not to be
exactly if there is no query that finds it.
-/
theorem segwitPrefix_classified {r : Registry} (hr : Reachable r) :
    (∀ query, r.isSegwitPrefix query = true ↔
      ∃ p ∈ r.toList, p.hrp ++ "1" = Text.lower query) ∧
    ((∀ p ∈ r.toList, ∀ c ∈ p.hrp.toList, c.toNat < 128 ∧ ¬ ('A' ≤ c ∧ c ≤ 'Z')) →
      ∀ query : String, (∀ c ∈ query.toList, c.toNat < 128) →
        (r.isSegwitPrefix query = true ↔
          ∃ p ∈ r.toList, Text.SameUpToCase query (p.hrp ++ "1"))) ∧
    (∀ p, r.toList = [p] →
      ((∃ query, r.isSegwitPrefix query = true) ↔ Text.lower p.hrp = p.hrp) ∧
      ((∃ defects, p.validate = .error (.invalidProfile p.name defects) ∧
          Defect.capitalHrp p.hrp ∈ defects) ↔
        ∀ query, r.isSegwitPrefix query = false)) := by
  have hc := hr.consistent
  refine ⟨hc.isSegwitPrefix_iff, fun hsmall query hascii => ?_, fun p hp => ?_⟩
  · rw [hc.isSegwitPrefix_iff_of_small hsmall, Text.map_withoutKelvin hascii]
  · have hfound := hc.isSegwitPrefix_iff_of_alone hp
    refine ⟨hfound, ?_⟩
    rw [p.exists_validate_eq_error_iff, p.capitalHrp_mem_defects_iff, Ne, ← hfound]
    simp

/-- A profile alone in a registry. -/
theorem toList_attempt_empty (p : Profile) : (empty.attempt p).toList = [p] := by
  have hfree : empty.isRegistered p.magic = false := by
    simp [empty, isRegistered]
  rw [attempt_of_not_isRegistered hfree, toList_insert]
  rfl

theorem validate_of_mem_alone {p q : Profile} (hp : p.validate = .ok ())
    (hq : q ∈ (empty.attempt p).toList) : q.validate = .ok () := by
  rw [toList_attempt_empty, List.mem_singleton] at hq
  rw [hq, hp]

/-- The prefix of the test network in capitals, a human-readable part in capitals that is never
found, and one with a final sigma that is. -/
theorem capital_part_never_found :
    Reachable defaults ∧
    (∀ p ∈ defaults.toList, ∀ c ∈ p.hrp.toList, c.toNat < 128 ∧ ¬ ('A' ≤ c ∧ c ≤ 'Z')) ∧
    defaults.isSegwitPrefix "TEAC1" = true ∧
    (∀ query, (empty.attempt { Profile.simnet with hrp := "XYZ" }).isSegwitPrefix query = false) ∧
    (empty.attempt { Profile.simnet with hrp := "ας" }).isSegwitPrefix "ΑΣ1" = true := by
  have hsmall : ∀ p ∈ defaults.toList, ∀ c ∈ p.hrp.toList,
      c.toNat < 128 ∧ ¬ ('A' ≤ c ∧ c ≤ 'Z') := by
    rw [toList_defaults, Profile.builtin, List.forall_mem_map]
    exact fun n _ => (Profile.sound_ofNetwork n).hrp_small
  refine ⟨.defaults, hsmall, ?_, ?_, ?_⟩
  · refine ((segwitPrefix_classified .defaults).2.1 hsmall "TEAC1"
      (List.all_iff_forall_prop.mp (by decide))).mpr ?_
    rw [toList_defaults]
    exact ⟨.testnet4, by decide, by decide⟩
  · have halone := toList_attempt_empty { Profile.simnet with hrp := "XYZ" }
    refine (((segwitPrefix_classified (.attempt _ .empty)).2.2 _ halone).2).mp ?_
    exact ⟨_, rfl, by decide +kernel⟩
  · refine ((segwitPrefix_classified (.attempt _ .empty)).1 "ΑΣ1").mpr ?_
    rw [toList_attempt_empty]
    exact ⟨_, List.mem_singleton_self _, by decide +kernel⟩

-- ---------------------------------------------------------------------------
-- Queries beyond ASCII
-- ---------------------------------------------------------------------------

/-- What is an ASCII text up to case but for the Kelvin sign has no other character beyond
ASCII. -/
theorem ascii_or_kelvin {query text : String}
    (h : Text.SameUpToCase (query.map Text.withoutKelvin) text)
    (htext : ∀ c ∈ text.toList, c.toNat < 128) {c : Char} (hc : c ∈ query.toList) :
    c.toNat < 128 ∨ c = '\u212A' := by
  by_cases hkelvin : c = '\u212A'
  · exact .inr hkelvin
  · have hmem : Text.withoutKelvin c ∈ (query.map Text.withoutKelvin).toList := by
      rw [String.toList_map]
      exact List.mem_map_of_mem hc
    have hascii := h.ascii htext _ hmem
    rw [Text.withoutKelvin, if_neg hkelvin] at hascii
    exact .inl hascii

/-- The Kelvin sign is in a query only where the letter k is in the part that it finds. -/
theorem k_mem_of_kelvin_mem {query hrp : String}
    (hsmall : ∀ c ∈ hrp.toList, c.toNat < 128 ∧ ¬ ('A' ≤ c ∧ c ≤ 'Z'))
    (h : Text.SameUpToCase (query.map Text.withoutKelvin) (segwitPrefix hrp))
    (hkelvin : '\u212A' ∈ query.toList) : 'k' ∈ hrp.toList := by
  have hk : 'k' ∈ (query.map Text.withoutKelvin).toList := by
    rw [String.toList_map]
    exact List.mem_map.mpr ⟨'\u212A', hkelvin, by decide⟩
  obtain ⟨d, hd, hkd⟩ := h.exists_mem hk
  have hplaces : ∀ c ∈ (segwitPrefix hrp).toList, c.toLower = c ∧ (c ∈ hrp.toList ∨ c = '1') :=
    Profile.forall_mem_segwitPrefix
      (fun c hc => ⟨(Text.toLower_eq_self_iff c).mpr (hsmall c hc).2, .inl hc⟩)
      ⟨by decide, .inr rfl⟩
  obtain ⟨hself, hmem⟩ := hplaces d hd
  have hdk : d = 'k' := by
    rw [← hself, ← hkd]
    decide
  subst hdk
  exact hmem.resolve_right (by decide)

/-- The query for a part that has the Kelvin sign in the place of its letters k. -/
def kelvinQuery (hrp : String) : String :=
  hrp.map (fun c => if c = 'k' then '\u212A' else c) ++ "1"

/-- Such a query is lowered to the prefix. -/
theorem lower_kelvinQuery {hrp : String}
    (hsmall : ∀ c ∈ hrp.toList, c.toNat < 128 ∧ ¬ ('A' ≤ c ∧ c ≤ 'Z')) :
    Text.lower (kelvinQuery hrp) = segwitPrefix hrp := by
  have hback : (kelvinQuery hrp).map Text.withoutKelvin = segwitPrefix hrp := by
    have hone : "1".toList.map Text.withoutKelvin = "1".toList := by decide
    rw [kelvinQuery, segwitPrefix, ← String.toList_inj, String.toList_map, String.toList_append,
      String.toList_append, String.toList_map, List.map_append, List.map_map, hone]
    -- character by character: the sign goes back to the letter it stands for
    refine congrArg (· ++ _) ((List.map_congr_left fun c hc => ?_).trans (List.map_id _))
    by_cases hk : c = 'k'
    · subst hk
      decide
    · simp [hk, Text.withoutKelvin_of_ascii (hsmall c hc).1]
  rw [lower_eq_segwitPrefix_iff hsmall, hback, Text.sameUpToCase_iff]

theorem kelvin_mem_kelvinQuery {hrp : String} (h : 'k' ∈ hrp.toList) :
    '\u212A' ∈ (kelvinQuery hrp).toList := by
  rw [kelvinQuery, String.toList_append, String.toList_map]
  exact List.mem_append_left _ (List.mem_map.mpr ⟨'k', h, if_pos rfl⟩)

/-- The letter k alone is the human-readable part of a sound profile. -/
theorem validate_letter_k : ({ Profile.simnet with hrp := "k" } : Profile).validate = .ok () := by
  rw [Profile.validate_eq_ok_iff, ← Profile.defects_eq_nil_iff]
  decide +kernel

/--
**Queries beyond ASCII.** Where all registered profiles are sound, a query is a segwit prefix
exactly if, with the Kelvin sign written as the letter k, it is the prefix of a registered
profile up to the case of letters. So no query with another character beyond ASCII is one; and
that no query beyond ASCII is one at all holds exactly if no human-readable part has the
letter k.
-/
theorem segwitPrefix_beyond_ascii {r : Registry} (hr : Reachable r)
    (hvalid : ∀ p ∈ r.toList, p.validate = .ok ()) :
    (∀ query, r.isSegwitPrefix query = true ↔
      ∃ p ∈ r.toList, Text.SameUpToCase (query.map Text.withoutKelvin) (p.hrp ++ "1")) ∧
    (∀ query : String, (∃ c ∈ query.toList, 128 ≤ c.toNat ∧ c ≠ '\u212A') →
      r.isSegwitPrefix query = false) ∧
    ((∀ query : String, (∃ c ∈ query.toList, 128 ≤ c.toNat) → r.isSegwitPrefix query = false) ↔
      ∀ p ∈ r.toList, 'k' ∉ p.hrp.toList) := by
  have hsmall := fun p hp => ((Profile.validate_eq_ok_iff p).mp (hvalid p hp)).hrp_small
  have hfound := hr.consistent.isSegwitPrefix_iff_of_small hsmall
  -- of a query that is found, the characters beyond ASCII are Kelvin signs
  have hkelvin {query : String} (h : r.isSegwitPrefix query = true) {c : Char}
      (hc : c ∈ query.toList) (hwide : 128 ≤ c.toNat) : c = '\u212A' := by
    obtain ⟨p, hp, hsame⟩ := (hfound query).mp h
    have hascii := Profile.forall_mem_segwitPrefix (fun c hc => (hsmall p hp c hc).1) (by decide)
    exact (ascii_or_kelvin hsame hascii hc).resolve_left (by omega)
  refine ⟨hfound, ?_, ?_, ?_⟩
  · rintro query ⟨c, hc, hwide, hother⟩
    rw [← Bool.not_eq_true]
    exact fun h => hother (hkelvin h hc hwide)
  · intro h p hp hk
    have hmissed := h (kelvinQuery p.hrp) ⟨_, kelvin_mem_kelvinQuery hk, by decide⟩
    have hquery : r.isSegwitPrefix (kelvinQuery p.hrp) = true := by
      rw [hr.consistent.isSegwitPrefix_iff]
      exact ⟨p, hp, (lower_kelvinQuery (hsmall p hp)).symm⟩
    rw [hmissed] at hquery
    cases hquery
  · rintro hnone query ⟨c, hc, hwide⟩
    rw [← Bool.not_eq_true]
    intro h
    obtain rfl := hkelvin h hc hwide
    obtain ⟨p, hp, hsame⟩ := (hfound query).mp h
    exact hnone p hp (k_mem_of_kelvin_mem (hsmall p hp) hsame hc)

/-- Where the letter k is a human-readable part, the Kelvin sign is found and an accent is not;
among the built-in networks no query beyond ASCII is. -/
theorem kelvin_sign_found :
    Reachable (empty.attempt { Profile.simnet with hrp := "k" }) ∧
    (∀ p ∈ (empty.attempt { Profile.simnet with hrp := "k" }).toList, p.validate = .ok ()) ∧
    (empty.attempt { Profile.simnet with hrp := "k" }).isSegwitPrefix "\u212A1" = true ∧
    (empty.attempt { Profile.simnet with hrp := "k" }).isSegwitPrefix "\u00E91" = false ∧
    ∀ query : String, (∃ c ∈ query.toList, 128 ≤ c.toNat) →
      defaults.isSegwitPrefix query = false := by
  have hr : Reachable (empty.attempt { Profile.simnet with hrp := "k" }) := .attempt _ .empty
  have hvalid : ∀ p ∈ (empty.attempt { Profile.simnet with hrp := "k" }).toList,
      p.validate = .ok () := fun _ => validate_of_mem_alone validate_letter_k
  have hbuiltin : ∀ p ∈ defaults.toList, p.validate = .ok () := by
    rw [toList_defaults, Profile.builtin, List.forall_mem_map]
    exact fun n _ => (Profile.validate_eq_ok_iff _).mpr (Profile.sound_ofNetwork n)
  obtain ⟨hfound, hmissed, -⟩ := segwitPrefix_beyond_ascii hr hvalid
  refine ⟨hr, hvalid, (hfound _).mpr ?_, hmissed _ ⟨'\u00E9', by decide, by decide⟩, ?_⟩
  · rw [toList_attempt_empty]
    refine ⟨_, List.mem_singleton_self _, ?_⟩
    rw [Text.SameUpToCase, String.toList_map]
    decide
  · refine (segwitPrefix_beyond_ascii .defaults hbuiltin).2.2.mpr ?_
    rw [toList_defaults]
    decide

/-- A query beyond ASCII that is taken for a segwit prefix: the Kelvin sign and the separator,
where the letter k is a human-readable part. -/
theorem kelvin_sign_accepted :
    ¬ ∀ r, Reachable r → (∀ p ∈ r.toList, p.validate = .ok ()) →
      ∀ query : String, (∃ c ∈ query.toList, 128 ≤ c.toNat) → r.isSegwitPrefix query = false := by
  intro h
  have hr : Reachable (empty.attempt { Profile.simnet with hrp := "k" }) := .attempt _ .empty
  have hmissed := h _ hr (fun _ => validate_of_mem_alone validate_letter_k) "\u212A1"
    ⟨'\u212A', by decide, by decide⟩
  have hfound :
      (empty.attempt { Profile.simnet with hrp := "k" }).isSegwitPrefix "\u212A1" = true := by
    rw [hr.consistent.isSegwitPrefix_iff, toList_attempt_empty]
    exact ⟨_, List.mem_singleton_self _, by decide +kernel⟩
  rw [hmissed] at hfound
  cases hfound

end Registry

end ChainParams
