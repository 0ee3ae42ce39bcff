import ChainParams.Proofs.Codec.Fields

/-!
# ChainParams — truncated texts

A configuration without a network means the main network, so a text that has lost its end must
not be taken for one that says less. It never is: the value of a record ends with its closing
bracket, whatever stands before it, and without that bracket nothing is read.

A cut leaves the text as it was up to blanks, or it takes the bracket away. In the first case the
same value is read. In the second no value is: if there were one, it would end with a bracket of
its own, and the whole text would have been read up to there already.

## Results

* `Reader.Delimited.decode_append` — what a cut does to a reader of this kind.
* `truncated_text`                 — configurations, in texts and files, and lists of checkpoints.
-/

namespace ChainParams.Json

variable {α : Type}

theorem blanks_append {v w : List Char} : Blanks (v ++ w) ↔ Blanks v ∧ Blanks w := by
  simp only [Blanks, List.mem_append, or_imp, forall_and]

/-- If the text in front of a cut is read, nothing but blanks has been cut off. -/
theorem Reader.Delimited.blanks_of_decode {reader : Reader α} (h : reader.Delimited)
    {p x : List Char} {a b : α} (hwhole : reader.decodeChars (p ++ x) = .ok a)
    (hcut : reader.decodeChars p = .ok b) : Blanks x := by
  obtain ⟨r, hrun, hr⟩ := decodeChars_eq_ok_iff.mp hwhole
  obtain ⟨r', hrun', -⟩ := decodeChars_eq_ok_iff.mp hcut
  obtain ⟨u, c, -, rfl, hread⟩ := h hrun'
  -- both texts are read up to the same bracket
  have hsame := hread (r' ++ x)
  rw [← List.cons_append, ← List.append_assoc, hrun, Except.ok.injEq, Prod.mk.injEq] at hsame
  rw [hsame.2, blanks_append] at hr
  exact hr.2

/-- If nothing but blanks is cut off, the same value is read. -/
theorem Reader.Delimited.decode_of_blanks {reader : Reader α} (h : reader.Delimited)
    {p x : List Char} {a : α} (hwhole : reader.decodeChars (p ++ x) = .ok a) (hx : Blanks x) :
    reader.decodeChars p = .ok a := by
  obtain ⟨r, hrun, hr⟩ := decodeChars_eq_ok_iff.mp hwhole
  obtain ⟨u, c, hc, heq, hread⟩ := h hrun
  -- the bracket is no blank, so it stands in front of the cut
  have hkept : c ∉ x := fun hmem => by rw [hx c hmem] at hc; cases hc
  -- the text ends either behind the bracket or before it
  obtain ⟨v, -, rfl⟩ | ⟨v, rfl, hv⟩ := List.append_eq_append_iff.mp heq
  · exact absurd (List.mem_append_right v (List.mem_cons_self ..)) hkept
  · cases v with
    | nil =>
      rw [List.nil_append] at hv
      exact absurd (hv ▸ List.mem_cons_self ..) hkept
    | cons d v =>
      obtain ⟨rfl, rfl⟩ := List.cons.inj hv
      exact decodeChars_eq_ok_iff.mpr ⟨v, hread v, (blanks_append.mp hr).1⟩

/-- A text that is cut is read to the same value if only blanks are cut off, and otherwise it is
not read. -/
theorem Reader.Delimited.decode_append {reader : Reader α} (h : reader.Delimited) {p x : String}
    {a : α} (hwhole : reader.decode (p ++ x) = .ok a) :
    Blanks x.toList ∧ reader.decode p = .ok a ∨
      ¬ Blanks x.toList ∧ ∃ f, reader.decode p = .error f := by
  rw [Reader.decode, String.toList_append] at hwhole
  by_cases hx : Blanks x.toList
  · exact Or.inl ⟨hx, h.decode_of_blanks hwhole hx⟩
  · -- a value there would leave only blanks to be cut off
    cases hcut : reader.decode p with
    | error f => exact Or.inr ⟨hx, f, rfl⟩
    | ok b => exact absurd (h.blanks_of_decode hwhole hcut) hx

end ChainParams.Json

namespace ChainParams

open Json (Blanks Record)

/-- A configuration is cut like any value in brackets. -/
theorem Config.decode_append {p x : String} {c : Config} (h : Config.decode (p ++ x) = .ok c) :
    Blanks x.toList ∧ Config.decode p = .ok c ∨
      ¬ Blanks x.toList ∧ ∃ e, Config.decode p = .error e := by
  have hdelimited : Config.reader.Delimited := Record.delimited_reader Config.regular_fields
  rcases hdelimited.decode_append (decode_eq_ok_iff.mp h) with ⟨hx, hp⟩ | ⟨hx, f, hp⟩
  · exact Or.inl ⟨hx, decode_eq_ok_iff.mpr hp⟩
  · exact Or.inr ⟨hx, .unparsable f, by rw [Config.decode, hp]; rfl⟩

-- ---------------------------------------------------------------------------
-- Files
-- ---------------------------------------------------------------------------

/-- Bytes that make a text together with the bytes of a text in front are those of a text. -/
theorem isValidUTF8_of_append {l : List Char} {rest : ByteArray}
    (h : (l.utf8Encode ++ rest).IsValidUTF8) : rest.IsValidUTF8 := by
  -- character by character: the first one takes its own bytes and no more
  induction l with
  | nil =>
    rw [List.utf8Encode_nil, ByteArray.empty_append] at h
    exact h
  | cons c l ih =>
    rw [List.utf8Encode_cons, ByteArray.append_assoc,
      ByteArray.isValidUTF8_utf8Encode_singleton_append_iff] at h
    exact ih h

theorem exists_toByteArray_eq {b : ByteArray} (h : b.IsValidUTF8) :
    ∃ s : String, s.toByteArray = b :=
  ⟨⟨b, h⟩, rfl⟩

theorem Config.ofFile_toByteArray (s : String) :
    Config.ofFile (some s.toByteArray) = Config.decode s := by
  have htext : String.fromUTF8? s.toByteArray = some s := dif_pos s.isValidUTF8
  rw [ofFile, htext]

/-- A file that is cut, even inside a character, is read to the same configuration or to none. -/
theorem Config.ofFile_append {cut rest : ByteArray} {c : Config}
    (h : Config.ofFile (some (cut ++ rest)) = .ok c) :
    (∃ x : String, rest = x.toByteArray ∧ Blanks x.toList ∧ Config.ofFile (some cut) = .ok c) ∨
      ∃ e, Config.ofFile (some cut) = .error e := by
  -- a cut inside a character leaves bytes that are no text
  by_cases hcut : cut.IsValidUTF8
  · obtain ⟨p, rfl⟩ := exists_toByteArray_eq hcut
    -- the whole was read, so it is a text, and then so is the part that was cut off
    have hwhole : (p.toByteArray ++ rest).IsValidUTF8 := by
      by_contra hbad
      have hnone : String.fromUTF8? (p.toByteArray ++ rest) = none := dif_neg hbad
      rw [ofFile, hnone] at h
      cases h
    have hrest : rest.IsValidUTF8 := by
      rw [← String.ofList_toList (s := p), String.toByteArray_ofList] at hwhole
      exact isValidUTF8_of_append hwhole
    obtain ⟨x, rfl⟩ := exists_toByteArray_eq hrest
    rw [← String.toByteArray_append, ofFile_toByteArray] at h
    rw [ofFile_toByteArray]
    rcases decode_append h with ⟨hx, hp⟩ | ⟨-, he⟩
    · exact Or.inl ⟨x, rfl, hx, hp⟩
    · exact Or.inr he
  · have hnone : String.fromUTF8? cut = none := dif_neg hcut
    exact Or.inr ⟨.unreadable .notText, by rw [ofFile, hnone]⟩

-- ---------------------------------------------------------------------------
-- Whole texts
-- ---------------------------------------------------------------------------

/--
**A truncated text is never read as something else.** If a text is read as a configuration, then
what is left of it after a cut is read as the same configuration if only blanks are cut off, and
is not read at all if anything else is; so a configuration other than the standard one is never
cut down to it. The same holds of lists of checkpoints, and of the files that configurations are
read from, which may be cut inside a character as well.
-/
theorem truncated_text :
    (∀ (p x : String) (c : Config), Config.decode (p ++ x) = .ok c →
      (Blanks x.toList ∧ Config.decode p = .ok c ∨
        ¬ Blanks x.toList ∧ ∃ e, Config.decode p = .error e) ∧
      (c ≠ Config.standard → Config.decode p ≠ .ok Config.standard)) ∧
    (∀ (p x : String) (cs : Checkpoints), Checkpoints.reader.decode (p ++ x) = .ok cs →
      Blanks x.toList ∧ Checkpoints.reader.decode p = .ok cs ∨
        ¬ Blanks x.toList ∧ ∃ f, Checkpoints.reader.decode p = .error f) ∧
    (∀ (cut rest : ByteArray) (c : Config), Config.ofFile (some (cut ++ rest)) = .ok c →
      (∃ x : String, rest = x.toByteArray ∧ Blanks x.toList ∧
        Config.ofFile (some cut) = .ok c) ∨
      ∃ e, Config.ofFile (some cut) = .error e) := by
  have hdelimited : Checkpoints.reader.Delimited :=
    Record.delimited_reader Checkpoints.regular_fields
  refine ⟨fun p x c h => ⟨Config.decode_append h, fun hc hp => ?_⟩,
    fun p x cs h => hdelimited.decode_append h, fun cut rest c h => Config.ofFile_append h⟩
  rcases Config.decode_append h with ⟨-, hsame⟩ | ⟨-, e, herror⟩
  · rw [hp, Except.ok.injEq] at hsame
    exact hc hsame.symm
  · rw [hp] at herror
    cases herror

/-- A configuration in its array form, with the closing bracket cut off. -/
theorem truncated_array :
    Config.decode ("[\"regtest\" " ++ "]\n") = .ok ⟨"regtest"⟩ ∧
      ∃ e, Config.decode "[\"regtest\" " = .error e := by
  have hwhole : Config.decode ("[\"regtest\" " ++ "]\n") = .ok ⟨"regtest"⟩ := by cbv
  refine ⟨hwhole, ?_⟩
  obtain ⟨⟨hx, -⟩ | ⟨-, herror⟩, -⟩ := truncated_text.1 _ _ _ hwhole
  · exact absurd (hx ']' (by decide)) (by decide)
  · exact herror

end ChainParams
