import ChainParams.Proofs.Codec.ObjectLayout

/-!
# ChainParams — the range of decoded numbers

Numbers are read without bound and compared with the bound of their type before they become words,
so a word never wraps around. A numeral other than the decimal digits of a natural number is not
read at all: one with a minus, `-0` among them, with a zero in front of another digit, with a
fraction or with an exponent.

That is a matter of the reader alone (`Reader.Counts`), and mapping the number keeps it. In a
record it holds for each field that reads so, in either written form and whatever the layout,
because a value that its field refuses is refused wherever it stands.

## Results

* `Reader.Counts`      — a reader of the numbers below a bound.
* `DecodesBelow`       — what it is for a type to decode the numbers below a bound in some place.
* `numbers_in_range`   — magics, heights of checkpoints, and the three numbers of deployments.
-/

namespace ChainParams.Json

variable {σ α β ε : Type} {bound : Nat}

-- ---------------------------------------------------------------------------
-- Numerals
-- ---------------------------------------------------------------------------

/-- The numerals that are the decimal digits of a natural number. -/
structure Numeral.IsCanonical (n : Numeral) : Prop where
  unsigned : n.negative = false
  trimmed : n.IsTrimmed
  fraction : n.fraction = []
  exponent : n.exponent = none

/-- A numeral that scans and has a natural value is the decimal digits of it. -/
theorem Numeral.isCanonical_of_natural? {n : Numeral} {k : Nat} (htrim : n.IsTrimmed)
    (h : n.natural? = some k) : n.IsCanonical := by
  unfold natural? at h
  split at h
  · cases h
  · next hshape =>
    simp only [not_or, Bool.not_eq_true, not_not, Option.isSome_eq_false_iff,
      Option.isNone_iff_eq_none] at hshape
    exact ⟨hshape.1, htrim, hshape.2.1, hshape.2.2⟩

-- ---------------------------------------------------------------------------
-- Readers
-- ---------------------------------------------------------------------------

namespace Reader

/-- A reader of the numbers below a bound, which gives a value for each of them. -/
structure Counts (reader : Reader α) (bound : Nat) (value : Nat → α) : Prop where
  reads : ∀ n, n < bound → reader.Reads (Nat.toDigits 10 n) (value n)
  beyond : ∀ n, bound ≤ n → reader.Rejects (Nat.toDigits 10 n)
  others : ∀ {n t}, SpellsNumeral n t → ¬ n.IsCanonical → reader.Rejects t

/-- Numbers are counted below any bound that the range of a 64-bit word admits. -/
theorem counts_natural (hbound : bound ≤ UInt64.size) : (natural bound).Counts bound id where
  reads n hn rest hrest := readNatural_toDigits hbound hn hrest
  -- digits alone make the number, so it is the bound that refuses it
  beyond n hn := by
    refine rejects_numeral (Numeral.spells_toDigits n) fun _ k hk => ?_
    rw [Numeral.natural?_ofDigits, Numeral.valueOf_toDigits, Option.some.injEq] at hk
    omega
  others h hn :=
    rejects_numeral h fun htrim _ hk => absurd (Numeral.isCanonical_of_natural? htrim hk) hn

theorem Rejects.filterMap {reader : Reader α} {t : List Char} (h : reader.Rejects t)
    (f : α → Option β) : (reader.filterMap f).Rejects t := by
  intro rest hrest
  obtain ⟨fault, hrun⟩ := h rest hrest
  exact ⟨fault, by simp only [Reader.filterMap, hrun]⟩

/-- What a number is taken to does not change which numbers are read. -/
theorem Counts.map {reader : Reader α} {value : Nat → α} (h : reader.Counts bound value)
    (f : α → β) : (reader.map f).Counts bound fun n => f (value n) where
  reads n hn := (h.reads n hn).map f
  beyond n hn := (h.beyond n hn).filterMap _
  others hn hodd := (h.others hn hodd).filterMap _

end Reader

-- ---------------------------------------------------------------------------
-- Types
-- ---------------------------------------------------------------------------

/-- How numbers are decoded in some place of a text. The number of a value there is the one
written, if that is below the bound; otherwise, and for all other numerals, there is no value. -/
structure DecodesBelow (bound : Nat) (decode : String → Except ε α)
    (InPlace : List Char → String → Prop) (IsValue : Nat → α → Prop) : Prop where
  below : ∀ n s, n < bound → InPlace (Nat.toDigits 10 n) s → ∃ a, decode s = .ok a ∧ IsValue n a
  beyond : ∀ n s, bound ≤ n → InPlace (Nat.toDigits 10 n) s → ∃ e, decode s = .error e
  others : ∀ n t s, SpellsNumeral n t → ¬ n.IsCanonical → InPlace t s → ∃ e, decode s = .error e

/-- The value of a text, with blanks around it. -/
def IsAlone (t : List Char) (s : String) : Prop :=
  ∃ w x, Blanks w ∧ Blanks x ∧ s.toList = w ++ (t ++ x)

/-- The text of an array, with blanks around it. -/
def IsArrayText (vs : List (List Char)) (s : String) : Prop :=
  ∃ w t x, Blanks w ∧ IsArray vs t ∧ Blanks x ∧ s.toList = w ++ (t ++ x)

/-- The value of one field of a record in either written form. The values of the fields before
and after it are given. An array has them in this order, and an object has its members in any
order and others of unknown names among them. -/
inductive IsFieldValue (key : String) (before after : List (String × List Char)) (t : List Char)
    (s : String) : Prop
  | object {others ms : List (String × List Char)}
      (hothers : ∀ m ∈ others,
        m.1 ∉ (before ++ (key, t) :: after).map Prod.fst ∧ Wellformed .value m.2)
      (hms : ms.Perm (before ++ (key, t) :: after ++ others)) (hs : IsObjectText ms s)
  | array (hs : IsArrayText ((before ++ (key, t) :: after).map Prod.snd) s)

/-- A whole text is such a number with blanks around it, or is not decoded. -/
theorem Reader.Counts.decodesBelow {reader : Reader α} {value : Nat → α}
    (h : reader.Counts bound value) (hregular : reader.Regular) :
    DecodesBelow bound reader.decode IsAlone fun n a => a = value n := by
  -- a numeral that is refused is refused between blanks as well
  have hrejects {t : List Char} {s : String} (ht : reader.Rejects t) (hs : IsAlone t s) :
      ∃ e, reader.decode s = .error e := by
    obtain ⟨w, x, hw, hx, hs⟩ := hs
    obtain ⟨fault, hrun⟩ := ht x hx.endsNumber
    exact ⟨fault, by rw [Reader.decode, hs, decodeChars, hregular.blanks _ hw, hrun]⟩
  refine ⟨fun n s hn hs => ?_, fun n s hn hs => hrejects (h.beyond n hn) hs,
    fun n t s ht hodd hs => hrejects (h.others ht hodd) hs⟩
  obtain ⟨w, x, hw, hx, hs⟩ := hs
  have hrun := hregular.run_append hw (h.reads n hn) hx.endsNumber
  exact ⟨value n, by rw [Reader.decode, hs]; exact decodeChars_eq_ok_iff.mpr ⟨x, hrun, hx⟩, rfl⟩

namespace Record

variable {record : Record σ α} {key : String} {before after : List (String × List Char)}
  {t : List Char} {s : String}

/-- An object with a value that its field refuses is not decoded. -/
theorem decode_of_rejects (h : Lawful record.fields) {field : Field σ}
    (hfield : record.fields.find? (fun field => field.key == key) = some field)
    (ht : field.value.Rejects t) {ms rest : List (String × List Char)}
    (hrest : ∀ m ∈ rest, Settled record.fields m) (hperm : ms.Perm ((key, t) :: rest))
    (hs : IsObjectText ms s) : ∃ f, record.reader.decode s = .error f := by
  cases hdecode : record.reader.decode s with
  | error f => exact ⟨f, rfl⟩
  | ok a =>
    have hsettled : ∀ m ∈ ms, Settled record.fields m := by
      intro m hm
      rcases List.mem_cons.mp (hperm.mem_iff.mp hm) with rfl | hm
      · exact .rejects hfield ht
      · exact hrest m hm
    obtain ⟨out, hout, -⟩ := (decode_eq_ok_iff h.regular hs hsettled).mp hdecode
    -- the value would have been read, were its member the first
    cases hout.perm h.toIndependent hperm with
    | cons hm _ =>
      cases hm with
      | known hnamed _ hvalue =>
        rw [hfield, Option.some.injEq] at hnamed
        subst hnamed
        obtain ⟨f, herror⟩ := ht [] endsNumber_nil
        rw [hvalue [] endsNumber_nil] at herror
        cases herror
      | unknown hnamed _ =>
        rw [hfield] at hnamed
        cases hnamed

/-- Nor is an array decoded with an element that its field refuses. -/
theorem decode_of_refuses (h : Lawful record.fields) {vs : List (List Char)}
    (hvs : RefusesInOrder record.fields vs) (hs : IsArrayText vs s) :
    ∃ f, record.reader.decode s = .error f := by
  obtain ⟨w, t, x, hw, ht, hx, hs⟩ := hs
  obtain ⟨t, rfl⟩ := ht.exists_cons
  obtain ⟨f, hrefused⟩ := readArray_refused (r := x) record.empty h.regular ht hvs
  -- the square bracket alone decides for the array, and there is no second try
  have hrun : record.readAsEither (w ++ ('[' :: t ++ x)) = .error f :=
    (readAsEither_square hw (t ++ x)).trans hrefused
  refine ⟨f, ?_⟩
  rw [Reader.decode, hs, Reader.decodeChars]
  simp only [reader, Reader.filterMap, Bracket.opening, hrun]

/-- A field that reads the numbers below a bound decodes them in records of either form. -/
theorem decodesBelow (h : Lawful record.fields) {field : Field σ}
    (hfield : record.fields.find? (fun field => field.key == key) = some field)
    {put : Nat → σ → σ} (hcounts : field.value.Counts bound put)
    (hkeys : record.fields.map Field.key = before.map Prod.fst ++ key :: after.map Prod.fst)
    (hsettled : ∀ m ∈ before ++ after, Settled record.fields m)
    (hrefuses : ∀ t, field.value.Rejects t →
      RefusesInOrder record.fields (before.map Prod.snd ++ t :: after.map Prod.snd))
    {IsValue : Nat → α → Prop}
    (hvalues : ∀ n, n < bound → ∃ out a,
      Leads record.fields record.empty (before ++ (key, Nat.toDigits 10 n) :: after) out ∧
      LeadsInOrder record.fields record.empty
        (before.map Prod.snd ++ Nat.toDigits 10 n :: after.map Prod.snd) out ∧
      record.finish out = some a ∧ IsValue n a) :
    DecodesBelow bound record.reader.decode (IsFieldValue key before after) IsValue := by
  -- a refused value is refused in both written forms, whatever is beside it
  have hrejects {t : List Char} {s : String} (ht : field.value.Rejects t)
      (hs : IsFieldValue key before after t s) : ∃ f, record.reader.decode s = .error f := by
    cases hs with
    | @object others ms hothers hperm hs =>
      have hfirst : (before ++ (key, t) :: after ++ others).Perm
          ((key, t) :: (before ++ after ++ others)) := by
        rw [List.append_assoc, List.append_assoc]
        exact List.perm_middle
      refine decode_of_rejects h hfield ht (fun m hm => ?_) (hperm.trans hfirst) hs
      rcases List.mem_append.mp hm with hm | hm
      · exact hsettled m hm
      · exact h.settled (hothers m hm).2
    | array hs =>
      rw [List.map_append, List.map_cons] at hs
      exact decode_of_refuses h (hrefuses t ht) hs
  refine ⟨fun n s hn hs => ?_, fun n s hn hs => hrejects (hcounts.beyond n hn) hs,
    fun n t s ht hodd hs => hrejects (hcounts.others ht hodd) hs⟩
  -- a value in range fills the draft the same way from members and from elements
  obtain ⟨out, a, hmembers, helements, hfinish, hvalue⟩ := hvalues n hn
  refine ⟨a, ?_, hvalue⟩
  cases hs with
  | object hothers hperm hs =>
    refine decode_any_order h hmembers hfinish (fun m hm => ⟨?_, (hothers m hm).2⟩) hperm hs
    rw [hkeys]
    simpa using (hothers m hm).1
  | array hs =>
    obtain ⟨w, t, x, hw, ht, hx, hs⟩ := hs
    rw [List.map_append, List.map_cons] at ht
    exact (Gives.array ht helements).decode h.regular hfinish hw hx hs

end Record

end ChainParams.Json

namespace ChainParams

open Json

-- ---------------------------------------------------------------------------
-- Words
-- ---------------------------------------------------------------------------

/-- Bytes, and likewise the wider words, are read below their size, without wrapping around. -/
theorem counts_byteReader : byteReader.Counts UInt8.size UInt8.ofNat :=
  (Reader.counts_natural (by decide)).map UInt8.ofNat

theorem counts_wordReader : wordReader.Counts UInt32.size UInt32.ofNat :=
  (Reader.counts_natural (by decide)).map UInt32.ofNat

theorem counts_longReader : longReader.Counts UInt64.size UInt64.ofNat :=
  (Reader.counts_natural (Nat.le_refl _)).map UInt64.ofNat

-- ---------------------------------------------------------------------------
-- Whole types
-- ---------------------------------------------------------------------------

/-- Magics alone in a text. -/
theorem Magic.decodesBelow :
    DecodesBelow UInt32.size Magic.reader.decode IsAlone fun n m => m.word.toNat = n := by
  have hregular : Magic.reader.Regular := regular_wordReader.map Magic.mk
  have hdecodes := (counts_wordReader.map Magic.mk).decodesBelow hregular
  refine ⟨fun n s hn hs => ?_, hdecodes.beyond, hdecodes.others⟩
  obtain ⟨m, hm, rfl⟩ := hdecodes.below n s hn hs
  exact ⟨_, hm, UInt32.toNat_ofNat_of_lt' hn⟩

/-- The heights of checkpoints, beside a valid digest in any spelling. -/
theorem Checkpoint.decodesBelow {d : Digest} {digits : String} {t : List Char}
    (ht : SpellsString t digits) (hdigits : Digest.parse digits = .ok d) :
    DecodesBelow UInt32.size reader.decode (IsFieldValue "height" [] [("hash", t)])
      fun n c => c.height.toNat = n ∧ c.digest = d := by
  have hdigest : Digest.reader.Reads t d :=
    (Reader.reads_spelling ht).filterMap (by rw [hdigits]; rfl)
  refine Record.decodesBelow lawful_fields rfl (counts_wordReader.map _) rfl ?_ ?_ fun n hn => ?_
  · exact List.forall_mem_singleton.mpr (.reads rfl (hdigest.map _))
  · exact fun t ht => .here ht
  · have hheight := counts_wordReader.reads n hn
    exact ⟨⟨some (.ofNat n), some d⟩, ⟨.ofNat n, d⟩, leads_of_reads hheight hdigest,
      leadsInOrder_of_reads hheight hdigest, rfl, UInt32.toNat_ofNat_of_lt' hn, rfl⟩

section Deployment

variable (bit : UInt8) (start expire : UInt64)

theorem byteReader_reads_digits : byteReader.Reads (Nat.toDigits 10 bit.toNat) bit := by
  rw [← Document.chars_nat]
  exact byteReader_reads (.number _)

theorem longReader_reads_digits : longReader.Reads (Nat.toDigits 10 start.toNat) start := by
  rw [← Document.chars_nat]
  exact longReader_reads (.number _)

/-- The bits of deployments, beside a window. -/
theorem Deployment.decodesBelow_bit :
    DecodesBelow UInt8.size reader.decode
      (IsFieldValue "bit_number" [] [("start_time", Nat.toDigits 10 start.toNat),
        ("expire_time", Nat.toDigits 10 expire.toNat)])
      fun n d => d.bit.toNat = n ∧ d.startTime = start ∧ d.expireTime = expire := by
  have hstart := longReader_reads_digits start
  have hexpire := longReader_reads_digits expire
  refine Record.decodesBelow lawful_fields rfl (counts_byteReader.map _) rfl ?_ ?_ fun n hn => ?_
  · simp only [List.nil_append, List.forall_mem_cons]
    exact ⟨.reads rfl (hstart.map _), .reads rfl (hexpire.map _), by simp⟩
  · exact fun t ht => .here ht
  · have hbit := counts_byteReader.reads n hn
    exact ⟨⟨some (.ofNat n), some start, some expire⟩, ⟨.ofNat n, start, expire⟩,
      leads_of_reads hbit hstart hexpire, leadsInOrder_of_reads hbit hstart hexpire, rfl,
      UInt8.toNat_ofNat_of_lt' hn, rfl, rfl⟩

/-- The openings of deployments, beside a bit and a closing. -/
theorem Deployment.decodesBelow_start :
    DecodesBelow UInt64.size reader.decode
      (IsFieldValue "start_time" [("bit_number", Nat.toDigits 10 bit.toNat)]
        [("expire_time", Nat.toDigits 10 expire.toNat)])
      fun n d => d.startTime.toNat = n ∧ d.bit = bit ∧ d.expireTime = expire := by
  have hbit := byteReader_reads_digits bit
  have hexpire := longReader_reads_digits expire
  refine Record.decodesBelow lawful_fields rfl (counts_longReader.map _) rfl ?_ ?_ fun n hn => ?_
  · simp only [List.cons_append, List.nil_append, List.forall_mem_cons]
    exact ⟨.reads rfl (hbit.map _), .reads rfl (hexpire.map _), by simp⟩
  · -- in an array the bit is read before it
    exact fun t ht => .later (hbit.map _) (.here ht)
  · have hstart := counts_longReader.reads n hn
    exact ⟨⟨some bit, some (.ofNat n), some expire⟩, ⟨bit, .ofNat n, expire⟩,
      leads_of_reads hbit hstart hexpire, leadsInOrder_of_reads hbit hstart hexpire, rfl,
      UInt64.toNat_ofNat_of_lt' hn, rfl, rfl⟩

/-- The closings of deployments, beside a bit and an opening. -/
theorem Deployment.decodesBelow_expire :
    DecodesBelow UInt64.size reader.decode
      (IsFieldValue "expire_time" [("bit_number", Nat.toDigits 10 bit.toNat),
        ("start_time", Nat.toDigits 10 start.toNat)] [])
      fun n d => d.expireTime.toNat = n ∧ d.bit = bit ∧ d.startTime = start := by
  have hbit := byteReader_reads_digits bit
  have hstart := longReader_reads_digits start
  refine Record.decodesBelow lawful_fields rfl (counts_longReader.map _) rfl ?_ ?_ fun n hn => ?_
  · simp only [List.append_nil, List.forall_mem_cons]
    exact ⟨.reads rfl (hbit.map _), .reads rfl (hstart.map _), by simp⟩
  · -- in an array it comes last
    exact fun t ht => .later (hbit.map _) (.later (hstart.map _) (.here ht))
  · have hexpire := counts_longReader.reads n hn
    exact ⟨⟨some bit, some start, some (.ofNat n)⟩, ⟨bit, start, .ofNat n⟩,
      leads_of_reads hbit hstart hexpire, leadsInOrder_of_reads hbit hstart hexpire, rfl,
      UInt64.toNat_ofNat_of_lt' hn, rfl, rfl⟩

end Deployment

/--
**Decoded numbers never wrap around.** A natural number in decimal digits decodes to itself if it
is below the bound of its place, and to nothing otherwise; nor does a numeral with a minus, with a
zero in front of another digit, with a fraction or with an exponent decode to anything. The places
are those of a magic, below 2^32; of the height of a checkpoint, below 2^32, beside a valid digest;
of the bit of a deployment, below 2^8; and of either end of its window, below 2^64. Records may
have either written form, in any layout.
-/
theorem numbers_in_range :
    DecodesBelow UInt32.size Magic.reader.decode IsAlone (fun n m => m.word.toNat = n) ∧
    (∀ (d : Digest) (digits : String) (t : List Char), SpellsString t digits →
      Digest.parse digits = .ok d →
      DecodesBelow UInt32.size Checkpoint.reader.decode (IsFieldValue "height" [] [("hash", t)])
        fun n c => c.height.toNat = n ∧ c.digest = d) ∧
    (∀ start expire : UInt64, DecodesBelow UInt8.size Deployment.reader.decode
      (IsFieldValue "bit_number" [] [("start_time", Nat.toDigits 10 start.toNat),
        ("expire_time", Nat.toDigits 10 expire.toNat)])
      fun n d => d.bit.toNat = n ∧ d.startTime = start ∧ d.expireTime = expire) ∧
    (∀ (bit : UInt8) (expire : UInt64), DecodesBelow UInt64.size Deployment.reader.decode
      (IsFieldValue "start_time" [("bit_number", Nat.toDigits 10 bit.toNat)]
        [("expire_time", Nat.toDigits 10 expire.toNat)])
      fun n d => d.startTime.toNat = n ∧ d.bit = bit ∧ d.expireTime = expire) ∧
    (∀ (bit : UInt8) (start : UInt64), DecodesBelow UInt64.size Deployment.reader.decode
      (IsFieldValue "expire_time" [("bit_number", Nat.toDigits 10 bit.toNat),
        ("start_time", Nat.toDigits 10 start.toNat)] [])
      fun n d => d.expireTime.toNat = n ∧ d.bit = bit ∧ d.startTime = start) :=
  ⟨Magic.decodesBelow, fun _ _ _ => Checkpoint.decodesBelow,
    Deployment.decodesBelow_bit, Deployment.decodesBelow_start, Deployment.decodesBelow_expire⟩

/-- The first number beyond the words is refused as a height, beside the digest `f`. -/
theorem height_beyond_words :
    ∃ f, Checkpoint.reader.decode "\x7b\"height\":4294967296,\"hash\":\"f\"\x7d" = .error f := by
  have hheight : IsMember ("height", Nat.toDigits 10 UInt32.size) "\"height\":4294967296".toList :=
    ⟨[], _, blanks_nil, ⟨_, [], [], spellsText_escaped _, blanks_nil, blanks_nil, rfl⟩, rfl⟩
  have hhash : IsMember ("hash", "\"f\"".toList) "\"hash\":\"f\"".toList :=
    ⟨[], _, blanks_nil, ⟨_, [], [], spellsText_escaped _, blanks_nil, blanks_nil, rfl⟩, rfl⟩
  have hdigits : Digest.parse "f" = .ok (.ofNat 15) := by decide +kernel
  have htext : IsObjectText [("height", Nat.toDigits 10 UInt32.size), ("hash", "\"f\"".toList)]
      "\x7b\"height\":4294967296,\"hash\":\"f\"\x7d" :=
    ⟨[], _, [], blanks_nil, .parts hheight (.more blanks_nil hhash (.close blanks_nil)),
      blanks_nil, by decide⟩
  exact (numbers_in_range.2.1 _ "f" "\"f\"".toList ⟨_, spellsText_escaped _, rfl⟩ hdigits).beyond
    _ _ (Nat.le_refl _) (.object (List.forall_mem_nil _) (.refl _) htext)

end ChainParams
