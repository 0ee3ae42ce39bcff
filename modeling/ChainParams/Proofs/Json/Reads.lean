import ChainParams.Json.Record
import ChainParams.Proofs.Json.Decimal
import ChainParams.Proofs.Json.StringGrammar

/-!
# ChainParams — what it is to read a value

A reader *reads* a text as a value if, in front of anything that could follow a value, it gives
that value and leaves the rest alone. The rest is part of the statement because values stand
inside lists and records, and it is the reason that the statement goes through: a value is read
the same way wherever it stands.

Readers are built from readers, and `Reads` is built in the same steps. Here are the steps for
single values; lists and records, which have a layout, come behind them.

* `Reader.Reads`        — a reader takes a text to a value, whatever follows.
* `Reader.reads_choice` — names among some.
* `Reader.Reads.decode` — a whole text.
-/

namespace ChainParams.Json

variable {σ α β : Type}

/-- A reader gives a value for a text, whatever follows it, and leaves that alone. -/
def Reader.Reads (reader : Reader α) (text : List Char) (a : α) : Prop :=
  ∀ rest, EndsNumber rest → reader.run (text ++ rest) = .ok (a, rest)

theorem skipBlank_cons {c : Char} (h : isBlank c = false) (s : List Char) :
    skipBlank (c :: s) = c :: s := by
  rw [skipBlank, List.dropWhile_cons, h]
  rfl

-- ---------------------------------------------------------------------------
-- Written documents
-- ---------------------------------------------------------------------------

/-- A string is written between two quotes, with its characters escaped where they have to be. -/
theorem stringChars_append (s : String) (rest : List Char) :
    stringChars s ++ rest = '"' :: (s.toList.flatMap escaped ++ '"' :: rest) := by
  simp [stringChars]

/-- A number starts with a sign or with a digit. -/
theorem exists_decimal_eq_cons (n : Int) :
    ∃ c cs, decimal n = c :: cs ∧ (c = '-' ∨ c.isDigit = true) := by
  -- only a negative number has a sign in front of its digits
  by_cases hn : n < 0
  · exact ⟨'-', Nat.toDigits 10 n.natAbs, by rw [decimal, if_pos hn], .inl rfl⟩
  · obtain ⟨d, ds, heq, hd⟩ := exists_toDigits_eq_cons n.natAbs
    exact ⟨d, ds, by rw [decimal, if_neg hn, heq], .inr hd⟩

/-- A document starts with a character of its own, neither a blank nor a closing bracket. -/
theorem Document.exists_chars_eq_cons (d : Document) :
    ∃ c cs, d.chars = c :: cs ∧ isBlank c = false ∧ c ≠ ']' := by
  cases d with
  | number n =>
    obtain ⟨c, cs, heq, rfl | hd⟩ := exists_decimal_eq_cons n
    · exact ⟨'-', cs, by rw [Document.chars, heq], by decide, by decide⟩
    · refine ⟨c, cs, by rw [Document.chars, heq], isBlank_of_isDigit hd, ?_⟩
      rintro rfl
      exact absurd hd (by decide)
  | text s => exact ⟨'"', _, by rw [Document.chars]; rfl, by decide, by decide⟩
  | flag b => cases b <;> exact ⟨_, _, by rw [Document.chars]; rfl, by decide, by decide⟩
  | list ds => cases ds <;> exact ⟨'[', _, by rw [Document.chars], by decide, by decide⟩
  | record ms => cases ms <;> exact ⟨'\x7b', _, by rw [Document.chars], by decide, by decide⟩

namespace Reader

-- ---------------------------------------------------------------------------
-- Scalars
-- ---------------------------------------------------------------------------

theorem reads_flag (b : Bool) : flag.Reads (Document.flag b).chars b := by
  intro rest _
  cases b <;> rw [Document.chars] <;> rfl

/-- A number below the bound is read from its decimal digits. -/
theorem reads_natural {bound n : Nat} (hbound : bound ≤ UInt64.size) (hn : n < bound) :
    (natural bound).Reads (Document.nat n).chars n := by
  intro rest hrest
  rw [Document.chars_nat]
  exact readNatural_toDigits hbound hn hrest

-- ---------------------------------------------------------------------------
-- Readers from readers
-- ---------------------------------------------------------------------------

/-- A value that is read and accepted is read by the stricter reader. -/
theorem Reads.filterMap {reader : Reader α} {text : List Char} {a : α} {b : β}
    {f : α → Option β} (h : reader.Reads text a) (hf : f a = some b) :
    (reader.filterMap f).Reads text b := by
  intro rest hrest
  simp only [Reader.filterMap, h rest hrest, hf]

theorem Reads.map {reader : Reader α} {text : List Char} {a : α} (h : reader.Reads text a)
    (f : α → β) : (reader.map f).Reads text (f a) :=
  h.filterMap rfl

/-- A written name among those that are known is read as what it names. -/
theorem reads_choice {choices : List (String × α)} {name : String} {a : α}
    (h : choices.lookup name = some a) : (choice choices).Reads (Document.text name).chars a := by
  intro rest _
  show readChoice choices ((Document.text name).chars ++ rest) = _
  rw [Document.chars, stringChars_append, readChoice, skipBlank_cons (by decide)]
  simp [readName, readString_write, h]

-- ---------------------------------------------------------------------------
-- Elements
-- ---------------------------------------------------------------------------

theorem readItems_close {reader : Reader α} {s r : List Char}
    (hn : readNext ']' s = .ok (.close, r)) : readItems reader s = .ok ([], r) := by
  rw [readItems]
  split <;> simp_all

/-- Behind a comma one element is read, and then those that are left. -/
theorem readItems_more {reader : Reader α} {s r t : List Char} {a : α}
    (hn : readNext ']' s = .ok (.more, r)) (hr : reader.run r = .ok (a, t)) :
    readItems reader s = (readItems reader t).map fun (as, u) => (a :: as, u) := by
  rw [readItems]
  split
  · simp_all
  · simp_all
  · next r' hn' =>
    rw [hn] at hn'
    cases hn'
    split
    · simp_all
    · next a' t' hr' =>
      rw [hr] at hr'
      cases hr'
      rfl

-- ---------------------------------------------------------------------------
-- Whole texts
-- ---------------------------------------------------------------------------

/-- A document that is read as a value is decoded to it. -/
theorem Reads.decode {reader : Reader α} {d : Document} {a : α} (h : reader.Reads d.chars a) :
    reader.decode d.write = .ok a := by
  have hrun := h [] endsNumber_nil
  rw [List.append_nil] at hrun
  rw [Reader.decode, Document.write, String.toList_ofList, decodeChars, hrun]
  rfl

end Reader

-- ---------------------------------------------------------------------------
-- Members
-- ---------------------------------------------------------------------------

namespace Record

variable {fields : List (Field σ)} {draft next : σ} {s t u v r : List Char}

theorem readMembers_close (hnext : readNext '\x7d' s = .ok (.close, r)) :
    readMembers fields draft s = .ok (draft, r) := by
  rw [readMembers]
  split <;> simp_all

/-- Behind a comma and the opening quote of a key, reading goes on as the member says. -/
theorem readMembers_bind (hnext : readNext '\x7d' s = .ok (.more, t)) (hkey : openKey t = .ok u) :
    readMembers fields draft s =
      (readMember fields draft u).bind fun out => readMembers fields out.1 out.2 := by
  rw [readMembers]
  split
  · simp_all
  · simp_all
  · next t' hnext' =>
    rw [hnext] at hnext'
    cases hnext'
    split
    · simp_all
    · next u' hkey' =>
      rw [hkey] at hkey'
      cases hkey'
      split <;> simp_all [Except.bind]

/-- A member that is read changes the draft for those behind it. -/
theorem readMembers_more (hnext : readNext '\x7d' s = .ok (.more, t)) (hkey : openKey t = .ok u)
    (hmember : readMember fields draft u = .ok (next, v)) :
    readMembers fields draft s = readMembers fields next v := by
  rw [readMembers_bind hnext hkey, hmember]
  rfl

theorem readMembers_error {f : Fault} (hnext : readNext '\x7d' s = .ok (.more, t))
    (hkey : openKey t = .ok u) (hmember : readMember fields draft u = .error f) :
    readMembers fields draft s = .error f := by
  rw [readMembers_bind hnext hkey, hmember]
  rfl

end Record

end ChainParams.Json
