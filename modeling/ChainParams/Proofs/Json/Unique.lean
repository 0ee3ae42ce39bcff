import ChainParams.Proofs.Json.Reads

/-!
# ChainParams — a text is written for one document

Two documents with the same text are the same document. There is no reader for documents in
general that this could be taken from, so it is shown on the texts themselves: the first
character tells the kind of a document, and from there on the text tells where each part of
it ends. A string ends at its first quote that is not escaped, a list or a record at the
bracket behind its last part, and a number where no digit follows.

The last of these is why the statement is about texts with something behind them, as it is
for readers: `Delimited` says that a document can be split off the front of a text in one way
only, provided that what follows does not go on with a number. Inside lists and records a
comma or a bracket follows.

Numbers and strings do have readers, and a reader has one result. So for them nothing has to
be done again: what is read from the one text is read from the other.

## Results

* `stringChars_append_inj`, `decimal_append_inj` — strings and numbers.
* `Document.delimited`       — each document ends where it ends.
* `Document.write_injective` — a text is the text of one document at most.
-/

namespace ChainParams.Json

variable {s t : List Char}

-- ---------------------------------------------------------------------------
-- Kinds
-- ---------------------------------------------------------------------------

/-- The kinds of document. -/
inductive Kind where
  | number
  | text
  | flag
  | list
  | record

/-- The kind of a document. -/
def Document.kind : Document → Kind
  | .number _ => .number
  | .text _ => .text
  | .flag _ => .flag
  | .list _ => .list
  | .record _ => .record

/-- The kind of the documents whose text starts with a character. -/
def Kind.ofFirst (c : Char) : Kind :=
  if c = '"' then .text
  else if c = 't' ∨ c = 'f' then .flag
  else if c = '[' then .list
  else if c = '\x7b' then .record
  else .number

theorem Kind.ofFirst_digit {c : Char} (h : c.isDigit = true) : ofFirst c = .number := by
  have hne : ∀ d : Char, d.isDigit = false → c ≠ d := by
    intro d hd heq
    rw [heq, hd] at h
    cases h
  rw [ofFirst, if_neg (hne _ (by decide)), if_neg, if_neg (hne _ (by decide)),
    if_neg (hne _ (by decide))]
  rintro (heq | heq)
  · exact hne _ (by decide) heq
  · exact hne _ (by decide) heq

/-- The first character of a document tells its kind. -/
theorem Document.exists_first (d : Document) :
    ∃ c cs, d.chars = c :: cs ∧ Kind.ofFirst c = d.kind := by
  cases d with
  | number n =>
    obtain ⟨c, cs, heq, rfl | hd⟩ := exists_decimal_eq_cons n
    · exact ⟨'-', cs, by rw [Document.chars, heq], rfl⟩
    · exact ⟨c, cs, by rw [Document.chars, heq], Kind.ofFirst_digit hd⟩
  | text s => exact ⟨'"', _, by rw [Document.chars]; rfl, rfl⟩
  | flag b => cases b <;> exact ⟨_, _, by rw [Document.chars]; rfl, rfl⟩
  | list ds => cases ds <;> exact ⟨'[', _, by rw [Document.chars], rfl⟩
  | record ms => cases ms <;> exact ⟨'\x7b', _, by rw [Document.chars], rfl⟩

/-- Documents whose texts start alike are of one kind. -/
theorem Document.kind_eq {d e : Document} (h : d.chars ++ s = e.chars ++ t) :
    d.kind = e.kind := by
  obtain ⟨c, cs, hd, hc⟩ := d.exists_first
  obtain ⟨c', cs', he, hc'⟩ := e.exists_first
  rw [hd, he, List.cons_append, List.cons_append] at h
  rw [← hc, ← hc', (List.cons.inj h).1]

-- ---------------------------------------------------------------------------
-- Scalars
-- ---------------------------------------------------------------------------

/-- Decimal digits tell the number, and end where no digit follows. -/
theorem toDigits_append_inj {m n : Nat} (hs : EndsNumber s) (ht : EndsNumber t)
    (h : Nat.toDigits 10 m ++ s = Nat.toDigits 10 n ++ t) : m = n ∧ s = t := by
  -- one scan of the common text gives the digits of both numbers
  have hscan := Numeral.scan_toDigits m hs
  rw [h, Numeral.scan_toDigits n ht] at hscan
  simp only [Except.ok.injEq, Prod.mk.injEq] at hscan
  obtain ⟨hdigits, hrest⟩ := hscan
  have hvalue := congrArg Numeral.natural? hdigits
  rw [Numeral.natural?_ofDigits, Numeral.natural?_ofDigits, Numeral.valueOf_toDigits,
    Numeral.valueOf_toDigits, Option.some.injEq] at hvalue
  exact ⟨hvalue.symm, hrest.symm⟩

theorem toDigits_append_ne_minus (n : Nat) (s t : List Char) :
    Nat.toDigits 10 n ++ s ≠ '-' :: t := by
  obtain ⟨d, ds, heq, hd⟩ := exists_toDigits_eq_cons n
  intro h
  rw [heq, List.cons_append] at h
  rw [(List.cons.inj h).1] at hd
  exact absurd hd (by decide)

/-- A number can be split off the front of a text in one way only. -/
theorem decimal_append_inj {m n : Int} (hs : EndsNumber s) (ht : EndsNumber t)
    (h : decimal m ++ s = decimal n ++ t) : m = n ∧ s = t := by
  -- the signs agree because a sign is no digit
  by_cases hm : m < 0 <;> by_cases hn : n < 0
  · rw [decimal, decimal, if_pos hm, if_pos hn, List.cons_append, List.cons_append] at h
    obtain ⟨habs, hrest⟩ := toDigits_append_inj hs ht (List.cons.inj h).2
    exact ⟨by omega, hrest⟩
  · rw [decimal, decimal, if_pos hm, if_neg hn, List.cons_append] at h
    exact absurd h.symm (toDigits_append_ne_minus _ _ _)
  · rw [decimal, decimal, if_neg hm, if_pos hn, List.cons_append] at h
    exact absurd h (toDigits_append_ne_minus _ _ _)
  · rw [decimal, decimal, if_neg hm, if_neg hn] at h
    obtain ⟨habs, hrest⟩ := toDigits_append_inj hs ht h
    exact ⟨by omega, hrest⟩

/-- A string can be split off the front of a text in one way only. -/
theorem stringChars_append_inj {a b : String} (h : stringChars a ++ s = stringChars b ++ t) :
    a = b ∧ s = t := by
  rw [stringChars_append, stringChars_append] at h
  -- one reading of the common text gives both strings
  have hread := readString_write a.toList s
  rw [(List.cons.inj h).2, readString_write] at hread
  simp only [Except.ok.injEq, Prod.mk.injEq] at hread
  exact ⟨String.toList_inj.mp hread.1.symm, hread.2.symm⟩

-- ---------------------------------------------------------------------------
-- Lists and records
-- ---------------------------------------------------------------------------

/-- Whether a document can be split off the front of a text in one way only. -/
def Document.Delimited (d : Document) : Prop :=
  ∀ (e : Document) (s t : List Char), EndsNumber s → EndsNumber t →
    d.chars ++ s = e.chars ++ t → d = e ∧ s = t

/-- A bracket or a comma follows each element, and neither goes on with a number. -/
theorem endsNumber_itemChars (ds : List Document) (rest : List Char) :
    EndsNumber (itemChars ds ++ rest) := by
  cases ds <;> rw [itemChars] <;> exact endsNumber_cons (by decide)

theorem endsNumber_memberChars (ms : List (String × Document)) (rest : List Char) :
    EndsNumber (memberChars ms ++ rest) := by
  match ms with
  | [] => rw [memberChars]; exact endsNumber_cons (by decide)
  | (key, d) :: ms => rw [memberChars]; exact endsNumber_cons (by decide)

/-- What follows the first element tells the other elements, if each element ends where it ends. -/
theorem itemChars_append_inj {ds es : List Document} (hds : ∀ d ∈ ds, d.Delimited)
    (h : itemChars ds ++ s = itemChars es ++ t) : ds = es ∧ s = t := by
  -- element by element: a comma in the one text is a comma in the other
  induction ds generalizing es with
  | nil =>
    cases es with
    | nil => simpa [itemChars] using h
    | cons e es => simp [itemChars] at h
  | cons d ds ih =>
    cases es with
    | nil => simp [itemChars] at h
    | cons e es =>
      simp only [itemChars, List.cons_append, List.append_assoc, List.cons.injEq, true_and] at h
      obtain ⟨rfl, hrest⟩ := hds d (List.mem_cons_self ..) e _ _ (endsNumber_itemChars ds s)
        (endsNumber_itemChars es t) h
      obtain ⟨rfl, rfl⟩ := ih (fun b hb => hds b (List.mem_cons_of_mem _ hb)) hrest
      exact ⟨rfl, rfl⟩

/-- What follows the first member tells the other members, if each value ends where it ends. -/
theorem memberChars_append_inj {ms ns : List (String × Document)}
    (hms : ∀ m ∈ ms, m.2.Delimited) (h : memberChars ms ++ s = memberChars ns ++ t) :
    ms = ns ∧ s = t := by
  -- member by member; the key is split off first, then the value behind the colon
  induction ms generalizing ns with
  | nil =>
    cases ns with
    | nil => simpa [memberChars] using h
    | cons n ns => simp [memberChars] at h
  | cons m ms ih =>
    cases ns with
    | nil => simp [memberChars] at h
    | cons n ns =>
      obtain ⟨key, d⟩ := m
      obtain ⟨key', e⟩ := n
      simp only [memberChars, List.cons_append, List.append_assoc, List.cons.injEq, true_and] at h
      obtain ⟨rfl, hvalue⟩ := stringChars_append_inj h
      obtain ⟨rfl, hrest⟩ := hms (key, d) (List.mem_cons_self ..) e _ _
        (endsNumber_memberChars ms s) (endsNumber_memberChars ns t) (List.cons.inj hvalue).2
      obtain ⟨rfl, rfl⟩ := ih (fun b hb => hms b (List.mem_cons_of_mem _ hb)) hrest
      exact ⟨rfl, rfl⟩

/-- A property of documents holds of all if lists and records have it with their parts. -/
theorem Document.induct {P : Document → Prop} (number : ∀ n, P (.number n))
    (text : ∀ s, P (.text s)) (flag : ∀ b, P (.flag b))
    (list : ∀ ds, (∀ d ∈ ds, P d) → P (.list ds))
    (record : ∀ ms : List (String × Document), (∀ m ∈ ms, P m.2) → P (.record ms))
    (d : Document) : P d :=
  @Document.rec P (fun ds => ∀ d ∈ ds, P d) (fun ms => ∀ m ∈ ms, P m.2) (fun m => P m.2)
    number text flag list record (by simp) (fun _ _ hd hds => List.forall_mem_cons.mpr ⟨hd, hds⟩)
    (by simp) (fun _ _ hm hms => List.forall_mem_cons.mpr ⟨hm, hms⟩) (fun _ _ hd => hd) d

/-- A list ends where it ends if its elements do. -/
theorem delimited_list {ds : List Document} (hds : ∀ d ∈ ds, d.Delimited) :
    (Document.list ds).Delimited := by
  intro e s t hs ht h
  have hkind := Document.kind_eq h
  cases e with
  | list es =>
    cases ds with
    | nil =>
      cases es with
      | nil => simpa [Document.chars] using h
      | cons e es =>
        -- a list with elements does not start with a closing bracket
        obtain ⟨c, cs, heq, -, hc⟩ := e.exists_chars_eq_cons
        simp [Document.chars, heq, hc.symm] at h
    | cons d ds =>
      cases es with
      | nil =>
        obtain ⟨c, cs, heq, -, hc⟩ := d.exists_chars_eq_cons
        simp [Document.chars, heq, hc] at h
      | cons e es =>
        simp only [Document.chars, List.cons_append, List.cons.injEq, true_and] at h
        -- with a comma in front, the first element is one like the others
        have hitems : itemChars (d :: ds) ++ s = itemChars (e :: es) ++ t := by
          simp only [itemChars, List.cons_append, h]
        obtain ⟨heq, hrest⟩ := itemChars_append_inj hds hitems
        exact ⟨by rw [heq], hrest⟩
  | _ => cases hkind

/-- A record ends where it ends if the values of its members do. -/
theorem delimited_record {ms : List (String × Document)} (hms : ∀ m ∈ ms, m.2.Delimited) :
    (Document.record ms).Delimited := by
  intro e s t hs ht h
  have hkind := Document.kind_eq h
  cases e with
  | record ns =>
    cases ms with
    | nil =>
      cases ns with
      | nil => simpa [Document.chars] using h
      | cons n ns =>
        obtain ⟨key, e⟩ := n
        -- a record with members has a quote where the closing bracket would be
        simp [Document.chars, stringChars] at h
    | cons m ms =>
      cases ns with
      | nil =>
        obtain ⟨key, d⟩ := m
        simp [Document.chars, stringChars] at h
      | cons n ns =>
        obtain ⟨key, d⟩ := m
        obtain ⟨key', e⟩ := n
        simp only [Document.chars, List.cons_append, List.cons.injEq, true_and] at h
        -- with a comma in front, the first member is one like the others
        have hmembers : memberChars ((key, d) :: ms) ++ s = memberChars ((key', e) :: ns) ++ t := by
          simp only [memberChars, List.cons_append, h]
        obtain ⟨heq, hrest⟩ := memberChars_append_inj hms hmembers
        exact ⟨by rw [heq], hrest⟩
  | _ => cases hkind

-- ---------------------------------------------------------------------------
-- Whole texts
-- ---------------------------------------------------------------------------

/-- Each document ends where it ends. -/
theorem Document.delimited (d : Document) : d.Delimited := by
  -- the two documents are of one kind, so only the part of that kind is left to compare
  induction d using Document.induct with
  | number m =>
    intro e s t hs ht h
    have hkind := kind_eq h
    cases e with
    | number n =>
      rw [chars, chars] at h
      obtain ⟨rfl, hrest⟩ := decimal_append_inj hs ht h
      exact ⟨rfl, hrest⟩
    | _ => cases hkind
  | text a =>
    intro e s t hs ht h
    have hkind := kind_eq h
    cases e with
    | text b =>
      rw [chars, chars] at h
      obtain ⟨rfl, hrest⟩ := stringChars_append_inj h
      exact ⟨rfl, hrest⟩
    | _ => cases hkind
  | flag a =>
    intro e s t hs ht h
    have hkind := kind_eq h
    cases e with
    | flag b =>
      cases a with
      | true =>
        cases b with
        | true => simpa [chars] using h
        | false => simp [chars] at h
      | false =>
        cases b with
        | true => simp [chars] at h
        | false => simpa [chars] using h
    | _ => cases hkind
  | list ds ih => exact delimited_list ih
  | record ms ih => exact delimited_record ih

/-- A text is the text of one document at most. -/
theorem Document.write_injective : Function.Injective Document.write := by
  intro d e h
  -- the end of a text goes on with no number
  have hchars : d.chars ++ [] = e.chars ++ [] := by
    rw [write, write] at h
    rw [String.ofList_injective h]
  exact (d.delimited e [] [] endsNumber_nil endsNumber_nil hchars).1

end ChainParams.Json
