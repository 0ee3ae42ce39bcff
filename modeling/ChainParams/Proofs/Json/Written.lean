import ChainParams.Proofs.Json.Members

/-!
# ChainParams — documents and their texts

The compact text of a document is one of its layouts: the one without blanks, with each string
written in one of its spellings. So written lists and records are read as lists and records are in
any layout, and all that is left to say of a type is what its parts lead to.

## Results

* `SpellsMembers`                   — the members of a document in any spelling.
* `isArray_chars`, `isObject_chars` — the compact layout of lists and records.
* `Reader.Regular.reads_list`       — lists, from their elements.
* `Record.reads_record`             — records as objects, from their members.
* `Record.reads_tuple`              — records as arrays, from their elements.
-/

namespace ChainParams.Json

variable {σ α : Type}

-- ---------------------------------------------------------------------------
-- Spelled documents
-- ---------------------------------------------------------------------------

/-- The texts of a scalar: numbers and truth values have one, strings have every spelling. -/
inductive Document.Spelling : Document → List Char → Prop
  | number (n : Int) : Spelling (.number n) (Document.number n).chars
  | text {s : String} {t : List Char} (h : SpellsString t s) : Spelling (.text s) t
  | flag (b : Bool) : Spelling (.flag b) (Document.flag b).chars

/-- The members that spell the fields of a record. -/
inductive SpellsMembers : List (String × Document) → List (String × List Char) → Prop
  | nil : SpellsMembers [] []
  | cons {key : String} {d : Document} {t : List Char} {fields : List (String × Document)}
      {ms : List (String × List Char)} (h : d.Spelling t) (hms : SpellsMembers fields ms) :
      SpellsMembers ((key, d) :: fields) ((key, t) :: ms)

/-- A number has no other spelling than its decimal digits. -/
theorem Document.Spelling.eq_chars {n : Nat} {t : List Char} (h : (Document.nat n).Spelling t) :
    t = (Document.nat n).chars := by
  rw [Document.nat] at h ⊢
  cases h
  rfl

theorem Document.Spelling.written_text (s : String) :
    (Document.text s).Spelling (Document.text s).chars := by
  rw [Document.chars]
  exact .text (spellsString_stringChars s)

-- ---------------------------------------------------------------------------
-- The compact layout
-- ---------------------------------------------------------------------------

/-- The members of a record with the texts of their values. -/
def writtenMembers (ms : List (String × Document)) : List (String × List Char) :=
  ms.map fun m => (m.1, m.2.chars)

/-- A written document is an element without blanks around it. -/
theorem isItem_chars (d : Document) : IsItem d.chars d.chars :=
  ⟨[], blanks_nil, d.exists_chars_eq_cons, rfl⟩

/-- A written member is a member without blanks. -/
theorem isMember_chars (key : String) (d : Document) :
    IsMember (key, d.chars) (stringChars key ++ ':' :: d.chars) := by
  refine ⟨[], _, blanks_nil, ⟨_, [], [], spellsText_escaped key.toList, blanks_nil, blanks_nil,
    rfl⟩, ?_⟩
  simp [stringChars]

/-- What is written behind the first element is the compact layout of the others. -/
theorem parts_itemChars (ds : List Document) :
    Parts .square IsItem (ds.map Document.chars) (itemChars ds) := by
  induction ds with
  | nil =>
    rw [itemChars]
    exact .close blanks_nil
  | cons d ds ih =>
    rw [itemChars]
    exact .more blanks_nil (isItem_chars d) ih

/-- A written list is an array. -/
theorem isArray_chars (ds : List Document) :
    IsArray (ds.map Document.chars) (Document.list ds).chars := by
  cases ds with
  | nil =>
    rw [Document.chars]
    exact .empty blanks_nil
  | cons d ds =>
    rw [Document.chars]
    exact .parts (isItem_chars d) (parts_itemChars ds)

theorem parts_memberChars (ms : List (String × Document)) :
    Parts .curly IsMember (writtenMembers ms) (memberChars ms) := by
  induction ms with
  | nil =>
    rw [memberChars]
    exact .close blanks_nil
  | cons m ms ih =>
    have hmore := Parts.more blanks_nil (isMember_chars m.1 m.2) ih
    rw [List.append_assoc, List.cons_append] at hmore
    rw [memberChars]
    exact hmore

/-- A written record is an object. -/
theorem isObject_chars (ms : List (String × Document)) :
    IsObject (writtenMembers ms) (Document.record ms).chars := by
  cases ms with
  | nil =>
    rw [Document.chars]
    exact .empty blanks_nil
  | cons m ms =>
    have hparts := Bracketed.parts (isMember_chars m.1 m.2) (parts_memberChars ms)
    rw [List.append_assoc, List.cons_append] at hparts
    rw [Document.chars]
    exact hparts

-- ---------------------------------------------------------------------------
-- Reading
-- ---------------------------------------------------------------------------

/-- A written list is read if its elements are, however many. -/
theorem Reader.Regular.reads_list {reader : Reader α} (h : reader.Regular)
    {document : α → Document} {as : List α} (has : ∀ a ∈ as, reader.Reads (document a).chars a) :
    (Reader.list reader).Reads (Document.list (as.map document)).chars as := by
  have hitems : List.Forall₂ reader.Reads ((as.map document).map Document.chars) as := by
    rw [List.map_map, List.forall₂_map_left_iff, List.forall₂_same]
    exact has
  intro rest _
  exact h.readList_eq_ok_iff.mpr ⟨[], _, _, blanks_nil, isArray_chars _, hitems, rfl⟩

namespace Record

variable {record : Record σ α} {a : α}

/-- A written record is read if its members lead to a complete draft. -/
theorem reads_record (out : σ) (hregular : ∀ field ∈ record.fields, field.value.Regular)
    {ms : List (String × Document)}
    (hms : Leads record.fields record.empty (writtenMembers ms) out)
    (hfinish : record.finish out = some a) : record.reader.Reads (Document.record ms).chars a :=
  (Gives.object (isObject_chars ms) hms).reads hregular hfinish

/-- A record that is written as an array is read if its elements lead to a complete draft. -/
theorem reads_tuple (out : σ) (hregular : ∀ field ∈ record.fields, field.value.Regular)
    {ds : List Document}
    (hds : LeadsInOrder record.fields record.empty (ds.map Document.chars) out)
    (hfinish : record.finish out = some a) :
    record.arrayReader.Reads (Document.list ds).chars a := by
  refine Reader.Reads.filterMap (fun rest _ => ?_) hfinish
  have harray := isArray_chars ds
  obtain ⟨t, ht⟩ := harray.exists_cons
  rw [ht] at harray ⊢
  have hread := (readArray_eq_ok_iff hregular (r := rest)).mpr ⟨_, t, harray, hds, rfl⟩
  show record.readAsArray (Bracket.square.opening :: t ++ rest) = _
  rw [List.cons_append, readAsArray, skipBlank_cons (isBlank_opening _)]
  exact (if_pos rfl).trans hread

end Record

end ChainParams.Json
