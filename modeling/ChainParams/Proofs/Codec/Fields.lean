import ChainParams.Codec.Read
import ChainParams.Codec.Write
import ChainParams.Proofs.Digest.Text
import ChainParams.Proofs.Json.MemberOrder
import ChainParams.Proofs.Json.Written

/-!
# ChainParams — the fields of the records

What is known of records in general asks something of their fields: that their values are read
regularly, that passing over such a value stops where reading it does, and that no field touches
what another has left in the draft. This module has it for the records of this library. It also has
what the members of a document lead to, in any of their spellings.

## Results

* `Config.regular_fields` and the like — values are read regularly.
* `Config.lawful_fields` and the like  — they are scalars, and fields do not touch each other.
* `Config.leads` and the like          — the members of a document lead to the draft of its value.
-/

namespace ChainParams.Json

variable {α β : Type}

/-- A mapped reader gives nothing but mapped values. -/
theorem Reader.Reads.exists_of_map {reader : Reader α} {f : α → β} {v : List Char} {b : β}
    (h : (reader.map f).Reads v b) : ∃ a, f a = b := by
  obtain ⟨a, -, ha⟩ := filterMap_eq_ok (h [] endsNumber_nil)
  exact ⟨a, Option.some.inj ha⟩

end ChainParams.Json

namespace ChainParams

open Json (Document Reader Record SpellsMembers)

-- ---------------------------------------------------------------------------
-- Scalars
-- ---------------------------------------------------------------------------

/-- A byte is read from its digits. -/
theorem byteReader_reads {b : UInt8} {t : List Char} (h : (Document.nat b.toNat).Spelling t) :
    byteReader.Reads t b := by
  have hread := (Reader.reads_natural (by decide) b.toNat_lt).map UInt8.ofNat
  rw [UInt8.ofNat_toNat] at hread
  rw [h.eq_chars]
  exact hread

theorem wordReader_reads {n : UInt32} {t : List Char} (h : (Document.nat n.toNat).Spelling t) :
    wordReader.Reads t n := by
  have hread := (Reader.reads_natural (by decide) n.toNat_lt).map UInt32.ofNat
  rw [UInt32.ofNat_toNat] at hread
  rw [h.eq_chars]
  exact hread

theorem longReader_reads {n : UInt64} {t : List Char} (h : (Document.nat n.toNat).Spelling t) :
    longReader.Reads t n := by
  have hread := (Reader.reads_natural (Nat.le_refl _) n.toNat_lt).map UInt64.ofNat
  rw [UInt64.ofNat_toNat] at hread
  rw [h.eq_chars]
  exact hread

/-- A string is read from any of its spellings. -/
theorem text_reads {s : String} {t : List Char} (h : (Document.text s).Spelling t) :
    Reader.text.Reads t s := by
  cases h with
  | text h => exact Reader.reads_spelling h

theorem flag_reads {b : Bool} {t : List Char} (h : (Document.flag b).Spelling t) :
    Reader.flag.Reads t b := by
  cases h with
  | flag => exact Reader.reads_flag b

/-- A digest is read from any spelling of its text. -/
theorem Digest.reader_reads {d : Digest} {t : List Char} (h : d.document.Spelling t) :
    Digest.reader.Reads t d := by
  refine (text_reads h).filterMap ?_
  rw [Digest.parse_text]
  rfl

/-- Bytes, and likewise the wider words, are found wherever they stand. -/
theorem regular_byteReader : byteReader.Regular :=
  (Reader.regular_natural _).map _

theorem regular_wordReader : wordReader.Regular :=
  (Reader.regular_natural _).map _

theorem regular_longReader : longReader.Regular :=
  (Reader.regular_natural _).map _

/-- A digest is found where a string is. -/
theorem Digest.regular_reader : Digest.reader.Regular :=
  Reader.regular_text.filterMap _

/-- A byte, and likewise a wider word, ends where passing over it ends. -/
theorem skippable_byteReader : byteReader.Skippable :=
  Reader.Skippable.map (Reader.skippable_natural _) _

theorem skippable_wordReader : wordReader.Skippable :=
  Reader.Skippable.map (Reader.skippable_natural _) _

theorem skippable_longReader : longReader.Skippable :=
  Reader.Skippable.map (Reader.skippable_natural _) _

/-- A digest ends where the string does. -/
theorem Digest.skippable_reader : Digest.reader.Skippable :=
  Reader.Skippable.filterMap Reader.skippable_text _

-- ---------------------------------------------------------------------------
-- Checkpoints
-- ---------------------------------------------------------------------------

namespace Checkpoint

/-- The height and the digest of a checkpoint are found wherever they stand. -/
theorem regular_fields : ∀ field ∈ record.fields, field.value.Regular := by
  simp only [record, List.forall_mem_cons]
  exact ⟨regular_wordReader.map _, Digest.regular_reader.map _, by simp⟩

theorem lawful_fields : Record.Lawful record.fields where
  regular := regular_fields
  skippable := by
    simp only [record, List.forall_mem_cons]
    exact ⟨Reader.Skippable.map skippable_wordReader _,
      Reader.Skippable.map Digest.skippable_reader _, by simp⟩
  -- two fields in two orders: each leaves the other one as it was
  marks field hfield other hother v put hvalue draft := by
    simp only [record, List.mem_cons, List.not_mem_nil, or_false] at hfield hother
    rcases hfield with rfl | rfl <;> obtain ⟨a, rfl⟩ := hvalue.exists_of_map <;>
      rcases hother with rfl | rfl <;> rfl
  -- and it does not matter which of them is set first
  commutes field hfield other hother hne v u put putOther hvalue hvalueOther draft := by
    simp only [record, List.mem_cons, List.not_mem_nil, or_false] at hfield hother
    rcases hfield with rfl | rfl <;> obtain ⟨a, rfl⟩ := hvalue.exists_of_map <;>
      rcases hother with rfl | rfl <;> obtain ⟨b, rfl⟩ := hvalueOther.exists_of_map <;>
      first | rfl | exact absurd rfl hne

section Reads

variable {height : UInt32} {digest : Digest} {t u : List Char}
  (hheight : wordReader.Reads t height) (hdigest : Digest.reader.Reads u digest)
include hheight hdigest

/-- Two members whose values are read fill the draft of a checkpoint. -/
theorem leads_of_reads :
    Record.Leads record.fields record.empty [("height", t), ("hash", u)]
      ⟨some height, some digest⟩ :=
  .cons (.known rfl rfl (hheight.map _)) (.cons (.known rfl rfl (hdigest.map _)) (.nil _))

/-- Two elements fill it as well, in the order of the fields. -/
theorem leadsInOrder_of_reads :
    Record.LeadsInOrder record.fields record.empty [t, u] ⟨some height, some digest⟩ :=
  .cons (hheight.map _) (.cons (hdigest.map _) (.nil _ _))

end Reads

/-- The members of a written checkpoint fill the draft with its two fields. -/
theorem leads {c : Checkpoint} {fields : List (String × Document)}
    {known : List (String × List Char)} (hdocument : c.document = .record fields)
    (h : SpellsMembers fields known) :
    Record.Leads record.fields record.empty known ⟨some c.height, some c.digest⟩ := by
  cases hdocument
  rcases h with _ | ⟨hheight, _ | ⟨hdigest, _ | _⟩⟩
  exact leads_of_reads (wordReader_reads hheight) (Digest.reader_reads hdigest)

end Checkpoint

/-- The list of checkpoints is found wherever it stands. -/
theorem Checkpoints.regular_fields : ∀ field ∈ record.fields, field.value.Regular := by
  simp only [record, List.forall_mem_cons]
  exact ⟨(Record.regular_reader Checkpoint.regular_fields).list.map _, by simp⟩

-- ---------------------------------------------------------------------------
-- Seeds
-- ---------------------------------------------------------------------------

namespace Seed

theorem regular_fields : ∀ field ∈ record.fields, field.value.Regular := by
  simp only [record, List.forall_mem_cons]
  exact ⟨Reader.regular_text.map _, Reader.regular_flag.map _, by simp⟩

theorem lawful_fields : Record.Lawful record.fields where
  regular := regular_fields
  skippable := by
    simp only [record, List.forall_mem_cons]
    exact ⟨Reader.Skippable.map Reader.skippable_text _,
      Reader.Skippable.map Reader.skippable_flag _, by simp⟩
  marks field hfield other hother v put hvalue draft := by
    simp only [record, List.mem_cons, List.not_mem_nil, or_false] at hfield hother
    rcases hfield with rfl | rfl <;> obtain ⟨a, rfl⟩ := hvalue.exists_of_map <;>
      rcases hother with rfl | rfl <;> rfl
  commutes field hfield other hother hne v u put putOther hvalue hvalueOther draft := by
    simp only [record, List.mem_cons, List.not_mem_nil, or_false] at hfield hother
    rcases hfield with rfl | rfl <;> obtain ⟨a, rfl⟩ := hvalue.exists_of_map <;>
      rcases hother with rfl | rfl <;> obtain ⟨b, rfl⟩ := hvalueOther.exists_of_map <;>
      first | rfl | exact absurd rfl hne

theorem leads {d : Seed} {fields : List (String × Document)}
    {known : List (String × List Char)} (hdocument : d.document = .record fields)
    (h : SpellsMembers fields known) :
    Record.Leads record.fields record.empty known ⟨some d.host, some d.filtering⟩ := by
  cases hdocument
  rcases h with _ | ⟨hhost, _ | ⟨hfiltering, _ | _⟩⟩
  exact .cons (.known rfl rfl ((text_reads hhost).map _))
    (.cons (.known rfl rfl ((flag_reads hfiltering).map _)) (.nil _))

end Seed

-- ---------------------------------------------------------------------------
-- Deployments
-- ---------------------------------------------------------------------------

namespace Deployment

theorem regular_fields : ∀ field ∈ record.fields, field.value.Regular := by
  simp only [record, List.forall_mem_cons]
  exact ⟨regular_byteReader.map _, regular_longReader.map _, regular_longReader.map _, by simp⟩

theorem lawful_fields : Record.Lawful record.fields where
  regular := regular_fields
  skippable := by
    simp only [record, List.forall_mem_cons]
    exact ⟨Reader.Skippable.map skippable_byteReader _,
      Reader.Skippable.map skippable_longReader _, Reader.Skippable.map skippable_longReader _,
      by simp⟩
  marks field hfield other hother v put hvalue draft := by
    simp only [record, List.mem_cons, List.not_mem_nil, or_false] at hfield hother
    rcases hfield with rfl | rfl | rfl <;> obtain ⟨a, rfl⟩ := hvalue.exists_of_map <;>
      rcases hother with rfl | rfl | rfl <;> rfl
  commutes field hfield other hother hne v u put putOther hvalue hvalueOther draft := by
    simp only [record, List.mem_cons, List.not_mem_nil, or_false] at hfield hother
    rcases hfield with rfl | rfl | rfl <;> obtain ⟨a, rfl⟩ := hvalue.exists_of_map <;>
      rcases hother with rfl | rfl | rfl <;> obtain ⟨b, rfl⟩ := hvalueOther.exists_of_map <;>
      first | rfl | exact absurd rfl hne

section Reads

variable {bit : UInt8} {start expire : UInt64} {t u v : List Char}
  (hbit : byteReader.Reads t bit) (hstart : longReader.Reads u start)
  (hexpire : longReader.Reads v expire)
include hbit hstart hexpire

theorem leads_of_reads :
    Record.Leads record.fields record.empty
      [("bit_number", t), ("start_time", u), ("expire_time", v)]
      ⟨some bit, some start, some expire⟩ :=
  .cons (.known rfl rfl (hbit.map _)) (.cons (.known rfl rfl (hstart.map _))
    (.cons (.known rfl rfl (hexpire.map _)) (.nil _)))

theorem leadsInOrder_of_reads :
    Record.LeadsInOrder record.fields record.empty [t, u, v]
      ⟨some bit, some start, some expire⟩ :=
  .cons (hbit.map _) (.cons (hstart.map _) (.cons (hexpire.map _) (.nil _ _)))

end Reads

theorem leads {d : Deployment} {fields : List (String × Document)}
    {known : List (String × List Char)} (hdocument : d.document = .record fields)
    (h : SpellsMembers fields known) :
    Record.Leads record.fields record.empty known
      ⟨some d.bit, some d.startTime, some d.expireTime⟩ := by
  cases hdocument
  rcases h with _ | ⟨hbit, _ | ⟨hstart, _ | ⟨hexpire, _ | _⟩⟩⟩
  exact leads_of_reads (byteReader_reads hbit) (longReader_reads hstart)
    (longReader_reads hexpire)

end Deployment

-- ---------------------------------------------------------------------------
-- Configurations
-- ---------------------------------------------------------------------------

namespace Config

theorem regular_fields : ∀ field ∈ record.fields, field.value.Regular := by
  simp only [record, List.forall_mem_cons]
  exact ⟨Reader.regular_text.map _, by simp⟩

theorem lawful_fields : Record.Lawful record.fields where
  regular := regular_fields
  skippable := by
    simp only [record, List.forall_mem_cons]
    exact ⟨Reader.Skippable.map Reader.skippable_text _, by simp⟩
  marks field hfield other hother v put hvalue draft := by
    simp only [record, List.mem_cons, List.not_mem_nil, or_false] at hfield hother
    subst hfield hother
    obtain ⟨a, rfl⟩ := hvalue.exists_of_map
    rfl
  commutes field hfield other hother hne := by
    simp only [record, List.mem_cons, List.not_mem_nil, or_false] at hfield hother
    subst hfield hother
    exact absurd rfl hne

/-- The error of its own that a configuration has changes nothing about what is accepted. -/
theorem decode_eq_ok_iff {s : String} {c : Config} :
    Config.decode s = .ok c ↔ Config.reader.decode s = .ok c := by
  rw [Config.decode]
  cases Config.reader.decode s <;> simp [Except.mapError]

/-- The member of a written configuration fills the draft with its network. -/
theorem leads {c : Config} {fields : List (String × Document)}
    {known : List (String × List Char)} (hdocument : c.document = .record fields)
    (h : SpellsMembers fields known) :
    Record.Leads record.fields record.empty known (some c.network) := by
  cases hdocument
  rcases h with _ | ⟨hnetwork, _ | _⟩
  exact .cons (.known rfl rfl ((text_reads hnetwork).map _)) (.nil _)

end Config

end ChainParams
