import ChainParams.Codec.Write
import ChainParams.Proofs.Digest.Text
import ChainParams.Proofs.Json.Unique
import Mathlib.Data.Nat.Digits.Lemmas

/-!
# ChainParams — a written profile stands for one profile

Profiles are written and not read back. Their texts can be compared all the same: profiles
with the same text are the same in every field.

A text is the text of one document, so it is left to show that a document is the document of
one value. That goes type by type, as the documents are built: words are written as their
numbers, digests as the text that reads back as them, and records member by member. The
highest target is a number without a bound. It is written by its digits in base 2^32, and
those are the digits of the number in the usual sense, without a zero at the end that counts
most; so they give the number back.

## Results

* `wordDigits_eq_digits`  — the digits written are the digits in base 2^32.
* `Profile.document_inj` and the like — a document is the document of one value.
* `profile_of_text`       — equal texts are those of equal profiles.
-/

namespace ChainParams

open Json (Document)

-- ---------------------------------------------------------------------------
-- Numbers
-- ---------------------------------------------------------------------------

theorem Document.nat_inj {m n : Nat} : Document.nat m = Document.nat n ↔ m = n := by
  simp [Document.nat]

/-- The digits written are the digits in base 2^32. -/
theorem wordDigits_eq_digits (n : Nat) : wordDigits n = Nat.digits UInt32.size n := by
  -- each digit leaves a smaller number
  induction n using Nat.strongRecOn with
  | _ n ih =>
    rw [wordDigits]
    split
    · next hzero => rw [hzero, Nat.digits_zero]
    · next hpos =>
      have hbase : 1 < UInt32.size := by decide
      have hn : 0 < n := Nat.pos_of_ne_zero hpos
      rw [ih _ (Nat.div_lt_self hn hbase), Nat.digits_def' hbase hn]

theorem wordDigits_inj {m n : Nat} : wordDigits m = wordDigits n ↔ m = n := by
  rw [wordDigits_eq_digits, wordDigits_eq_digits, Nat.digits_inj_iff]

/-- A list is written for one list if its elements are. -/
theorem map_document_inj {α : Type} {document : α → Document}
    (h : ∀ {a b : α}, document a = document b ↔ a = b) {as bs : List α} :
    as.map document = bs.map document ↔ as = bs :=
  List.map_inj_right fun _ _ heq => h.mp heq

-- ---------------------------------------------------------------------------
-- Parts of a profile
-- ---------------------------------------------------------------------------

/-- A digest is written as its text, and that is the text of one digest. -/
theorem Digest.document_inj {a b : Digest} : a.document = b.document ↔ a = b := by
  simp [Digest.document, Digest.text_inj]

theorem Magic.document_inj {a b : Magic} : a.document = b.document ↔ a = b := by
  cases a
  cases b
  simp [Magic.document, Document.nat_inj, UInt32.toNat_inj]

theorem Seed.document_inj {a b : Seed} : a.document = b.document ↔ a = b := by
  cases a
  cases b
  simp [Seed.document]

/-- A header is told from its six members, of which the version keeps its sign. -/
theorem Header.document_inj {a b : Header} : a.document = b.document ↔ a = b := by
  cases a
  cases b
  simp [Header.document, Digest.document_inj, Document.nat_inj, Int32.toInt_inj,
    UInt32.toNat_inj]

theorem Genesis.document_inj {a b : Genesis} : a.document = b.document ↔ a = b := by
  cases a
  cases b
  simp [Genesis.document, Header.document_inj]

/-- Seconds and nanoseconds are written apart. -/
theorem Duration.document_inj {a b : Duration} : a.document = b.document ↔ a = b := by
  cases a
  cases b
  simp [Duration.document, Document.nat_inj, UInt64.toNat_inj, UInt32.toNat_inj]

theorem Deployment.document_inj {a b : Deployment} : a.document = b.document ↔ a = b := by
  cases a
  cases b
  simp [Deployment.document, Document.nat_inj, UInt8.toNat_inj, UInt64.toNat_inj]

/-- The slots are written in a fixed order, so each keeps its place. -/
theorem Deployments.document_inj {a b : Deployments} : a.document = b.document ↔ a = b := by
  cases a
  cases b
  simp [Deployments.document, Deployments.toList, Deployment.document_inj]

theorem Checkpoint.document_inj {a b : Checkpoint} : a.document = b.document ↔ a = b := by
  cases a
  cases b
  simp [Checkpoint.document, Digest.document_inj, Document.nat_inj, UInt32.toNat_inj]

/-- A list of checkpoints is told from its entries. -/
theorem Checkpoints.document_inj {a b : Checkpoints} : a.document = b.document ↔ a = b := by
  cases a
  cases b
  simp [Checkpoints.document, Checkpoints.toList, map_document_inj Checkpoint.document_inj]

/-- Four bytes are written one by one, and there are always four. -/
theorem HdKeyId.document_inj {a b : HdKeyId} : a.document = b.document ↔ a = b := by
  cases a
  cases b
  have hbyte : ∀ {b c : UInt8}, Document.nat b.toNat = Document.nat c.toNat ↔ b = c := by
    intro b c
    rw [Document.nat_inj, UInt8.toNat_inj]
  simp [HdKeyId.document, HdKeyId.toList, map_document_inj hbyte, Vector.toList_inj]

-- ---------------------------------------------------------------------------
-- Profiles
-- ---------------------------------------------------------------------------

/-- The members of two documents agree one by one exactly if the fields do. -/
theorem Profile.document_inj {p q : Profile} : p.document = q.document ↔ p = q := by
  cases p
  cases q
  -- the names of the members agree anyway; each member is left to the type of its field
  simp only [document, Document.record.injEq, List.cons.injEq, Prod.mk.injEq, true_and, and_true,
    Document.text.injEq, Document.number.injEq, Document.flag.injEq, Document.list.injEq,
    Document.nat_inj, UInt8.toNat_inj, UInt16.toNat_inj, UInt32.toNat_inj, Int64.toInt_inj,
    map_document_inj Document.nat_inj, wordDigits_inj, map_document_inj Seed.document_inj,
    Magic.document_inj, Genesis.document_inj, Digest.document_inj, Duration.document_inj,
    Checkpoints.document_inj, Deployments.document_inj, HdKeyId.document_inj, Profile.mk.injEq]

/-- The digits written for a number are below the base, the most significant one is not zero,
and together they make the number. -/
theorem wordDigits_spec (n : Nat) :
    Nat.ofDigits UInt32.size (wordDigits n) = n ∧ (∀ d ∈ wordDigits n, d < UInt32.size) ∧
      (wordDigits n).getLast? ≠ some 0 ∧ (wordDigits n = [] ↔ n = 0) := by
  rw [wordDigits_eq_digits]
  refine ⟨Nat.ofDigits_digits _ _, fun d hd => Nat.digits_lt_base (by decide) hd, ?_,
    Nat.digits_eq_nil_iff_eq_zero⟩
  -- the digit that counts most of a number is not zero, and zero has no digits
  intro hlast
  obtain ⟨hne, hzero⟩ := List.mem_getLast?_eq_getLast hlast
  have hn : n ≠ 0 := Nat.digits_ne_nil_iff_ne_zero.mp hne
  exact Nat.getLast_digit_ne_zero UInt32.size hn hzero.symm

/--
**A written profile stands for one profile.** Two profiles have the same text exactly if they
are equal. In particular the highest target can be told from its list of digits: they are
digits in base 2^32, least significant first, none for zero and without a zero behind the
others; they make the number, and lists with the same text come from the same number.
-/
theorem profile_of_text :
    (∀ p q : Profile, p.document.write = q.document.write ↔ p = q) ∧
    (∀ n, Nat.ofDigits UInt32.size (wordDigits n) = n ∧
      (∀ d ∈ wordDigits n, d < UInt32.size) ∧ (wordDigits n).getLast? ≠ some 0 ∧
      (wordDigits n = [] ↔ n = 0)) ∧
    (∀ m n, (Document.list ((wordDigits m).map Document.nat)).write =
      (Document.list ((wordDigits n).map Document.nat)).write ↔ m = n) := by
  refine ⟨fun p q => ?_, wordDigits_spec, fun m n => ?_⟩
  · rw [Document.write_injective.eq_iff, Profile.document_inj]
  · rw [Document.write_injective.eq_iff, Document.list.injEq, map_document_inj Document.nat_inj,
      wordDigits_inj]

end ChainParams
