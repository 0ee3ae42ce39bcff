import ChainParams.Json.Fault

/-!
# ChainParams — JSON numbers

A number is taken off the text as it is written: a sign, a whole part without
leading zeros, a fraction, an exponent. What it is worth is decided afterwards. A
number that is read must lie in the range of double precision, even where only whole
numbers are wanted; a number that is passed over need not.

* `Numeral.scan`      — the number at the front of a text.
* `Numeral.natural?`  — the value of a number written without sign, fraction and exponent.
* `Numeral.overflows` — whether a number is too large for double precision.
-/

namespace ChainParams.Json

/-- Why no number stands at the front of a text. -/
inductive NumeralFault where
  /-- The text ends where a digit has to follow. -/
  | ended
  /-- Something else stands where a digit has to follow, or a digit behind a leading zero. -/
  | strayed

/-- A number as it is written; without a fraction its digits are none. -/
structure Numeral where
  negative : Bool
  whole : List Char
  fraction : List Char
  /-- Whether the exponent is negative, and its digits. -/
  exponent : Option (Bool × List Char)

namespace Numeral

-- ---------------------------------------------------------------------------
-- The written form
-- ---------------------------------------------------------------------------

/-- The fault of finding no digit at the front of a text. -/
def noDigit : List Char → NumeralFault
  | [] => .ended
  | _ :: _ => .strayed

/-- Takes digits, at least one, off a text. -/
def scanDigits (s : List Char) : Except NumeralFault (List Char × List Char) :=
  if s.takeWhile Char.isDigit = [] then .error (noDigit s)
  else .ok (s.takeWhile Char.isDigit, s.dropWhile Char.isDigit)

/-- Takes a whole part off a text: a zero by itself, or digits that start with another one. -/
def scanWhole (s : List Char) : Except NumeralFault (List Char × List Char) :=
  match s with
  | '0' :: r => if (r.head?.any Char.isDigit) then .error .strayed else .ok (['0'], r)
  | _ => scanDigits s

/-- Takes a fraction off a text, if a point stands in front of it. -/
def scanFraction (s : List Char) : Except NumeralFault (List Char × List Char) :=
  match s with
  | '.' :: r => scanDigits r
  | _ => .ok ([], s)

/-- Takes a sign off a text and says whether it was a minus. -/
def scanSign (s : List Char) : Bool × List Char :=
  match s with
  | '-' :: r => (true, r)
  | '+' :: r => (false, r)
  | _ => (false, s)

/-- Takes an exponent off a text, if its letter stands in front of it. -/
def scanExponent (s : List Char) :
    Except NumeralFault (Option (Bool × List Char) × List Char) :=
  match s with
  | c :: r =>
    if c = 'e' ∨ c = 'E' then
      (scanDigits (scanSign r).2).map fun (ds, t) => (some ((scanSign r).1, ds), t)
    else
      .ok (none, s)
  | [] => .ok (none, s)

/-- Takes a number without its sign off a text. -/
def scanUnsigned (negative : Bool) (s : List Char) :
    Except NumeralFault (Numeral × List Char) :=
  match scanWhole s with
  | .error f => .error f
  | .ok (whole, r) =>
    match scanFraction r with
    | .error f => .error f
    | .ok (fraction, t) =>
      (scanExponent t).map fun (exponent, u) => (⟨negative, whole, fraction, exponent⟩, u)

/-- Takes a number off a text. -/
def scan (s : List Char) : Except NumeralFault (Numeral × List Char) :=
  match s with
  | '-' :: r => scanUnsigned true r
  | _ => scanUnsigned false s

-- ---------------------------------------------------------------------------
-- The value
-- ---------------------------------------------------------------------------

/-- The number that decimal digits stand for. -/
def valueOf (ds : List Char) : Nat :=
  ds.foldl (fun n d => 10 * n + (d.toNat - '0'.toNat)) 0

/-- The value of a number written without sign, fraction and exponent. -/
def natural? (n : Numeral) : Option Nat :=
  if n.negative ∨ n.fraction ≠ [] ∨ n.exponent.isSome then none else some (valueOf n.whole)

/-- Appends digits to a significand while it stays below 2^64, and says how many
digits were left out. -/
def extend (significand : Nat) : List Char → Nat × Nat
  | [] => (significand, 0)
  | d :: ds =>
    let next := 10 * significand + (d.toNat - '0'.toNat)
    if next < UInt64.size then extend next ds else (significand, ds.length + 1)

/-- The value of an exponent with its sign. -/
def exponentValue : Option (Bool × List Char) → Int
  | none => 0
  | some (true, ds) => -valueOf ds
  | some (false, ds) => valueOf ds

/-- The number in the form significand times a power of ten, as many leading digits
of it as fit in 64 bits. -/
def scientific (n : Numeral) : Nat × Int :=
  let (whole, left) := extend 0 n.whole
  let (significand, dropped) := extend whole n.fraction
  (significand, left - (n.fraction.length - dropped : Nat) + exponentValue n.exponent)

/-- The nearest number with 53 significant bits, a tie going to the even one. -/
def round53 (n : Nat) : Nat :=
  let unit := 1 <<< (n.log2 - 52)
  let low := n / unit
  let rest := n % unit
  if 2 * rest > unit ∨ (2 * rest = unit ∧ low % 2 = 1) then (low + 1) * unit else low * unit

/-- Whether a number is too large for double precision: its significand and its power
of ten are rounded first, and a product from half a unit above the largest double on
has no double. -/
def overflows (n : Numeral) : Bool :=
  let (significand, power) := n.scientific
  if significand = 0 ∨ power < 0 then false
  else if power > 308 then true
  else round53 significand * round53 (Nat.pow 10 power.toNat) ≥ (1 <<< 1024) - (1 <<< 970)

-- ---------------------------------------------------------------------------
-- The text left over
-- ---------------------------------------------------------------------------

theorem length_lt_of_scanDigits {s ds r : List Char} (h : scanDigits s = .ok (ds, r)) :
    r.length < s.length := by
  unfold scanDigits at h
  split at h
  · cases h
  · next hne =>
    cases h
    have hsplit := congrArg List.length (List.takeWhile_append_dropWhile (p := Char.isDigit) (l := s))
    have hpos := List.length_pos_iff.mpr hne
    rw [List.length_append] at hsplit
    omega

theorem length_lt_of_scanWhole {s ds r : List Char} (h : scanWhole s = .ok (ds, r)) :
    r.length < s.length := by
  unfold scanWhole at h
  split at h
  · split at h
    · cases h
    · cases h
      simp
  · exact length_lt_of_scanDigits h

theorem length_le_of_scanFraction {s ds r : List Char} (h : scanFraction s = .ok (ds, r)) :
    r.length ≤ s.length := by
  unfold scanFraction at h
  split at h
  · have := length_lt_of_scanDigits h
    simp only [List.length_cons]
    omega
  · cases h
    exact Nat.le_refl _

theorem length_scanSign_le (s : List Char) : (scanSign s).2.length ≤ s.length := by
  unfold scanSign
  split <;> simp

theorem length_le_of_scanExponent {s r : List Char} {e : Option (Bool × List Char)}
    (h : scanExponent s = .ok (e, r)) : r.length ≤ s.length := by
  unfold scanExponent at h
  split at h
  · next c t =>
    split at h
    · obtain ⟨⟨ds, t⟩, hd, he⟩ := map_eq_ok_iff.mp h
      cases he
      have := length_lt_of_scanDigits hd
      have := length_scanSign_le t
      simp only [List.length_cons]
      omega
    · cases h
      exact Nat.le_refl _
  · cases h
    exact Nat.le_refl _

theorem length_lt_of_scanUnsigned {negative : Bool} {s r : List Char} {n : Numeral}
    (h : scanUnsigned negative s = .ok (n, r)) : r.length < s.length := by
  unfold scanUnsigned at h
  split at h
  · cases h
  · next hw =>
    have := length_lt_of_scanWhole hw
    split at h
    · cases h
    · next hf =>
      have := length_le_of_scanFraction hf
      obtain ⟨⟨e, u⟩, he, hn⟩ := map_eq_ok_iff.mp h
      cases hn
      have := length_le_of_scanExponent he
      omega

theorem length_lt_of_scan {s r : List Char} {n : Numeral} (h : scan s = .ok (n, r)) :
    r.length < s.length := by
  unfold scan at h
  split at h
  · have := length_lt_of_scanUnsigned h
    simp only [List.length_cons]
    omega
  · exact length_lt_of_scanUnsigned h

end Numeral

end ChainParams.Json
