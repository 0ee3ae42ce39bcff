import ChainParams.Proofs.Profile.Rules
import Mathlib.Data.Set.Card

/-!
# ChainParams — every broken rule is reported once

Validation goes through thirteen rules and keeps a list of what it finds. This module states
the rules apart from that list: `Breaks` says in terms of the fields when a profile breaks a
rule, `Complains` what is said of it then, and `Reports` goes along a series of rules beside a
list of defects: a rule that is kept has no defect, a rule that is broken has one.

The proof follows the parts from which the list is put together. One check reports one rule
(`reports_rule`), and reports of two series make a report of both (`Reports.append`), so that
no part can hide another.

The rules do not depend on each other either: for any set of rules there is a profile that
breaks these and no others (`breaks_breaking_iff`).

## Results

* `reports_defects`              — the defects of a profile report all rules in their order.
* `Reports.length_eq`            — a report has as many defects as rules are broken.
* `breaks_breaking_iff`          — any set of rules can be the set of broken ones.
* `validate_reports_every_rule`  — what validation reports, for every set of broken rules.
-/

namespace ChainParams

namespace Profile

-- ---------------------------------------------------------------------------
-- The rules
-- ---------------------------------------------------------------------------

/-- The rules that validation goes through. -/
inductive Rule where
  /-- The heights of the checkpoints increase. -/
  | checkpointOrder
  /-- A deployment closes after it opens, if it closes. -/
  | window (id : RuleChange)
  /-- A deployment votes with one of the bits that are there for votes. -/
  | versionBit (id : RuleChange)
  /-- The window of votes has blocks. -/
  | emptyWindow
  /-- A window has as many blocks as votes are needed. -/
  | threshold
  /-- The highest target has no more bits than a digest. -/
  | limitWidth
  /-- The compact form is that of the highest target. -/
  | limitBits
  /-- The human-readable part is well formed. -/
  | hrpForm
  /-- The human-readable part is in lower case. -/
  | hrpCase
deriving DecidableEq

namespace Rule

/-- The rules in the order in which they are checked. -/
def all : List Rule :=
  [checkpointOrder,
    window .testDummy, versionBit .testDummy, window .csv, versionBit .csv,
    window .segwit, versionBit .segwit,
    emptyWindow, threshold, limitWidth, limitBits, hrpForm, hrpCase]

theorem nodup_all : all.Nodup := by decide

theorem mem_all (rule : Rule) : rule ∈ all := by
  cases rule with
  | window id => cases id <;> decide
  | versionBit id => cases id <;> decide
  | _ => decide

end Rule

/-- Whether a profile breaks a rule. -/
def Breaks (p : Profile) : Rule → Prop
  | .checkpointOrder =>
    ¬ ∀ i j (_ : i < j) (_ : j < p.checkpoints.items.size),
      p.checkpoints.items[i].height < p.checkpoints.items[j].height
  | .window id =>
    (p.deployment id).expireTime ≠ Deployment.never ∧
      (p.deployment id).expireTime ≤ (p.deployment id).startTime
  | .versionBit id => 28 < (p.deployment id).bit
  | .emptyWindow => p.confirmationWindow = 0
  | .threshold => p.confirmationWindow < p.activationThreshold
  | .limitWidth => 256 < bitLength p.powLimit
  | .limitBits => Compact.ofTarget p.powLimit ≠ p.powLimitBits
  | .hrpForm =>
    ¬ (1 ≤ p.hrp.utf8ByteSize ∧ p.hrp.utf8ByteSize ≤ 83 ∧
      (∀ c ∈ p.hrp.toList, 33 ≤ c.toNat ∧ c.toNat ≤ 126) ∧
      ¬ ((∃ c ∈ p.hrp.toList, c.isLower = true) ∧ ∃ c ∈ p.hrp.toList, c.isUpper = true))
  | .hrpCase => Text.lower p.hrp ≠ p.hrp

/-- What is said of a rule that is broken: the values of the profile that break it. -/
inductive Complains (p : Profile) : Rule → Defect → Prop
  | checkpointOrder : Complains p .checkpointOrder .checkpointOrder
  | window (id : RuleChange) :
    Complains p (.window id)
      (.window id (p.deployment id).startTime (p.deployment id).expireTime)
  | versionBit (id : RuleChange) :
    Complains p (.versionBit id) (.versionBit id (p.deployment id).bit)
  | emptyWindow : Complains p .emptyWindow .emptyWindow
  | threshold : Complains p .threshold (.threshold p.activationThreshold p.confirmationWindow)
  | limitWidth : Complains p .limitWidth (.wideLimit (bitLength p.powLimit))
  | limitBits : Complains p .limitBits (.limitBits (Compact.ofTarget p.powLimit) p.powLimitBits)
  | hrpForm {error : HrpError} (h : Hrp.check p.hrp = .error error) :
    Complains p .hrpForm (.badHrp p.hrp error)
  | hrpCase : Complains p .hrpCase (.capitalHrp p.hrp)

-- ---------------------------------------------------------------------------
-- Reports
-- ---------------------------------------------------------------------------

/-- A list of defects that reports a series of rules: each broken rule has one defect, in the
order of the rules, and a rule that is kept has none. -/
inductive Reports (p : Profile) : List Rule → List Defect → Prop
  | nil : Reports p [] []
  | kept {rule : Rule} {rules : List Rule} {defects : List Defect}
    (hkept : ¬ p.Breaks rule) (rest : Reports p rules defects) :
    Reports p (rule :: rules) defects
  | broken {rule : Rule} {rules : List Rule} {defect : Defect} {defects : List Defect}
    (hbroken : p.Breaks rule) (hsaid : p.Complains rule defect) (rest : Reports p rules defects) :
    Reports p (rule :: rules) (defect :: defects)

variable {p : Profile}

/-- Reports of two series make a report of both. -/
theorem Reports.append {rules others : List Rule} {defects more : List Defect}
    (h : p.Reports rules defects) (h' : p.Reports others more) :
    p.Reports (rules ++ others) (defects ++ more) := by
  induction h with
  | nil => exact h'
  | kept hkept _ ih => exact .kept hkept ih
  | broken hbroken hsaid _ ih => exact .broken hbroken hsaid ih

/-- A check that adds its defect unless the rule is kept reports that rule. -/
theorem reports_rule {rule : Rule} {defect : Defect} {good : Prop} [Decidable good]
    (hgood : ¬ p.Breaks rule ↔ good) (hsaid : p.Complains rule defect) :
    p.Reports [rule] (if good then [] else [defect]) := by
  by_cases h : good
  · rw [if_pos h]
    exact .kept (hgood.mpr h) .nil
  · rw [if_neg h]
    exact .broken (not_not.mp (mt hgood.mp h)) hsaid .nil

/-- Nothing is reported exactly where no rule is broken. -/
theorem Reports.eq_nil_iff {rules : List Rule} {defects : List Defect}
    (h : p.Reports rules defects) : defects = [] ↔ ∀ rule ∈ rules, ¬ p.Breaks rule := by
  induction h with
  | nil => simp
  | kept hkept _ ih => rw [ih, List.forall_mem_cons, and_iff_right hkept]
  | broken hbroken _ _ _ =>
    refine iff_of_false (List.cons_ne_nil _ _) fun hall => ?_
    exact hall _ (List.mem_cons_self ..) hbroken

/-- The rules of a series that a profile breaks. -/
def brokenAmong (p : Profile) (rules : List Rule) : Set Rule :=
  {rule | rule ∈ rules ∧ p.Breaks rule}

theorem brokenAmong_all (p : Profile) : p.brokenAmong Rule.all = {rule | p.Breaks rule} := by
  ext rule
  exact and_iff_right rule.mem_all

theorem brokenAmong_cons_of_kept {rule : Rule} (hkept : ¬ p.Breaks rule) (rules : List Rule) :
    p.brokenAmong (rule :: rules) = p.brokenAmong rules := by
  ext r
  show r ∈ rule :: rules ∧ p.Breaks r ↔ r ∈ rules ∧ p.Breaks r
  rw [List.mem_cons, or_and_right, or_iff_right]
  rintro ⟨rfl, hr⟩
  exact hkept hr

/-- A rule that is broken is one of them. -/
theorem brokenAmong_cons_of_broken {rule : Rule} (hbroken : p.Breaks rule) (rules : List Rule) :
    p.brokenAmong (rule :: rules) = insert rule (p.brokenAmong rules) := by
  ext r
  show r ∈ rule :: rules ∧ p.Breaks r ↔ r = rule ∨ r ∈ rules ∧ p.Breaks r
  rw [List.mem_cons, or_and_right]
  refine or_congr_left (and_iff_left_of_imp ?_)
  rintro rfl
  exact hbroken

theorem finite_brokenAmong (p : Profile) (rules : List Rule) : (p.brokenAmong rules).Finite :=
  rules.finite_toSet.subset fun _ hr => hr.1

/-- A report has as many defects as rules of the series are broken. -/
theorem Reports.length_eq {rules : List Rule} {defects : List Defect}
    (h : p.Reports rules defects) (hnodup : rules.Nodup) :
    defects.length = (p.brokenAmong rules).ncard := by
  -- a broken rule comes once in the series, so it is counted once
  induction h with
  | nil => simp [brokenAmong]
  | kept hkept _ ih =>
    rw [brokenAmong_cons_of_kept hkept]
    exact ih hnodup.of_cons
  | broken hbroken _ _ ih =>
    obtain ⟨hfresh, hrest⟩ := List.nodup_cons.mp hnodup
    rw [brokenAmong_cons_of_broken hbroken,
      Set.ncard_insert_of_notMem (fun hr => hfresh hr.1) (finite_brokenAmong p _),
      List.length_cons, ih hrest]

-- ---------------------------------------------------------------------------
-- The parts of validation
-- ---------------------------------------------------------------------------

/-- The check of neighbouring heights reports the rule on all heights. -/
theorem reports_checkpoints (p : Profile) :
    p.Reports [.checkpointOrder]
      (if p.checkpoints.isStrictlyOrdered then [] else [.checkpointOrder]) :=
  reports_rule (by rw [Breaks, not_not, Checkpoints.isStrictlyOrdered_iff]) .checkpointOrder

/-- Each deployment has its window checked, and then its bit. -/
theorem reports_deployment (p : Profile) (id : RuleChange) :
    p.Reports [.window id, .versionBit id] ((p.deployment id).defects id) := by
  have hwindow : ¬ p.Breaks (.window id) ↔ (p.deployment id).hasValidWindow = true := by
    rw [Breaks, Deployment.hasValidWindow_iff_never, not_and_or, not_not, UInt64.not_le]
  have hbit : ¬ p.Breaks (.versionBit id) ↔ (p.deployment id).bit ≤ Deployment.maxBit := by
    rw [Breaks, UInt8.not_lt]
    rfl
  exact (reports_rule hwindow (.window id)).append (reports_rule hbit (.versionBit id))

theorem reports_emptyWindow (p : Profile) :
    p.Reports [.emptyWindow] (if p.confirmationWindow = 0 then [.emptyWindow] else []) := by
  rw [← ite_not]
  exact reports_rule Iff.rfl .emptyWindow

theorem reports_threshold (p : Profile) :
    p.Reports [.threshold] (if p.activationThreshold ≤ p.confirmationWindow then []
      else [.threshold p.activationThreshold p.confirmationWindow]) :=
  reports_rule (by rw [Breaks, UInt32.not_lt]) .threshold

theorem reports_limit (p : Profile) : p.Reports [.limitWidth, .limitBits] p.limitDefects :=
  (reports_rule (by rw [Breaks, Nat.not_lt]; rfl) .limitWidth).append
    (reports_rule (by rw [Breaks, not_not]) .limitBits)

/-- The human-readable part is checked for its form, and then for its case. -/
theorem reports_hrp (p : Profile) : p.Reports [.hrpForm, .hrpCase] p.hrpDefects := by
  have hgood : ¬ p.Breaks .hrpForm ↔ Hrp.check p.hrp = .ok () := by
    rw [Breaks, not_not, Hrp.check_eq_ok_iff]
  show p.Reports ([.hrpForm] ++ [.hrpCase]) _
  rw [hrpDefects]
  refine Reports.append ?_ (reports_rule (by rw [Breaks, not_not]) .hrpCase)
  cases h : Hrp.check p.hrp with
  | ok => exact .kept (hgood.mpr h) .nil
  | error e =>
    refine .broken (not_not.mp (mt hgood.mp fun hok => ?_)) (.hrpForm h) .nil
    rw [h] at hok
    cases hok

/-- The defects of a profile report all rules in their order. -/
theorem reports_defects (p : Profile) : p.Reports Rule.all p.defects := by
  have hdeployments : p.Reports
      [.window .testDummy, .versionBit .testDummy, .window .csv, .versionBit .csv,
        .window .segwit, .versionBit .segwit]
      (p.deployments.entries.flatMap fun entry => entry.2.defects entry.1) :=
    (p.reports_deployment .testDummy).append
      ((p.reports_deployment .csv).append ((p.reports_deployment .segwit).append .nil))
  exact ((((p.reports_checkpoints.append hdeployments).append p.reports_emptyWindow).append
    p.reports_threshold).append p.reports_limit).append p.reports_hrp

-- ---------------------------------------------------------------------------
-- Every combination of broken rules
-- ---------------------------------------------------------------------------

/-- The deployment of a rule change that breaks the given rules on deployments. -/
def breakingDeployment (broken : Rule → Bool) (id : RuleChange) : Deployment where
  bit := if broken (.versionBit id) then 29 else 28
  startTime := 1
  expireTime := if broken (.window id) then 1 else 2

/-- The highest target that is too wide or not. -/
def breakingLimit (broken : Rule → Bool) : Nat :=
  Compact.ones (if broken .limitWidth then 257 else 256)

/-- The human-readable part that breaks the given rules on it. -/
def breakingHrp (broken : Rule → Bool) : String :=
  match broken .hrpForm, broken .hrpCase with
  | false, false => "k"
  | false, true => "K"
  | true, false => ""
  | true, true => "K "

/-- A profile that breaks the given rules and no others. -/
def breaking (broken : Rule → Bool) : Profile :=
  { simnet with
    checkpoints :=
      if broken .checkpointOrder then .ofList [⟨1, .zero⟩, ⟨1, .zero⟩] else .empty
    deployments :=
      { testDummy := breakingDeployment broken .testDummy
        csv := breakingDeployment broken .csv
        segwit := breakingDeployment broken .segwit }
    confirmationWindow := if broken .emptyWindow then 0 else 1
    activationThreshold := if broken .threshold then 2 else 0
    powLimit := breakingLimit broken
    powLimitBits :=
      Compact.ofTarget (breakingLimit broken) + if broken .limitBits then 1 else 0
    hrp := breakingHrp broken }

theorem deployment_breaking (broken : Rule → Bool) (id : RuleChange) :
    (breaking broken).deployment id = breakingDeployment broken id := by
  cases id <;> rfl

/-- The two rules on the human-readable part can be broken apart from each other. -/
theorem breaks_breaking_hrp_iff (broken : Rule → Bool) :
    ((breaking broken).Breaks .hrpForm ↔ broken .hrpForm = true) ∧
      ((breaking broken).Breaks .hrpCase ↔ broken .hrpCase = true) := by
  have hform : (breaking broken).Breaks .hrpForm ↔ Hrp.check (breakingHrp broken) ≠ .ok () := by
    rw [Breaks, Ne, Hrp.check_eq_ok_iff]
    rfl
  have hcase : (breaking broken).Breaks .hrpCase ↔
      Text.lower (breakingHrp broken) ≠ breakingHrp broken := Iff.rfl
  rw [hform, hcase, breakingHrp]
  -- one text for each of the four cases
  cases broken .hrpForm with
  | false =>
    cases broken .hrpCase with
    | false => decide +kernel
    | true => decide +kernel
  | true =>
    cases broken .hrpCase with
    | false => decide +kernel
    | true => decide +kernel

/-- A value chosen by a flag has a property exactly if the flag is set, where one of the two
choices has it. -/
theorem chosen_iff {α : Type} (P : α → Prop) {x y : α} (hx : P x) (hy : ¬ P y) (flag : Bool) :
    P (if flag then x else y) ↔ flag = true := by
  cases flag with
  | false => exact iff_of_false hy Bool.false_ne_true
  | true => exact iff_of_true hx rfl

/-- Any set of rules can be the set of broken ones. -/
theorem breaks_breaking_iff (broken : Rule → Bool) (rule : Rule) :
    (breaking broken).Breaks rule ↔ broken rule = true := by
  cases rule with
  | checkpointOrder =>
    rw [Breaks, ← Checkpoints.isStrictlyOrdered_iff]
    exact chosen_iff (fun cs : Checkpoints => ¬ cs.isStrictlyOrdered = true) (by decide)
      (by decide) _
  | window id =>
    rw [Breaks, deployment_breaking]
    exact chosen_iff (fun time => time ≠ Deployment.never ∧ time ≤ 1) (by decide) (by decide) _
  | versionBit id =>
    rw [Breaks, deployment_breaking]
    exact chosen_iff (fun bit => 28 < bit) (by decide) (by decide) _
  | emptyWindow => exact chosen_iff (fun blocks : UInt32 => blocks = 0) rfl (by decide) _
  | threshold =>
    -- whether the window is empty or not, two votes are more than its blocks
    have hblocks : (breaking broken).confirmationWindow < 2 := by
      show (if broken .emptyWindow then 0 else 1 : UInt32) < 2
      split <;> decide
    exact chosen_iff (fun votes => (breaking broken).confirmationWindow < votes) hblocks
      UInt32.not_lt_zero _
  | limitWidth =>
    exact chosen_iff (fun bits => 256 < bitLength (Compact.ones bits)) (by decide +kernel)
      (by decide +kernel) _
  | limitBits =>
    refine chosen_iff (fun more => Compact.ofTarget (breakingLimit broken) ≠
      Compact.ofTarget (breakingLimit broken) + more) ?_ ?_ _
    · simp
    · simp
  | hrpForm => exact (breaks_breaking_hrp_iff broken).1
  | hrpCase => exact (breaks_breaking_hrp_iff broken).2

-- ---------------------------------------------------------------------------
-- What validation reports
-- ---------------------------------------------------------------------------

/--
**Validation reports each broken rule once, in order.** Beside the thirteen rules stands a list
of defects with one defect for each rule that the profile breaks, in the order of the rules, and
none for the others; so there are as many defects as broken rules. If no rule is broken the
profile is accepted. If one is, the error names the profile and has that list, and its text joins
what the defects say. Every set of rules is the set that some profile breaks.
-/
theorem validate_reports_every_rule :
    (∀ p : Profile, ∃ defects,
      p.Reports Rule.all defects ∧
      defects.length = {rule | p.Breaks rule}.ncard ∧
      (p.validate = .ok () ↔ ∀ rule, ¬ p.Breaks rule) ∧
      (p.validate = .error (.invalidProfile p.name defects) ↔ ∃ rule, p.Breaks rule) ∧
      (Error.invalidProfile p.name defects).message =
        "Invalid parameters for " ++ p.name ++ ": " ++
          String.intercalate "; " (defects.map Defect.message)) ∧
    ∀ broken : Set Rule, ∃ p : Profile, {rule | p.Breaks rule} = broken := by
  refine ⟨fun p => ?_, fun broken => ?_⟩
  · have hreports := p.reports_defects
    have hnone : p.defects = [] ↔ ∀ rule, ¬ p.Breaks rule := by
      rw [hreports.eq_nil_iff]
      exact ⟨fun h rule => h rule rule.mem_all, fun h rule _ => h rule⟩
    refine ⟨p.defects, hreports, ?_, ?_, ?_, ?_⟩
    · rw [hreports.length_eq Rule.nodup_all, brokenAmong_all]
    · rw [validate_eq_ok_iff, ← defects_eq_nil_iff, hnone]
    · rw [validate_eq_error_iff, and_iff_left rfl, Ne, hnone]
      exact not_forall_not
    · rfl
  · classical
    refine ⟨breaking fun rule => decide (rule ∈ broken), ?_⟩
    ext rule
    show (breaking _).Breaks rule ↔ rule ∈ broken
    rw [breaks_breaking_iff, decide_eq_true_iff]

end Profile

end ChainParams
