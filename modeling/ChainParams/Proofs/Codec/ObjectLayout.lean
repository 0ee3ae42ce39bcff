import ChainParams.Proofs.Codec.Fields

/-!
# ChainParams — objects in any layout

What is written in one layout is read in all of them. The members of an object may stand in any
order, with any blanks between their parts and their strings in any spelling, and members of other
names may stand among them, with values of any kind and depth.

The members that spell the fields of a value lead from the empty draft to the draft of the value,
in the order of the fields; unknown members do nothing; and the order does not matter. A field
that is missing is missing in the final draft as well. A field that comes twice leads nowhere.

## Results

* `IgnoresLayout`          — what it is to be decoded from objects in any layout.
* `objects_in_any_layout`  — configurations, checkpoints, seeds and deployments are.
-/

namespace ChainParams.Json

variable {α ε : Type}

/-- How a type with the given keys is decoded from objects, if their layout does not matter. -/
structure IgnoresLayout (decode : String → Except ε α) (document : α → Document)
    (keys : List String) (fallback : Option α) : Prop where
  /-- The document of a value has a member for each key. -/
  complete : ∀ a, ∃ fields, document a = .record fields ∧ fields.map Prod.fst = keys
  /-- The members of a document, in any order and spelling and among other members, decode to
  its value. -/
  any_order : ∀ a fields known others ms s, document a = .record fields →
    SpellsMembers fields known → (∀ m ∈ others, m.1 ∉ keys ∧ Wellformed .value m.2) →
    ms.Perm (known ++ others) → IsObjectText ms s → decode s = .ok a
  /-- Without a member for each key an object decodes to the fallback, if there is one. -/
  missing : ∀ key ms s, key ∈ keys → (∀ m ∈ ms, m.1 ≠ key ∧ Wellformed .value m.2) →
    IsObjectText ms s → (decode s).toOption = fallback
  /-- With two members of the same key it decodes to nothing. -/
  repeated : ∀ key u v rest ms s, key ∈ keys → (∀ m ∈ ms, Wellformed .value m.2) →
    ms.Perm ((key, u) :: (key, v) :: rest) → IsObjectText ms s → (decode s).toOption = none

end ChainParams.Json

namespace ChainParams

open Json

-- ---------------------------------------------------------------------------
-- Whole types
-- ---------------------------------------------------------------------------

/-- A checkpoint needs both of its members. -/
theorem Checkpoint.ignoresLayout :
    IgnoresLayout reader.decode Checkpoint.document ["height", "hash"] none where
  complete c := ⟨_, rfl, rfl⟩
  any_order c fields known others ms s hdocument hknown hothers hperm hs :=
    Record.decode_any_order lawful_fields (leads hdocument hknown) rfl hothers hperm hs
  missing key ms s hkey hms hs := by
    refine Record.decode_missing lawful_fields ?_ hkey hms hs
    simp only [record, List.forall_mem_cons]
    -- without either of its fields a draft is not complete
    refine ⟨⟨rfl, fun d hd => ?_⟩, ⟨rfl, fun d hd => ?_⟩, by simp⟩ <;> cases d <;> simp_all
  repeated key u v rest ms s hkey hms hperm hs :=
    Record.decode_repeated lawful_fields hkey hms hperm hs

theorem Seed.ignoresLayout :
    IgnoresLayout reader.decode Seed.document ["host", "has_filtering"] none where
  complete d := ⟨_, rfl, rfl⟩
  any_order d fields known others ms s hdocument hknown hothers hperm hs :=
    Record.decode_any_order lawful_fields (leads hdocument hknown) rfl hothers hperm hs
  missing key ms s hkey hms hs := by
    refine Record.decode_missing lawful_fields ?_ hkey hms hs
    simp only [record, List.forall_mem_cons]
    refine ⟨⟨rfl, fun d hd => ?_⟩, ⟨rfl, fun d hd => ?_⟩, by simp⟩ <;> cases d <;> simp_all
  repeated key u v rest ms s hkey hms hperm hs :=
    Record.decode_repeated lawful_fields hkey hms hperm hs

theorem Deployment.ignoresLayout :
    IgnoresLayout reader.decode Deployment.document ["bit_number", "start_time", "expire_time"]
      none where
  complete d := ⟨_, rfl, rfl⟩
  any_order d fields known others ms s hdocument hknown hothers hperm hs :=
    Record.decode_any_order lawful_fields (leads hdocument hknown) rfl hothers hperm hs
  missing key ms s hkey hms hs := by
    refine Record.decode_missing lawful_fields ?_ hkey hms hs
    simp only [record, List.forall_mem_cons]
    refine ⟨⟨rfl, fun d hd => ?_⟩, ⟨rfl, fun d hd => ?_⟩, ⟨rfl, fun d hd => ?_⟩, by simp⟩ <;>
      cases d <;> simp_all
  repeated key u v rest ms s hkey hms hperm hs :=
    Record.decode_repeated lawful_fields hkey hms hperm hs

/-- What a configuration decodes to does not depend on how its error is named. -/
theorem Config.toOption_decode (s : String) :
    (Config.decode s).toOption = (Config.reader.decode s).toOption := by
  rw [Config.decode]
  cases Config.reader.decode s <;> rfl

/-- A configuration without a network is the standard one, so it has that for a fallback. -/
theorem Config.ignoresLayout :
    IgnoresLayout Config.decode Config.document ["network"] (some ⟨"mainnet"⟩) where
  complete c := ⟨_, rfl, rfl⟩
  any_order c fields known others ms s hdocument hknown hothers hperm hs :=
    decode_eq_ok_iff.mpr <|
      Record.decode_any_order lawful_fields (leads hdocument hknown) rfl hothers hperm hs
  missing key ms s hkey hms hs := by
    rw [List.mem_singleton] at hkey
    subst hkey
    -- its one field is missing, so all that is there is unknown
    have hunknown : ∀ m ∈ ms, m.1 ∉ record.fields.map Json.Field.key ∧ Wellformed .value m.2 :=
      fun m hm => ⟨by simpa [record] using (hms m hm).1, (hms m hm).2⟩
    have hdecode := Record.decode_of_leads (a := standard) lawful_fields.regular hs
      (.of_unknown hunknown) rfl
    rw [toOption_decode]
    change (record.reader.decode s).toOption = _
    rw [hdecode]
    rfl
  repeated key u v rest ms s hkey hms hperm hs := by
    rw [toOption_decode]
    exact Record.decode_repeated lawful_fields hkey hms hperm hs

/--
**The layout of an object does not matter.** A text with the members of a value decodes to the
value, whatever their order, the blanks around them and the spelling of their keys and texts, and
whatever members of other names stand among them, with well-formed values of any depth. If a
member is missing, the text does not decode, except that a configuration then names the main
network. If a member comes twice, it does not decode either, whatever the values of the two.
-/
theorem objects_in_any_layout :
    IgnoresLayout Config.decode Config.document ["network"] (some ⟨"mainnet"⟩) ∧
    IgnoresLayout Checkpoint.reader.decode Checkpoint.document ["height", "hash"] none ∧
    IgnoresLayout Seed.reader.decode Seed.document ["host", "has_filtering"] none ∧
    IgnoresLayout Deployment.reader.decode Deployment.document
      ["bit_number", "start_time", "expire_time"] none :=
  ⟨Config.ignoresLayout, Checkpoint.ignoresLayout, Seed.ignoresLayout, Deployment.ignoresLayout⟩

/-- A configuration behind an unknown member, with blanks between. -/
theorem config_in_disorder :
    Config.decode " \x7b\"x\" : [null], \"network\":\"simnet\"\x7d" = .ok ⟨"simnet"⟩ := by
  have hblank : Blanks [' '] := by simp [Blanks, isBlank]
  have hunknown : Wellformed .value ['[', 'n', 'u', 'l', 'l', ']'] :=
    .parts (b := .square) (.square blanks_nil) (.scalar .null) (.close blanks_nil)
  have hknown : SpellsMembers [("network", .text "simnet")] [("network", "\"simnet\"".toList)] :=
    .cons (.text ⟨_, spellsText_escaped _, rfl⟩) .nil
  have hfirst : IsMember ("x", "[null]".toList) "\"x\" : [null]".toList :=
    ⟨[], _, blanks_nil, ⟨_, [' '], [' '], spellsText_escaped _, hblank, hblank, rfl⟩, rfl⟩
  have hsecond : IsMember ("network", "\"simnet\"".toList) " \"network\":\"simnet\"".toList :=
    ⟨[' '], _, hblank, ⟨_, [], [], spellsText_escaped _, blanks_nil, blanks_nil, rfl⟩, rfl⟩
  refine objects_in_any_layout.1.any_order ⟨"simnet"⟩ _ _ [("x", "[null]".toList)] _ _ rfl hknown
    (by simpa using hunknown) List.perm_append_comm ⟨[' '], _, [], hblank,
      .parts hfirst (.more blanks_nil hsecond (.close blanks_nil)), blanks_nil, ?_⟩
  decide

end ChainParams
