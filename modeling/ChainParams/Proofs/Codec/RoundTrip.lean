import ChainParams.Proofs.Codec.Fields

/-!
# ChainParams — written values read back

The types that are both written and read lose nothing on the way. For each of them the
reader takes the document of a value to the value, wherever the document stands; a record
does so because the members of its document fill the draft from empty to complete, in the
order of the fields.

## Results

* `decode_write` — each of the ten types: the compact text of a value decodes to the value.
-/

namespace ChainParams

open Json (Document Reader Record)

-- ---------------------------------------------------------------------------
-- Scalars
-- ---------------------------------------------------------------------------

/-- A digest is read from the string that is written for it. -/
theorem Digest.reads (d : Digest) : Digest.reader.Reads d.document.chars d :=
  reader_reads (.written_text d.text)

theorem Magic.reads (m : Magic) : Magic.reader.Reads m.document.chars m :=
  (wordReader_reads (.number _)).map Magic.mk

/-- A built-in network is read from its name, which no other network has before it. -/
theorem Network.reads (n : Network) : Network.reader.Reads n.document.chars n := by
  refine Reader.reads_choice ?_
  cases n <;> rfl

theorem RuleChange.reads (id : RuleChange) : RuleChange.reader.Reads id.document.chars id := by
  refine Reader.reads_choice ?_
  cases id <;> rfl

-- ---------------------------------------------------------------------------
-- Records
-- ---------------------------------------------------------------------------

/-- A checkpoint is read from the object of its height and its digest. -/
theorem Checkpoint.reads (c : Checkpoint) : Checkpoint.reader.Reads c.document.chars c := by
  refine Record.reads_record ⟨some c.height, some c.digest⟩ regular_fields (leads rfl ?_) rfl
  exact .cons (.number _) (.cons (.written_text _) .nil)

theorem Seed.reads (s : Seed) : Seed.reader.Reads s.document.chars s := by
  refine Record.reads_record ⟨some s.host, some s.filtering⟩ regular_fields (leads rfl ?_) rfl
  exact .cons (.written_text _) (.cons (.flag _) .nil)

theorem Deployment.reads (d : Deployment) : Deployment.reader.Reads d.document.chars d := by
  refine Record.reads_record ⟨some d.bit, some d.startTime, some d.expireTime⟩ regular_fields
    (leads rfl ?_) rfl
  exact .cons (.number _) (.cons (.number _) (.cons (.number _) .nil))

theorem Config.reads (c : Config) : Config.reader.Reads c.document.chars c := by
  refine Record.reads_record (some c.network) regular_fields (leads rfl ?_) rfl
  exact .cons (.written_text _) .nil

/-- A list of checkpoints is read from the object around it, and each entry as a checkpoint is. -/
theorem Checkpoints.reads (cs : Checkpoints) : Checkpoints.reader.Reads cs.document.chars cs := by
  have hregular : Checkpoint.reader.Regular := Record.regular_reader Checkpoint.regular_fields
  refine Record.reads_record (some cs.toList) regular_fields ?_ rfl
  exact .cons (.known rfl rfl ((hregular.reads_list fun c _ => Checkpoint.reads c).map _)) (.nil _)

/-- The deployments are read from an array that has a place for each slot. -/
theorem Deployments.reads (ds : Deployments) : Deployments.reader.Reads ds.document.chars ds := by
  refine Record.reads_tuple ⟨some ds.testDummy, some ds.csv, some ds.segwit⟩ ?_ ?_ rfl
  · have hregular : Deployment.reader.Regular := Record.regular_reader Deployment.regular_fields
    simp only [record, List.forall_mem_cons]
    exact ⟨hregular.map _, hregular.map _, hregular.map _, by simp⟩
  · -- element by element, in the order of the slots
    exact .cons ((Deployment.reads ds.testDummy).map _) (.cons ((Deployment.reads ds.csv).map _)
      (.cons ((Deployment.reads ds.segwit).map _) (.nil _ _)))

-- ---------------------------------------------------------------------------
-- Whole texts
-- ---------------------------------------------------------------------------

/-- Each value of a type that is both written and read decodes from its compact text. -/
theorem decode_write :
    (∀ d : Digest, Digest.reader.decode d.document.write = .ok d) ∧
    (∀ c : Checkpoint, Checkpoint.reader.decode c.document.write = .ok c) ∧
    (∀ cs : Checkpoints, Checkpoints.reader.decode cs.document.write = .ok cs) ∧
    (∀ m : Magic, Magic.reader.decode m.document.write = .ok m) ∧
    (∀ n : Network, Network.reader.decode n.document.write = .ok n) ∧
    (∀ s : Seed, Seed.reader.decode s.document.write = .ok s) ∧
    (∀ id : RuleChange, RuleChange.reader.decode id.document.write = .ok id) ∧
    (∀ d : Deployment, Deployment.reader.decode d.document.write = .ok d) ∧
    (∀ ds : Deployments, Deployments.reader.decode ds.document.write = .ok ds) ∧
    (∀ c : Config, Config.decode c.document.write = .ok c) := by
  refine ⟨fun d => (Digest.reads d).decode, fun c => (Checkpoint.reads c).decode,
    fun cs => (Checkpoints.reads cs).decode, fun m => (Magic.reads m).decode,
    fun n => (Network.reads n).decode, fun s => (Seed.reads s).decode,
    fun id => (RuleChange.reads id).decode, fun d => (Deployment.reads d).decode,
    fun ds => (Deployments.reads ds).decode, fun c => ?_⟩
  -- A configuration is decoded behind the error of its own.
  rw [Config.decode, (Config.reads c).decode]
  rfl

end ChainParams
