import ChainParams.Proofs.Registry.History
import ChainParams.Registry.Handle

/-!
# ChainParams — a shared registry is one registry

Handles on a shared registry can be copied and used by any number of threads. This module
says that it makes no difference to anybody: all that is asked of the registry through its
handles, in whatever order the threads come to it, is answered as a registry of one's own
would answer the same questions in that order.

A step of a program leaves the registry at a place alone, or is one call on it
(`Step.at_place`). So along a run the registry answers the calls that are made on it and
nothing else happens to it, however many locks and handles there are (`Run.at_place`, by
induction on the run). What remains is about one registry and a list of calls. Only
registrations change it, so it is the registry behind the series of their profiles.

Which profile gets a contested magic depends on who comes first. That exactly one gets it,
which magics are in use in the end, and how many profiles there are, does not: that depends
on nothing but which magics were attempted.

## Results

* `SharedRegistry.run_eq_performAll` — calls behind the lock and without it.
* `Program.Run.at_place`    — a run, as one of the registries sees it.
* `Program.Run.sound`       — each handle leads to a registry, and can be used.
* `isRegistered_registerAll`, `size_registerAll` — magics and size behind a series.
* `registered_of_first`, `refused_of_used` — who gets a contested magic.
* `shared_is_one`           — answers, winners, and what the order does not change.
-/

namespace ChainParams

-- ---------------------------------------------------------------------------
-- A registry of one's own
-- ---------------------------------------------------------------------------

namespace Registry

/-- A call on a registry without a lock: its answer, and the registry behind it. -/
def perform (r : Registry) : Call → Answer × Registry
  | .register p => (.registered (r.tryRegister p).1, (r.tryRegister p).2)
  | .isPubKeyHashId id => (.truth (r.isPubKeyHashId id), r)
  | .isScriptHashId id => (.truth (r.isScriptHashId id), r)
  | .isSegwitPrefix text => (.truth (r.isSegwitPrefix text), r)
  | .hdPublicId bytes => (.hdPublicId (r.hdPublicId bytes), r)
  | .profile magic => (.profile (r.profile? magic), r)
  | .read => (.seen r, r)

/-- Calls one after another: their answers, and the registry in the end. -/
def performAll (r : Registry) : List Call → List Answer × Registry
  | [] => ([], r)
  | c :: cs =>
    let (answers, last) := (r.perform c).2.performAll cs
    ((r.perform c).1 :: answers, last)

end Registry

/-- The profiles that calls try to register, in order. -/
def registrations (cs : List Call) : List Profile :=
  cs.filterMap fun
    | .register p => some p
    | _ => none

/-- A call behind the lock is the call on the registry there, which is put back. -/
theorem SharedRegistry.call_eq_perform (s : SharedRegistry) (c : Call) :
    s.call c = ((s.read.perform c).1, (s.read.perform c).2.share) := by
  cases c <;> rfl

/-- Behind the lock calls are answered as without it. -/
theorem SharedRegistry.run_eq_performAll (s : SharedRegistry) (cs : List Call) :
    s.run cs = ((s.read.performAll cs).1, (s.read.performAll cs).2.share) := by
  induction cs generalizing s with
  | nil => rfl
  | cons c cs ih =>
    simp only [run, call_eq_perform, ih, Registry.performAll]
    rfl

namespace Registry

-- ---------------------------------------------------------------------------
-- What calls do to a registry
-- ---------------------------------------------------------------------------

/-- A registration is answered by the magics in use, and leaves what an attempt leaves. -/
theorem perform_register (r : Registry) (p : Profile) :
    r.perform (.register p) =
      (.registered (if r.isRegistered p.magic then .error (.duplicateNetwork p.magic) else .ok ()),
        r.attempt p) := by
  rw [perform, attempt]
  cases h : r.isRegistered p.magic with
  | true => simp only [tryRegister_of_isRegistered h, if_true]
  | false => simp [tryRegister_of_not_isRegistered h]

/-- Lookups leave a registry as it is, so it is the one behind the registrations. -/
theorem performAll_snd (r : Registry) (cs : List Call) :
    (r.performAll cs).2 = r.registerAll (registrations cs) := by
  induction cs generalizing r with
  | nil => rfl
  | cons c cs ih =>
    show ((r.perform c).2.performAll cs).2 = _
    rw [ih]
    cases c with
    | register p =>
      rw [perform_register]
      rfl
    | _ => rfl

/-- The answer to a call is the one of the registry behind the calls before it. -/
theorem getElem?_performAll_fst (r : Registry) (cs : List Call) (i : Nat) :
    (r.performAll cs).1[i]? =
      cs[i]?.map fun c => ((r.performAll (cs.take i)).2.perform c).1 := by
  induction cs generalizing r i with
  | nil => rfl
  | cons c cs ih =>
    cases i with
    | zero => rfl
    | succ i => exact ih (r.perform c).2 i

-- ---------------------------------------------------------------------------
-- Magics behind a series of attempts
-- ---------------------------------------------------------------------------

/-- An attempt brings its magic into use, if it was not before. -/
theorem isRegistered_attempt (r : Registry) (p : Profile) (magic : Magic) :
    (r.attempt p).isRegistered magic = (p.magic == magic || r.isRegistered magic) := by
  rcases attempt_cases r p with ⟨hused, heq⟩ | ⟨-, heq⟩
  · rw [heq]
    by_cases hm : p.magic = magic
    · rw [← hm, hused, Bool.or_true]
    · simp [hm]
  · rw [heq, isRegistered_insert]

/-- A magic that was attempted is in use, whether by that attempt or already before. -/
theorem isRegistered_registerAll (r : Registry) (ps : List Profile) (magic : Magic) :
    (r.registerAll ps).isRegistered magic = true ↔
      r.isRegistered magic = true ∨ ∃ p ∈ ps, p.magic = magic := by
  induction ps generalizing r with
  | nil => simp [registerAll_nil]
  | cons p ps ih =>
    rw [registerAll_cons, ih, isRegistered_attempt]
    simp only [Bool.or_eq_true, beq_iff_eq, List.exists_mem_cons_iff]
    tauto

/-- Each new magic that is attempted adds one profile. -/
theorem size_registerAll {r : Registry} (hr : Reachable r) (ps : List Profile) :
    (r.registerAll ps).size =
      r.size + ((ps.map Profile.magic).toFinset.filter fun m => r.isRegistered m = false).card := by
  obtain ⟨qs, rfl⟩ := hr.exists_registerAll
  have hold : ∀ m, (empty.registerAll qs).isRegistered m = false ↔
      m ∉ (qs.map Profile.magic).toFinset := by
    intro m
    rw [← Bool.not_eq_true, isRegistered_registerAll_empty]
    simp
  have hnew : (ps.map Profile.magic).toFinset.filter
      (fun m => (empty.registerAll qs).isRegistered m = false) =
      (ps.map Profile.magic).toFinset \ (qs.map Profile.magic).toFinset := by
    ext m
    rw [Finset.mem_filter, Finset.mem_sdiff, hold]
  -- of all magics that came up, the new ones are those not among the old
  have hall : ((qs ++ ps).map Profile.magic).toFinset =
      (qs.map Profile.magic).toFinset ∪
        ((ps.map Profile.magic).toFinset \ (qs.map Profile.magic).toFinset) := by
    rw [List.map_append, List.toFinset_append, Finset.union_sdiff_self_eq_union]
  rw [← registerAll_append, size_registerAll_empty, size_registerAll_empty, hnew, hall,
    Finset.card_union_of_disjoint Finset.disjoint_sdiff]

/-- How many profiles a series adds does not depend on its order. -/
theorem size_registerAll_perm {r : Registry} (hr : Reachable r) {ps qs : List Profile}
    (h : ps.Perm qs) : (r.registerAll ps).size = (r.registerAll qs).size := by
  rw [size_registerAll hr, size_registerAll hr,
    List.toFinset_eq_of_perm _ _ (h.map Profile.magic)]

/-- Nor does it matter for the magics that are in use behind it. -/
theorem isRegistered_registerAll_perm (r : Registry) {ps qs : List Profile} (h : ps.Perm qs)
    (magic : Magic) :
    (r.registerAll ps).isRegistered magic = (r.registerAll qs).isRegistered magic := by
  rw [Bool.eq_iff_iff, isRegistered_registerAll, isRegistered_registerAll]
  simp only [h.mem_iff]

-- ---------------------------------------------------------------------------
-- Attempts among other calls
-- ---------------------------------------------------------------------------

variable {r s : Registry} {cs : List Call} {answers : List Answer}

theorem eq_registerAll_of_performAll (h : r.performAll cs = (answers, s)) :
    s = r.registerAll (registrations cs) := by
  rw [← performAll_snd, h]

/-- What an attempt is answered goes by the magics in use behind the attempts before it. -/
theorem getElem?_of_performAll (h : r.performAll cs = (answers, s)) {i : Nat} {p : Profile}
    (hcall : cs[i]? = some (.register p)) :
    answers[i]? = some (.registered
      (if (r.registerAll (registrations (cs.take i))).isRegistered p.magic
        then .error (.duplicateNetwork p.magic) else .ok ())) := by
  have hi := getElem?_performAll_fst r cs i
  rw [h, hcall, Option.map_some, performAll_snd, perform_register] at hi
  exact hi

/-- The first attempt at a new magic succeeds. -/
theorem registered_of_first (h : r.performAll cs = (answers, s)) {i : Nat} {p : Profile}
    (hcall : cs[i]? = some (.register p)) (hfree : r.isRegistered p.magic = false)
    (hfirst : ∀ q ∈ registrations (cs.take i), q.magic ≠ p.magic) :
    answers[i]? = some (.registered (.ok ())) := by
  rw [getElem?_of_performAll h hcall, if_neg]
  rw [isRegistered_registerAll, hfree]
  simpa using hfirst

/-- Every other attempt is refused. -/
theorem refused_of_used (h : r.performAll cs = (answers, s)) {i : Nat} {p : Profile}
    (hcall : cs[i]? = some (.register p))
    (hused : r.isRegistered p.magic = true ∨
      ∃ q ∈ registrations (cs.take i), q.magic = p.magic) :
    answers[i]? = some (.registered (.error (.duplicateNetwork p.magic))) := by
  rw [getElem?_of_performAll h hcall, if_pos ((isRegistered_registerAll _ _ _).mpr hused)]

end Registry

namespace Program

open Registry (Reachable)

-- ---------------------------------------------------------------------------
-- One registry along a run
-- ---------------------------------------------------------------------------

variable {P Q : Program} {e : Event} {events : List Event} {place : Nat} {s : SharedRegistry}

/-- A step leaves the registry at a place alone, or is one call on it. -/
theorem Step.at_place (h : Step P e Q) (hs : P.locks[place]? = some s) :
    (e.at? place = none ∧ Q.locks[place]? = some s) ∨
    (∃ c, e.at? place = some (c, (s.call c).1) ∧ Q.locks[place]? = some (s.call c).2) := by
  have hlt : place < P.locks.length := (List.getElem?_eq_some_iff.mp hs).1
  cases h with
  | shared r =>
    refine Or.inl ⟨rfl, ?_⟩
    show (P.locks ++ [r.share])[place]? = some s
    rw [List.getElem?_append_left hlt, hs]
  | cloned hHandle => exact Or.inl ⟨rfl, hs⟩
  | @called handle k t c hHandle hLock =>
    -- a call through a handle goes to one lock, which is this one or another
    by_cases hk : k = place
    · subst hk
      rw [hLock, Option.some.injEq] at hs
      subst hs
      refine Or.inr ⟨c, by simp [Event.at?], ?_⟩
      show (P.locks.set k (t.call c).2)[k]? = some (t.call c).2
      rw [List.getElem?_set_self hlt]
    · refine Or.inl ⟨by simp [Event.at?, hk], ?_⟩
      show (P.locks.set k (t.call c).2)[place]? = some s
      rw [List.getElem?_set_ne hk, hs]

/-- Along a run the calls on a registry follow each other as if there were nothing else. -/
theorem Run.at_place (h : Run P events Q) (hs : P.locks[place]? = some s) :
    ∃ t, Q.locks[place]? = some t ∧ s.run (callsAt place events) = (answersAt place events, t) := by
  -- step by step: each adds nothing for this place, or one call and its answer
  induction h generalizing s with
  | nil P => exact ⟨s, hs, rfl⟩
  | @cons P Q R e events hStep _ ih =>
    rcases hStep.at_place hs with ⟨hnone, hsame⟩ | ⟨c, hcall, hnext⟩
    · obtain ⟨t, ht, hrun⟩ := ih hsame
      refine ⟨t, ht, ?_⟩
      simp only [callsAt, answersAt, List.filterMap_cons, hnone] at hrun ⊢
      exact hrun
    · obtain ⟨t, ht, hrun⟩ := ih hnext
      refine ⟨t, ht, ?_⟩
      simp only [callsAt, answersAt, List.filterMap_cons, hcall, List.map_cons] at hrun ⊢
      simp only [SharedRegistry.run, hrun]

-- ---------------------------------------------------------------------------
-- Handles
-- ---------------------------------------------------------------------------

/-- Whether each handle leads to a registry. -/
def Sound (P : Program) : Prop :=
  ∀ place ∈ P.handles, place < P.locks.length

theorem Step.sound (h : Step P e Q) (hP : P.Sound) : Q.Sound := by
  cases h with
  | shared r =>
    intro place hplace
    simp only [List.mem_append, List.mem_singleton, List.length_append,
      List.length_singleton] at hplace ⊢
    rcases hplace with hplace | rfl
    · have := hP place hplace
      omega
    · omega
  | cloned hHandle =>
    intro place hplace
    simp only [List.mem_append, List.mem_singleton] at hplace
    rcases hplace with hplace | rfl
    · exact hP place hplace
    · exact hP _ (List.mem_of_getElem? hHandle)
  | called c hHandle hLock =>
    intro place hplace
    simp only [List.length_set]
    exact hP place hplace

/-- Along a run each handle leads to a registry. -/
theorem Run.sound (h : Run P events Q) (hP : P.Sound) : Q.Sound := by
  induction h with
  | nil P => exact hP
  | cons hStep _ ih => exact ih (hStep.sound hP)

/-- A step changes no handle that is there. -/
theorem Step.handles_getElem? (h : Step P e Q) {handle k : Nat}
    (hk : P.handles[handle]? = some k) : Q.handles[handle]? = some k := by
  have hlt : handle < P.handles.length := (List.getElem?_eq_some_iff.mp hk).1
  cases h with
  | shared r =>
    show (P.handles ++ [P.locks.length])[handle]? = some k
    rw [List.getElem?_append_left hlt, hk]
  | @cloned _ place hHandle =>
    show (P.handles ++ [place])[handle]? = some k
    rw [List.getElem?_append_left hlt, hk]
  | called c hHandle hLock => exact hk

/-- A handle leads to the same registry as long as the program runs. -/
theorem Run.handles_getElem? (h : Run P events Q) {handle k : Nat}
    (hk : P.handles[handle]? = some k) : Q.handles[handle]? = some k := by
  induction h with
  | nil P => exact hk
  | cons hStep _ ih => exact ih (hStep.handles_getElem? hk)

/-- Any call can be made through any handle. -/
theorem Sound.exists_step (hP : P.Sound) {handle : Nat} (h : P.handles[handle]? = some place)
    (c : Call) : ∃ answer Q, Step P (.called handle place c answer) Q := by
  have hlt := hP place (List.mem_of_getElem? h)
  exact ⟨_, _, .called c h (List.getElem?_eq_getElem hlt)⟩

-- ---------------------------------------------------------------------------
-- Any number of threads
-- ---------------------------------------------------------------------------

/-- The registry at a place answers and ends as it would without a lock. -/
theorem Run.exists_performAll {r : Registry} (h : Run P events Q)
    (hplace : P.locks[place]? = some r.share) :
    ∃ s : Registry, Q.locks[place]? = some s.share ∧
      r.performAll (callsAt place events) = (answersAt place events, s) := by
  obtain ⟨t, ht, hrun⟩ := h.at_place hplace
  rw [SharedRegistry.run_eq_performAll, Prod.mk.injEq] at hrun
  obtain ⟨hanswers, hlast⟩ := hrun
  refine ⟨_, by rw [ht, ← hlast], ?_⟩
  rw [← hanswers]
  rfl

/--
**A shared registry is one registry.** Let a program run whose handles lead to registries,
and let a reachable registry be behind the lock at a place. However the steps of its threads
follow each other, the calls made there through any handles are answered as the registry
would answer them in that order without a lock, and leave it as they would. The handles on it
stay on it, and any further call can be made through any handle. The first attempt at a magic
that was not in use succeeds, and every other attempt is refused with that magic. In the end
the magics in use are the old ones and the attempted ones, and there is one more profile for
each magic that is new. So it is for every other run in which the same profiles are attempted
in any order.
-/
theorem shared_is_one {r : Registry} (hr : Reachable r) (hP : P.Sound)
    (hplace : P.locks[place]? = some r.share) (hrun : Run P events Q) :
    ∃ s : Registry, Q.locks[place]? = some s.share ∧
      r.performAll (callsAt place events) = (answersAt place events, s) ∧
      (∀ handle : Nat, P.handles[handle]? = some place → Q.handles[handle]? = some place) ∧
      (∀ handle k, Q.handles[handle]? = some k → ∀ c, ∃ answer R,
        Step Q (.called handle k c answer) R) ∧
      (∀ i p, (callsAt place events)[i]? = some (.register p) →
        ((r.isRegistered p.magic = false ∧
            ∀ q ∈ registrations ((callsAt place events).take i), q.magic ≠ p.magic) →
          (answersAt place events)[i]? = some (.registered (.ok ()))) ∧
        ((r.isRegistered p.magic = true ∨
            ∃ q ∈ registrations ((callsAt place events).take i), q.magic = p.magic) →
          (answersAt place events)[i]? =
            some (.registered (.error (.duplicateNetwork p.magic))))) ∧
      (∀ magic, s.isRegistered magic = true ↔
        r.isRegistered magic = true ∨
          ∃ p ∈ registrations (callsAt place events), p.magic = magic) ∧
      s.size = r.size +
        (((registrations (callsAt place events)).map Profile.magic).toFinset.filter
          fun m => r.isRegistered m = false).card ∧
      (∀ events' Q', Run P events' Q' →
        (registrations (callsAt place events')).Perm (registrations (callsAt place events)) →
        ∃ s' : Registry, Q'.locks[place]? = some s'.share ∧ s'.size = s.size ∧
          ∀ magic, s'.isRegistered magic = s.isRegistered magic) := by
  obtain ⟨s, hs, hperform⟩ := hrun.exists_performAll hplace
  have hlast := Registry.eq_registerAll_of_performAll hperform
  refine ⟨s, hs, hperform, fun handle h => hrun.handles_getElem? h,
    fun handle k h => (hrun.sound hP).exists_step h, ?_, ?_, ?_, ?_⟩
  · intro i p hcall
    exact ⟨fun ⟨hfree, hfirst⟩ => Registry.registered_of_first hperform hcall hfree hfirst,
      fun hused => Registry.refused_of_used hperform hcall hused⟩
  · intro magic
    rw [hlast, Registry.isRegistered_registerAll]
  · rw [hlast, Registry.size_registerAll hr]
  · intro events' Q' hrun' hperm
    obtain ⟨s', hs', hperform'⟩ := hrun'.exists_performAll hplace
    have hlast' := Registry.eq_registerAll_of_performAll hperform'
    refine ⟨s', hs', ?_, fun magic => ?_⟩
    · rw [hlast, hlast', Registry.size_registerAll_perm hr hperm]
    · rw [hlast, hlast', Registry.isRegistered_registerAll_perm r hperm]

/-- Two threads attempt the main network, each through a handle of its own, while another
registry is put behind a lock: the thread that comes first gets the magic. -/
theorem second_thread_refused :
    Reachable .empty ∧ Sound ⟨[Registry.empty.share], [0]⟩ ∧
    ∃ events Q, Run ⟨[Registry.empty.share], [0]⟩ events Q ∧
      callsAt 0 events = [.register .mainnet, .register .mainnet] ∧
      (answersAt 0 events)[0]? = some (.registered (.ok ())) ∧
      (answersAt 0 events)[1]? =
        some (.registered (.error (.duplicateNetwork Magic.mainNet))) ∧
      ∃ s : Registry, Q.locks[0]? = some s.share ∧ s.size = 1 := by
  have hsound : Sound ⟨[Registry.empty.share], [0]⟩ := by
    intro place hplace
    simpa using hplace
  -- a second handle, a call through it, another lock, a call through the first handle
  obtain ⟨events, Q, hrun, hcalls⟩ : ∃ events Q, Run ⟨[Registry.empty.share], [0]⟩ events Q ∧
      callsAt 0 events = [.register .mainnet, .register .mainnet] := by
    have hold : [0][0]? = some 0 := rfl
    have hcopy : [0, 0][1]? = some 0 := rfl
    have hkept : [0, 0, 1][0]? = some 0 := rfl
    exact ⟨_, _, .cons (.cloned hold) (.cons (.called (.register .mainnet) hcopy rfl)
      (.cons (.shared _ .defaults) (.cons (.called (.register .mainnet) hkept rfl)
        (.nil _)))), rfl⟩
  have hempty : ∀ magic, Registry.empty.isRegistered magic = false := by
    intro magic
    simp [Registry.empty, Registry.isRegistered]
  have hplace : [Registry.empty.share][0]? = some Registry.empty.share := rfl
  obtain ⟨s, hs, -, -, -, hanswers, -, hsize, -⟩ := shared_is_one .empty hsound hplace hrun
  rw [hcalls] at hanswers hsize
  refine ⟨.empty, hsound, events, Q, hrun, hcalls, ?_, ?_, s, hs, ?_⟩
  · exact (hanswers 0 .mainnet rfl).1 ⟨hempty _, by simp [registrations]⟩
  · exact (hanswers 1 .mainnet rfl).2 (Or.inr ⟨.mainnet, by simp [registrations], rfl⟩)
  · have hzero : Registry.empty.size = 0 := rfl
    rw [hsize, hzero]
    simp [registrations, hempty]

end Program

end ChainParams
