import ChainParams.Registry.Shared

/-!
# ChainParams — handles on shared registries

A program uses its shared registries through handles. A handle may be copied as often as one
likes and the copies given to different threads; a copy leads to the registry that the handle
leads to. A registry that is put behind a lock gets a lock of its own.

A call holds the lock of one registry from its start to its end. So whatever the threads of a
program do, a run of it is a series of steps, and in each a lock is made, a handle is copied,
or one call is made through a handle.

* `Program`       — registries behind locks, and the handles on them.
* `Program.Step`  — one step of any thread.
* `Program.Run`   — steps of the threads in any order.
* `Program.callsAt`, `Program.answersAt` — what one of the registries is asked along a run,
  and what it answers.
-/

namespace ChainParams

/-- The registries of a program that stand behind locks, and its handles on them. -/
structure Program where
  /-- The registries by their places. -/
  locks : List SharedRegistry
  /-- The place that each handle leads to. -/
  handles : List Nat

namespace Program

/-- What a step does. -/
inductive Event where
  /-- A registry is put behind a lock, and there is a first handle on it. -/
  | shared (r : Registry)
  /-- There is one more handle on the registry that a handle leads to. -/
  | cloned (handle : Nat)
  /-- The registry at a place is asked through a handle on it, and answers. -/
  | called (handle place : Nat) (c : Call) (answer : Answer)

/-- One step of a program. -/
inductive Step : Program → Event → Program → Prop
  | shared (P : Program) (r : Registry) :
      Step P (.shared r) ⟨P.locks ++ [r.share], P.handles ++ [P.locks.length]⟩
  | cloned {P : Program} {handle place : Nat} (hHandle : P.handles[handle]? = some place) :
      Step P (.cloned handle) { P with handles := P.handles ++ [place] }
  | called {P : Program} {handle place : Nat} {s : SharedRegistry} (c : Call)
      (hHandle : P.handles[handle]? = some place) (hLock : P.locks[place]? = some s) :
      Step P (.called handle place c (s.call c).1) { P with locks := P.locks.set place (s.call c).2 }

/-- Steps one after another. -/
inductive Run : Program → List Event → Program → Prop
  | nil (P : Program) : Run P [] P
  | cons {P Q R : Program} {e : Event} {events : List Event} (hStep : Step P e Q)
      (hRest : Run Q events R) : Run P (e :: events) R

-- ---------------------------------------------------------------------------
-- What happens to one registry
-- ---------------------------------------------------------------------------

/-- The call that a step makes on the registry at a place, with its answer. -/
def Event.at? (place : Nat) : Event → Option (Call × Answer)
  | called _ k c answer => if k = place then some (c, answer) else none
  | _ => none

/-- The calls on the registry at a place, in order. -/
def callsAt (place : Nat) (events : List Event) : List Call :=
  (events.filterMap (Event.at? place)).map Prod.fst

/-- The answers of the registry at a place, in order. -/
def answersAt (place : Nat) (events : List Event) : List Answer :=
  (events.filterMap (Event.at? place)).map Prod.snd

end Program

end ChainParams
