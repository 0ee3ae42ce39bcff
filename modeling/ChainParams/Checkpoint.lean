import ChainParams.Digest

/-!
# ChainParams — checkpoints

A checkpoint pins the digest of the block at a height. A list of them runs from the
oldest to the newest; it is kept in the order in which it is given, and whether that
order is right can be asked.

* `Checkpoints.ofLiterals`      — a table of heights and digest texts; the first bad text
  is the error.
* `Checkpoints.isStrictlyOrdered` — whether heights increase from each to the next.
* `Checkpoints.at?`             — the checkpoint at exactly a height, by bisection.
* `Checkpoints.atOrBefore?`     — the last one at a height or below.
-/

namespace ChainParams

/-- The digest expected of the block at a height. -/
structure Checkpoint where
  height : UInt32
  digest : Digest
deriving DecidableEq

namespace Checkpoint

/-- A checkpoint from a height and the text of a digest. -/
def parse (height : UInt32) (text : String) : Except DigestError Checkpoint :=
  (Digest.parse text).map (Checkpoint.mk height)

end Checkpoint

/-- Checkpoints from the oldest to the newest. -/
structure Checkpoints where
  items : Array Checkpoint
deriving DecidableEq

namespace Checkpoints

/-- The list without checkpoints. -/
def empty : Checkpoints := ⟨#[]⟩

/-- Checkpoints in the order of a list. -/
def ofList (items : List Checkpoint) : Checkpoints := ⟨items.toArray⟩

/-- The checkpoints in order. -/
def toList (cs : Checkpoints) : List Checkpoint := cs.items.toList

/-- The checkpoints of a table of heights and digest texts. -/
def ofLiterals (table : List (UInt32 × String)) : Except DigestError Checkpoints :=
  (table.mapM fun (height, text) => Checkpoint.parse height text).map ofList

/-- The number of checkpoints. -/
def size (cs : Checkpoints) : Nat := cs.items.size

/-- Whether there are none. -/
def isEmpty (cs : Checkpoints) : Bool := cs.items.isEmpty

/-- The newest checkpoint. -/
def latest? (cs : Checkpoints) : Option Checkpoint := cs.items.back?

/-- Whether each height is below the next one. -/
def increasing : List Checkpoint → Bool
  | a :: b :: rest => a.height < b.height && increasing (b :: rest)
  | _ => true

/-- Whether heights increase strictly from the oldest to the newest. -/
def isStrictlyOrdered (cs : Checkpoints) : Bool :=
  increasing cs.toList

/-- Looks for a height among the checkpoints from `low` up to `high`, which is not one
of them, by halving that range. -/
def bisect (items : Array Checkpoint) (height : UInt32) (low high : Nat)
    (h : high ≤ items.size) : Option Checkpoint :=
  if lt : low < high then
    let middle := items[(low + high) / 2]
    if middle.height = height then some middle
    else if middle.height < height then bisect items height ((low + high) / 2 + 1) high h
    else bisect items height low ((low + high) / 2) (by omega)
  else none
termination_by high - low

/-- The checkpoint at exactly a height, in a list whose heights increase. -/
def at? (cs : Checkpoints) (height : UInt32) : Option Checkpoint :=
  bisect cs.items height 0 cs.items.size (Nat.le_refl _)

/-- The last checkpoint whose height is at most the given one. -/
def atOrBefore? (cs : Checkpoints) (height : UInt32) : Option Checkpoint :=
  cs.toList.reverse.find? fun c => c.height ≤ height

theorem toList_ofList (items : List Checkpoint) : (ofList items).toList = items := by
  simp [ofList, toList]

end Checkpoints

end ChainParams
