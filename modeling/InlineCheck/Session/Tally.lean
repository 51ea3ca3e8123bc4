import InlineCheck.Assertion.Basic

/-! # Test blocks and tallies

* `Block` — one run of a named test body: its assertions, its status, its time and its fault.
* `Tally` — a counter of assertions and blocks, which also remembers the activation that it will
  undo.
-/

namespace InlineCheck

open Number (Binary64)

inductive Status where
  | passed
  | failed
  | error
  deriving DecidableEq, Repr

def Status.name : Status → String
  | .passed => "passed"
  | .failed => "failed"
  | .error => "error"

/-- One run of a named test body. Times are in ticks of 1/1024 second. -/
structure Block where
  description : Value
  status : Status
  results : List Assertion := []
  ticks : Nat := 0
  fault : Option Fault := none
  deriving Repr

namespace Block

def passed (b : Block) : Nat :=
  b.results.countP (·.passed)

def failed (b : Block) : Nat :=
  b.results.countP (!·.passed)

def milliseconds (b : Block) : Binary64 :=
  Binary64.ofRatio false (b.ticks * 1000) 1024

/-- The status of a body: an error when it was left by a fault, and otherwise passed when every
assertion held. -/
def statusOf (results : List Assertion) (fault : Option Fault) : Status :=
  if fault.isSome then .error
  else if results.any (!·.passed) then .failed
  else .passed

end Block

/-- What names a tally: a name given by the program, or the command's own. -/
inductive TallyId where
  | named (name : String)
  | command
  deriving DecidableEq, Repr

def TallyId.label : TallyId → String
  | .named name => name
  | .command => "?"

/-- The activation that an active tally undoes when it is left: the context it was entered in, and
the tallies that were active there. -/
structure Activation where
  context : Nat
  before : List TallyId
  deriving DecidableEq, Repr

structure Tally where
  passed : Int := 0
  failed : Int := 0
  blocks : List Block := []
  activation : Option Activation := none
  deriving Repr

namespace Tally

def errors (t : Tally) : Nat :=
  t.blocks.countP (·.status = .error)

def total (t : Tally) : Int :=
  t.passed + t.failed

def ok (t : Tally) : Bool :=
  t.failed = 0 && t.errors = 0

def exitCode (t : Tally) : Nat :=
  if t.ok then 0 else 1

def count (t : Tally) (a : Assertion) : Tally :=
  if a.passed then { t with passed := t.passed + 1 } else { t with failed := t.failed + 1 }

def keep (t : Tally) (b : Block) : Tally :=
  { t with blocks := t.blocks ++ [b] }

def shown (t : Tally) : String :=
  s!"Tally(passed={t.passed}, failed={t.failed}, errors={t.errors}, blocks={t.blocks.length})"

end Tally

/-! ## Tallies by name -/

/-- The tallies of a session; one that was never touched is fresh. -/
structure Ledger where
  entries : List (TallyId × Tally) := []
  deriving Repr

namespace Ledger

def get (l : Ledger) (id : TallyId) : Tally :=
  ((l.entries.find? (·.1 = id)).map (·.2)).getD {}

def put (id : TallyId) (t : Tally) : List (TallyId × Tally) → List (TallyId × Tally)
  | [] => [(id, t)]
  | e :: es => if e.1 = id then (id, t) :: es else e :: put id t es

def set (l : Ledger) (id : TallyId) (t : Tally) : Ledger :=
  ⟨put id t l.entries⟩

def modify (l : Ledger) (id : TallyId) (f : Tally → Tally) : Ledger :=
  l.set id (f (l.get id))

def modifyAll (l : Ledger) (ids : List TallyId) (f : Tally → Tally) : Ledger :=
  ids.foldl (fun l id => l.modify id f) l

@[simp] theorem get_set_self (l : Ledger) (id : TallyId) (t : Tally) : (l.set id t).get id = t := by
  obtain ⟨es⟩ := l
  induction es with
  | nil => simp [get, set, put]
  | cons e es ih =>
    by_cases h : e.1 = id
    · simp [get, set, put, h]
    · simpa [get, set, put, h] using ih

@[simp] theorem get_set_of_ne (l : Ledger) {id id' : TallyId} (t : Tally) (h : id ≠ id') :
    (l.set id t).get id' = l.get id' := by
  obtain ⟨es⟩ := l
  induction es with
  | nil => simp [get, set, put, h]
  | cons e es ih =>
    by_cases h₁ : e.1 = id
    · simp [get, set, put, h₁, h]
    · by_cases h₂ : e.1 = id'
      · simp [get, set, put, h₂, Ne.symm h]
      · simpa [get, set, put, h₁, h₂] using ih

end Ledger

end InlineCheck
