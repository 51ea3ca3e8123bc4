import InlineCheck.Toml.Fault

/-! # Tables under construction

The nested tables of a document while it is read, and the rules on which of them may still be
changed.

* `modifyAt` — changes the table at a path, making the tables on the way.
* `Flags` — which tables were declared, and which are closed for good.
-/

namespace InlineCheck.Toml

abbrev Entries := List (Value × Value)

/-! ## Nested tables -/

def setLast (xs : List Value) (v : Value) : List Value :=
  xs.dropLast ++ [v]

/-- Changes the table at a path with `f`; tables missing on the way are made, and of an array the
last table is meant when `throughArrays` is set. `none` when something else is in the way or `f`
refuses. -/
def modifyAt (throughArrays : Bool) (f : Entries → Option Entries) :
    List String → Entries → Option Entries
  | [], es => f es
  | k :: ks, es =>
    match Value.lookup (.text k) es with
    | none => (modifyAt throughArrays f ks []).map fun inner =>
      Value.insert (.text k) (.dict inner) es
    | some (.dict inner) =>
      (modifyAt throughArrays f ks inner).map fun inner => Value.insert (.text k) (.dict inner) es
    | some (.list xs) =>
      if throughArrays then
        match xs.getLast? with
        | some (.dict inner) =>
          (modifyAt throughArrays f ks inner).map fun inner =>
            Value.insert (.text k) (.list (setLast xs (.dict inner))) es
        | _ => none
      else none
    | some _ => none

def addEntry (key : String) (v : Value) (es : Entries) : Option Entries :=
  match Value.lookup (.text key) es with
  | some _ => none
  | none => some (Value.insert (.text key) v es)

def appendTable (key : String) (es : Entries) : Option Entries :=
  match Value.lookup (.text key) es with
  | none => some (Value.insert (.text key) (.list [.dict []]) es)
  | some (.list xs) => some (Value.insert (.text key) (.list (xs ++ [.dict []])) es)
  | some _ => none

/-! ## Flags -/

inductive Flag where
  /-- No change is allowed, here and below. -/
  | frozen
  /-- Declared by a header or as the parent of a dotted key. -/
  | declared
  deriving DecidableEq, Repr

/-- What is known of paths; what the statements of a table declare counts from the next header
on. -/
structure Flags where
  set : List (List String × Flag) := []
  pending : List (List String) := []
  deriving Repr

namespace Flags

/-- Whether a path is frozen: it or a path above it was. -/
def isFrozen (fl : Flags) (key : List String) : Bool :=
  !key.isEmpty && fl.set.any fun (path, flag) => flag = .frozen && path.isPrefixOf key

def isDeclared (fl : Flags) (key : List String) : Bool :=
  !key.isEmpty && fl.set.any fun (path, flag) => flag = .declared && path == key

def mark (fl : Flags) (key : List String) (flag : Flag) : Flags :=
  { fl with set := (key, flag) :: fl.set }

/-- Forgets a path and everything below it. -/
def forget (fl : Flags) (key : List String) : Flags :=
  { fl with set := fl.set.filter fun (path, _) => !key.isPrefixOf path }

def markLater (fl : Flags) (key : List String) : Flags :=
  { fl with pending := key :: fl.pending }

def settle (fl : Flags) : Flags :=
  { set := fl.pending.map (·, .declared) ++ fl.set }

end Flags

end InlineCheck.Toml
