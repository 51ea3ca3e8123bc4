import InlineCheck.Source.Expression

/-! # Statements

How tokens make statements.

* `simpleLine` — the statements of one line.
* `block` — what belongs to a statement: the rest of its line, or indented lines.
* `holding`, `guarding`, … — the statements that have blocks, one reader for each.
-/

namespace InlineCheck.Source

section

variable (again : Goal → Reader)

/-! ## Simple statements -/

def updateSigns : List String :=
  ["+=", "-=", "*=", "@=", "/=", "%=", "&=", "|=", "^=", "<<=", ">>=", "**=", "//="]

/-- What is assigned: an expression, a tuple, or what a generator is sent. -/
def assigned : Reader := fun i =>
  if i.sees "yield" then yielded again i else starExpressions again i

/-- The parts of an assignment behind its first target; all but the last are targets. -/
def assignedParts : Nat → Node → Input → Option (List Node × Input)
  | 0, _, _ => none
  | fuel + 1, n, i =>
    match i.take? "=" with
    | none => some ([n], i)
    | some j => do
      if !n.isTarget then none
      let (m, j) ← assigned again j
      let (ns, j) ← assignedParts fuel m j
      return (n :: ns, j)

def assignment : Reader := fun i => do
  let (n, j) ← assigned again i
  match j.takeAny? updateSigns with
  | some (_, k) =>
    if !n.isSingleTarget then none
    let (m, k) ← assigned again k
    return (i.upTo k .part [n, m], k)
  | none =>
    match j.take? ":" with
    | some k =>
      if !n.isSingleTarget then none
      let (type, k) ← expression again k
      match k.take? "=" with
      | none => return (i.upTo k .part [n, type], k)
      | some k =>
        let (m, k) ← assigned again k
        return (i.upTo k .part [n, type, m], k)
    | none =>
      let (ns, k) ← assignedParts again (j.rest.length + 1) n j
      match ns with
      -- a single part assigns nothing
      | [n] => return (i.upTo k .evaluation [n], k)
      | ns => return (i.upTo k .assignment ns, k)

def endsSimple (i : Input) : Bool :=
  i.sees ";" || i.seesKind .newline

def nameList (i : Input) : Option (List Node × Input) := do
  let (ns, comma, j) ← i.items fun i => do
    let (_, j) ← nameToken i
    return (i.upTo j .part [], j)
  if comma then none
  return (ns, j)

def dottedName : Reader := fun i => do
  let (_, j) ← nameToken i
  let (_, k) := j.many fun i => do
    let j ← i.take? "."
    let (_, j) ← nameToken j
    return (i.upTo j .part [], j)
  return (i.upTo k .part [], k)

/-- Something with another name for it, which may be missing. -/
def withAlias (item : Reader) : Reader := fun i => do
  let (n, j) ← item i
  match j.take? "as" with
  | none => return (n, j)
  | some j =>
    let (_, j) ← nameToken j
    return (n, j)

def plainName : Reader := fun i => do
  let (t, j) ← nameToken i
  return (i.upTo j (.name t.text) [], j)

def importedNames (i : Input) : Option Input :=
  match i.take? "*" with
  | some j => some j
  | none =>
    match i.take? "(" with
    | some j => do
      let (_, _, j) ← j.items (withAlias plainName)
      j.take? ")"
    | none => do
      let (_, comma, j) ← i.items (withAlias plainName)
      if comma then none
      return j

def leadingPoints (i : Input) : List Node × Input :=
  i.many fun i => do
    let (_, j) ← i.takeAny? [".", "..."]
    return (i.upTo j .part [], j)

/-- A statement that begins with a keyword and takes one line. -/
def keywordStatement (word : String) (i : Input) : Reader := fun j =>
  let done (ns : List Node) (j : Input) : Option (Node × Input) := some (i.upTo j .part ns, j)
  match word with
  | "pass" | "break" | "continue" => done [] j
  | "return" =>
    if endsSimple j then done [] j
    else do
      let (n, k) ← starExpressions again j
      done [n] k
  | "raise" =>
    if endsSimple j then done [] j
    else do
      let (n, k) ← expression again j
      match k.take? "from" with
      | none => done [n] k
      | some k =>
        let (m, k) ← expression again k
        done [n, m] k
  | "global" | "nonlocal" => do
    let (ns, k) ← nameList j
    done ns k
  | "del" => do
    let (ns, _, k) ← j.items (primary again)
    if !ns.all Node.isDeletable then none
    done ns k
  | "assert" => do
    let (n, k) ← expression again j
    match k.take? "," with
    | none => done [n] k
    | some k =>
      let (m, k) ← expression again k
      done [n, m] k
  | "import" => do
    let (_, comma, k) ← j.items (withAlias dottedName)
    if comma then none
    done [] k
  | "from" => do
    let (points, k) := leadingPoints j
    -- points alone are a name for the package itself
    let k ← if k.sees "import" && !points.isEmpty then some k else (dottedName k).map (·.2)
    let k ← k.take? "import"
    let k ← importedNames k
    done [] k
  | _ => none

def simpleWords : List String :=
  ["pass", "break", "continue", "return", "raise", "global", "nonlocal", "del", "assert", "import",
    "from"]

def simpleStatement : Reader := fun i => do
  let (n, j) ← match i.takeAny? simpleWords with
    | some (word, j) => keywordStatement again word i j
    | none => assignment again i
  if endsSimple j then return (n, j) else none

def moreSimple : Reader := fun i => do
  let j ← i.take? ";"
  simpleStatement again j

def simpleLine (i : Input) : Option (List Node × Input) := do
  let (n, j) ← simpleStatement again i
  let (ns, j) := j.many (moreSimple again)
  let j := (j.take? ";").getD j
  let (_, j) ← j.takeKind? .newline
  return (n :: ns, j)

/-! ## Blocks -/

def indented (i : Input) : Option (List Node × Input) := do
  let (_, j) ← i.takeKind? .newline
  let (_, j) ← j.takeKind? .indent
  let (ns, j) ← j.some? (again .statement)
  let (_, j) ← j.takeKind? .dedent
  return (ns, j)

/-- What belongs to a statement, behind its colon. -/
def block (i : Input) : Option (List Node × Input) := do
  let j ← i.take? ":"
  if j.seesKind .newline then indented again j else simpleLine again j

def blockAfter (word : String) (i : Input) : Option (List Node × Input) :=
  match i.take? word with
  | none => some ([], i)
  | some j => block again j

def guardedBlock (word : String) : Reader := fun i => do
  let j ← i.take? word
  let (n, j) ← named again j
  let (ns, j) ← block again j
  return (i.upTo j .part (n :: ns), j)

def branching : Reader := fun i => do
  let (n, j) ← guardedBlock again "if" i
  let (ns, j) := j.many (guardedBlock again "elif")
  let (ms, j) ← blockAfter again "else" j
  return (i.upTo j .part (n :: ns ++ ms), j)

def conditionLoop : Reader := fun i => do
  let (n, j) ← guardedBlock again "while" i
  let (ms, j) ← blockAfter again "else" j
  return (i.upTo j .part (n :: ms), j)

def elementLoop : Reader := fun i => do
  let j ← i.take? "for"
  let (target, j) ← loopTargets again j
  let j ← j.take? "in"
  let (source, j) ← starExpressions again j
  let (ns, j) ← block again j
  let (ms, j) ← blockAfter again "else" j
  return (i.upTo j .part (target :: source :: ns ++ ms), j)

def resource : Reader := fun i => do
  let (n, j) ← expression again i
  match j.take? "as" with
  | none => return (n, j)
  | some k =>
    let (target, k) ← loopTarget again k
    if !target.isTarget then none
    return (i.upTo k .part [n, target], k)

/-- Resources in parentheses, up to the colon. -/
def parenthesizedResources (i : Input) : Option (List Node × Input) := do
  let j ← i.take? "("
  let (ns, _, j) ← j.items (resource again)
  let j ← j.take? ")"
  if j.sees ":" then return (ns, j) else none

def plainResources (i : Input) : Option (List Node × Input) := do
  let (ns, comma, j) ← i.items (resource again)
  if comma then none
  return (ns, j)

def holding : Reader := fun i => do
  let j ← i.take? "with"
  -- the parentheses may also be those of the first resource
  let (ns, j) ← match parenthesizedResources again j with
    | some r => some r
    | none => plainResources again j
  let (ms, j) ← block again j
  return (i.upTo j .part (ns ++ ms), j)

/-- A handler of faults; the star tells handlers of groups. -/
def handler (star : Bool) : Reader := fun i => do
  let j ← i.take? "except"
  let j ← if star then j.take? "*" else some j
  if j.sees ":" && !star then
    let (ns, j) ← block again j
    return (i.upTo j .part ns, j)
  else
    let (n, j) ← expression again j
    let j ← match j.take? "as" with
      | none => some j
      | some k => (nameToken k).map (·.2)
    let (ns, j) ← block again j
    return (i.upTo j .part (n :: ns), j)

def guarding : Reader := fun i => do
  let j ← i.take? "try"
  let (ns, j) ← block again j
  -- the first handler tells of which kind all of them are
  let star := j.seesThen "*"
  let (handlers, j) := j.many (handler again star)
  let (others, j) ← if handlers.isEmpty then some ([], j) else blockAfter again "else" j
  let (last, k) ← blockAfter again "finally" j
  if handlers.isEmpty && last.isEmpty then none
  return (i.upTo k .part (ns ++ handlers ++ others ++ last), k)

/-! ## Definitions -/

def functionDefinition : Reader := fun i => do
  let j ← i.take? "def"
  let (_, j) ← nameToken j
  let j ← j.take? "("
  let (ps, j) ← parameters again true ")" j.rest.length {} j
  let j ← j.take? ")"
  let (rs, j) ← match j.take? "->" with
    | none => some ([], j)
    | some k => (expression again k).map fun (n, k) => ([n], k)
  let (ns, j) ← block again j
  return (i.upTo j .part (ps ++ rs ++ ns), j)

def classDefinition : Reader := fun i => do
  let j ← i.take? "class"
  let (_, j) ← nameToken j
  let (as, j) ← match j.take? "(" with
    | none => some ([], j)
    | some k => arguments again k
  let (ns, j) ← block again j
  return (i.upTo j .part (as ++ ns), j)

def asynchronous : Reader := fun i => do
  let j ← i.take? "async"
  let (n, j) ← if j.sees "def" then functionDefinition again j
    else if j.sees "for" then elementLoop again j
    else if j.sees "with" then holding again j
    else none
  return (i.upTo j .part [n], j)

def decorator : Reader := fun i => do
  let j ← i.take? "@"
  let (n, j) ← named again j
  let (_, j) ← j.takeKind? .newline
  return (n, j)

def decorated : Reader := fun i => do
  let (ds, j) ← i.some? (decorator again)
  let (n, j) ← if j.sees "class" then classDefinition again j
    else if j.sees "def" then functionDefinition again j
    else if j.sees "async" && j.seesThen "def" then asynchronous again j
    else none
  return (i.upTo j .part (ds ++ [n]), j)

end

end InlineCheck.Source
