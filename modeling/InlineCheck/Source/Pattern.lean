import InlineCheck.Source.Statement

/-! # Patterns

Statements that choose a block by the shape of a value. The words that begin them are names
elsewhere.

* `closedPattern` — a literal, a name, a sequence, a mapping or a class with parts.
* `matching` — the statement.
-/

namespace InlineCheck.Source

section

variable (again : Goal → Reader)

def takeWord? (i : Input) (word : String) : Option Input := do
  let (t, j) ← nameToken i
  if t.text = word then return j else none

def signedNumber (i : Input) : Option (Token × Input) :=
  ((i.take? "-").getD i).takeKind? .number

def isImaginary (t : Token) : Bool :=
  t.text.toList.getLast?.any fun c => c == 'j' || c == 'J'

def numberPattern : Reader := fun i => do
  let (t, j) ← signedNumber i
  match j.takeAny? ["+", "-"] with
  | none => return (i.upTo j .part [], j)
  | some (_, k) =>
    let (u, k) ← k.takeKind? .number
    -- only an imaginary number is added to a real one
    if isImaginary t || !isImaginary u then none
    return (i.upTo k .part [], k)

/-- A name with members, at least one unless `alone`. -/
def valuePattern (alone : Bool) : Reader := fun i => do
  let (n, j) ← dottedName i
  if !alone && !i.seesThen "." then none
  return (n, j)

def starPattern : Reader := fun i => do
  let j ← i.take? "*"
  let (_, j) ← nameToken j
  return (i.upTo j .part [], j)

def elementPattern : Reader := fun i =>
  if i.sees "*" then starPattern i else again .pattern i

def elementPatterns (closer : String) (i : Input) : Option (List Node × Bool × Input) :=
  match i.take? closer with
  | some j => some ([], true, j)
  | none => do
    let (ns, comma, j) ← i.items (elementPattern again)
    let j ← j.take? closer
    return (ns, comma, j)

def keyPattern : Reader := fun i =>
  if i.sees "-" || i.seesKind .number then numberPattern i
  else if i.seesKind .name then valuePattern false i
  else atom again i

/-- An entry of a mapping; the rest of the mapping is told by two stars. -/
def entryPattern : Reader := fun i =>
  match i.take? "**" with
  | some j => do
    let (_, j) ← nameToken j
    return (i.upTo j .other [], j)
  | none => do
    let (_, j) ← keyPattern again i
    let j ← j.take? ":"
    let (_, j) ← again .pattern j
    return (i.upTo j .part [], j)

def mappingPattern : Reader := fun i => do
  let j ← i.take? "\x7b"
  match j.take? "\x7d" with
  | some j => return (i.upTo j .part [], j)
  | none =>
    let (ns, _, j) ← j.items (entryPattern again)
    let j ← j.take? "\x7d"
    -- the rest of the mapping comes last
    if ns.dropLast.any (·.kind = .other) then none
    return (i.upTo j .part [], j)

def memberPattern : Reader := fun i =>
  if i.seesKind .name && i.seesThen "=" then do
    let (_, j) ← nameToken i
    let j ← j.take? "="
    let (_, j) ← again .pattern j
    return (i.upTo j .other [], j)
  else do
    let (_, j) ← again .pattern i
    return (i.upTo j .part [], j)

def classPattern : Reader := fun i => do
  let (_, j) ← valuePattern true i
  let j ← j.take? "("
  match j.take? ")" with
  | some j => return (i.upTo j .part [], j)
  | none =>
    let (ns, _, j) ← j.items (memberPattern again)
    let j ← j.take? ")"
    -- parts by name come behind those by place
    if (ns.dropWhile (·.kind = .part)).any (·.kind = .part) then none
    return (i.upTo j .part [], j)

def closedPattern : Reader := fun i =>
  if i.sees "-" || i.seesKind .number then numberPattern i
  else if i.seesKind .name then
    match classPattern again i with
    | some r => some r
    | none => valuePattern true i
  else if i.sees "(" then do
    let j ← i.take? "("
    let (ns, comma, k) ← elementPatterns again ")" j
    if !comma && ns.length = 1 && j.sees "*" then none
    return (i.upTo k .part [], k)
  else if i.sees "[" then do
    let j ← i.take? "["
    let (_, _, k) ← elementPatterns again "]" j
    return (i.upTo k .part [], k)
  else if i.sees "\x7b" then mappingPattern again i
  else if i.sees "..." then none
  else atom again i

/-- A pattern: alternatives, perhaps with a name. -/
def pattern : Reader := fun i => do
  let (_, j) ← chain ["|"] (closedPattern again) i
  match j.take? "as" with
  | none => return (i.upTo j .part [], j)
  | some k =>
    let (t, k) ← nameToken k
    if t.text = "_" || k.sees "." || k.sees "(" || k.sees "=" then none
    return (i.upTo k .part [], k)

def casePattern : Reader := fun i => do
  let (ns, comma, j) ← i.items fun i => if i.sees "*" then starPattern i else pattern again i
  if !comma && ns.length = 1 && i.sees "*" then none
  return (i.upTo j .part [], j)

def caseBlock : Reader := fun i => do
  let j ← takeWord? i "case"
  let (_, j) ← casePattern again j
  let (gs, j) ← match j.take? "if" with
    | none => some ([], j)
    | some k => (named again k).map fun (n, k) => ([n], k)
  let (ns, j) ← block again j
  return (i.upTo j .part (gs ++ ns), j)

/-- A statement that chooses a block by the shape of a value. -/
def matching : Reader := fun i => do
  let j ← takeWord? i "match"
  let (ns, comma, j) ← j.items (starNamed again)
  if !comma && ns.length = 1 && ns.any (·.kind = .starred) then none
  let j ← j.take? ":"
  let (_, j) ← j.takeKind? .newline
  let (_, j) ← j.takeKind? .indent
  let (cs, j) ← j.some? (caseBlock again)
  let (_, j) ← j.takeKind? .dedent
  return (i.upTo j .part (ns ++ cs), j)

end

end InlineCheck.Source
