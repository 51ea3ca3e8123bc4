import InlineCheck.Source.Literal

/-! # Expressions

How tokens make expressions. Every reader here takes `again`, which reads a part that lies deeper;
a reader turns to it only behind a token, so that the depth is bounded by the number of tokens.

* `Goal` — what can be read deeper down.
* `arguments` — what stands between the parentheses of a call.
* `expression`, `named`, `starExpressions` — expressions as the places for them differ.
-/

namespace InlineCheck.Source

/-- What can be read. -/
inductive Goal where
  | atom
  | primary
  | factor
  | bitwiseOr
  | inversion
  | disjunction
  | expression
  | named
  | starNamed
  | starExpressions
  | yielded
  | pattern
  | statement
  deriving DecidableEq, Repr

variable (again : Goal → Reader)

/-! ## Parts that stand in lists -/

def nameToken (i : Input) : Option (Token × Input) :=
  i.takeKind? .name

def isNaming (i : Input) : Bool :=
  i.seesKind .name && i.seesThen ":="

def starredBy (stars : String) (kind : Kind) (goal : Goal) : Reader := fun i => do
  let behind ← i.take? stars
  let (n, j) ← again goal behind
  return (i.upTo j kind [n], j)

def loopTarget : Reader := fun i =>
  if i.sees "*" then starredBy again "*" .starred .primary i
  else again .primary i

def loopTargets : Reader := fun i => do
  let (ns, comma, j) ← i.items (loopTarget again)
  if !ns.all Node.isTarget then none
  match ns, comma with
  | [n], false => return (n, j)
  | ns, _ => return (i.upTo j .tuple ns, j)

def loopFilter : Reader := fun i => do
  let behind ← i.take? "if"
  again .disjunction behind

def loopClause : Reader := fun i => do
  let behind := (i.take? "async").getD i
  let behind ← behind.take? "for"
  let (target, j) ← loopTargets again behind
  let j ← j.take? "in"
  let (source, j) ← again .disjunction j
  let (filters, j) := j.many (loopFilter again)
  return (i.upTo j .part (target :: source :: filters), j)

def seesLoop (i : Input) : Bool :=
  i.sees "for" || (i.sees "async" && i.seesThen "for")

def loopClauses (i : Input) : Option (List Node × Input) :=
  i.some? (loopClause again)

/-! ## Calls -/

/-- How far the arguments of a call have come: all kinds, no more plain ones, or no more starred
ones either. -/
inductive ArgumentStage where
  | plain
  | starred
  | mapped
  deriving DecidableEq

def ArgumentStage.after (s : ArgumentStage) (k : Kind) : Option ArgumentStage :=
  match k, s with
  | .starred, .mapped => none
  | .starred, s => some s
  | .keyword none, _ => some .mapped
  | .keyword (some _), .plain => some .starred
  | .keyword (some _), s => some s
  | _, .plain => some .plain
  | _, _ => none

def argumentsOk (s : ArgumentStage) : List Node → Bool
  | [] => true
  | n :: ns =>
    match s.after n.kind with
    | none => false
    | some s => argumentsOk s ns

def argument : Reader := fun i =>
  if i.sees "*" then starredBy again "*" .starred .expression i
  else if i.sees "**" then starredBy again "**" (.keyword none) .expression i
  else if i.seesKind .name && i.seesThen "=" then do
    let (name, j) ← nameToken i
    let j ← j.take? "="
    let (value, j) ← again .expression j
    return (i.upTo j (.keyword (some name.text)) [value], j)
  else do
    let (n, j) ← again .named i
    -- only a name can be given a value
    if j.sees "=" then none
    return (n, j)

/-- The arguments of a call behind its opening parenthesis, and the input behind the closing
one. -/
def arguments (i : Input) : Option (List Node × Input) :=
  match i.take? ")" with
  | some j => some ([], j)
  | none => do
    let (ns, _, j) ← i.items (argument again)
    let j ← j.take? ")"
    if argumentsOk .plain ns then return (ns, j) else none

def isPlain (n : Node) : Bool :=
  match n.kind with
  | .starred | .keyword _ => false
  | _ => true

/-- The arguments of a call with its parentheses. A loop can be the only argument, and then takes
the parentheses of the call. -/
def callArguments (i : Input) : Option (List Node × Input) := do
  let j ← i.take? "("
  match j.take? ")" with
  | some k => return ([], k)
  | none =>
    let (ns, comma, k) ← j.items (argument again)
    if seesLoop k then
      if comma || ns.length ≠ 1 || !ns.all isPlain then none
      let (clauses, k) ← loopClauses again k
      let k ← k.take? ")"
      return ([i.upTo k .other (ns ++ clauses)], k)
    else
      let k ← k.take? ")"
      if argumentsOk .plain ns then return (ns, k) else none

/-! ## Subscripts -/

def optionalExpression (stops : List String) (i : Input) : Option (List Node × Input) :=
  if stops.any i.sees then some ([], i)
  else (again .expression i).map fun (n, j) => ([n], j)

def sliceItem : Reader := fun i =>
  if i.sees "*" then starredBy again "*" .starred .expression i
  else do
    let (first, j) ← if i.sees ":" then some ([], i)
      else (again .named i).map fun (n, j) => ([n], j)
    match j.take? ":" with
    | none =>
      match first with
      | n :: _ => return (n, j)
      | [] => none
    | some j =>
      -- a bound cannot be given a name in passing
      if isNaming i then none
      let (second, j) ← optionalExpression again [":", "]", ","] j
      match j.take? ":" with
      | none => return (i.upTo j .other (first ++ second), j)
      | some j =>
        let (third, j) ← optionalExpression again ["]", ","] j
        return (i.upTo j .other (first ++ second ++ third), j)

def subscripts (i : Input) : Option (List Node × Input) := do
  let (ns, _, j) ← i.items (sliceItem again)
  let j ← j.take? "]"
  return (ns, j)

/-! ## Atoms -/

/-- What stands in parentheses: nothing, a group, a tuple or a loop. -/
def parenthesized : Reader := fun i => do
  let j ← i.take? "("
  match j.take? ")" with
  | some j => return (i.upTo j .tuple [], j)
  | none =>
    if j.sees "yield" then
      let (n, k) ← again .yielded j
      let k ← k.take? ")"
      return (n, k)
    else
      let (ns, comma, k) ← j.items (again .starNamed)
      match ns, comma with
      | [n], false =>
        if n.kind = .starred then none
        else if seesLoop k then
          let (clauses, k) ← loopClauses again k
          let k ← k.take? ")"
          return (i.upTo k .other (n :: clauses), k)
        -- a group is the expression inside
        else
          let k ← k.take? ")"
          return (n, k)
      | ns, _ =>
        let k ← k.take? ")"
        return (i.upTo k .tuple ns, k)

def bracketed : Reader := fun i => do
  let j ← i.take? "["
  match j.take? "]" with
  | some j => return (i.upTo j .list [], j)
  | none =>
    let (ns, comma, k) ← j.items (again .starNamed)
    match ns, comma with
    | [n], false =>
      if n.kind ≠ .starred && seesLoop k then
        let (clauses, k) ← loopClauses again k
        let k ← k.take? "]"
        return (i.upTo k .other (n :: clauses), k)
      else
        let k ← k.take? "]"
        return (i.upTo k .list [n], k)
    | ns, _ =>
      let k ← k.take? "]"
      return (i.upTo k .list ns, k)

def braceItem : Reader := fun i =>
  if i.sees "**" then starredBy again "**" .part .bitwiseOr i
  else do
    let (key, j) ← again .starNamed i
    match j.take? ":" with
    | none => return (key, j)
    | some j =>
      if key.kind = .starred || isNaming i then none
      let (value, j) ← again .expression j
      return (i.upTo j .part [key, value], j)

/-- What stands in braces: a mapping, a set or a loop. -/
def braced : Reader := fun i => do
  let j ← i.take? "\x7b"
  match j.take? "\x7d" with
  | some j => return (i.upTo j .other [], j)
  | none =>
    let (ns, comma, k) ← j.items (braceItem again)
    -- entries and elements do not mix
    if ns.any (·.kind = .part) && !ns.all (·.kind = .part) then none
    if seesLoop k then
      if comma || ns.length ≠ 1 || j.sees "**" || j.sees "*" then none
      let (clauses, k) ← loopClauses again k
      let k ← k.take? "\x7d"
      return (i.upTo k .other (ns ++ clauses), k)
    else
      let k ← k.take? "\x7d"
      return (i.upTo k .other ns, k)

def fieldNodes : List (List Placed) → Option (List Node)
  | [] => some []
  | cells :: rest => do
    let ts ← fieldTokens cells
    let (n, i) ← again .atom { rest := ts }
    -- the braces hold one expression and nothing else
    if !i.seesKind .newline then none
    let ns ← fieldNodes rest
    return n :: ns

def textPiece : Reader := fun i => do
  let (t, j) ← i.next?
  match t.kind with
  | .text mark body =>
    if !bodyOk mark (body.map (·.char)) then none
    if mark.contains 'f' then
      let fs ← fields (mark.contains 'r') body
      let ns ← fieldNodes again fs
      return (i.upTo j .text ns, j)
    else return (i.upTo j .text [], j)
  | _ => none

def textMarks : List Token → List (List Char)
  | [] => []
  | t :: ts =>
    match t.kind with
    | .text mark _ => mark :: textMarks ts
    | _ => []

/-- Texts in a row are one; bytes and others do not mix. -/
def texts : Reader := fun i => do
  let marks := textMarks i.rest
  if marks.any (·.contains 'b') && !marks.all (·.contains 'b') then none
  let (ns, j) ← i.some? (textPiece again)
  -- a text that could not be read must not end the row
  if ns.length ≠ marks.length then none
  return (i.upTo j .text (ns.flatMap (·.parts)), j)

def atom : Reader := fun i => do
  let (t, j) ← i.next?
  match t.kind with
  | .name => return (i.upTo j (.name t.text) [], j)
  | .number => return (i.upTo j (.number t.text) [], j)
  | .text .. => texts again i
  | .keyword =>
    if ["True", "False", "None"].contains t.text then return (i.upTo j .other [], j) else none
  | .sign =>
    if t.text = "(" then parenthesized again i
    else if t.text = "[" then bracketed again i
    else if t.text = "\x7b" then braced again i
    else if t.text = "..." then return (i.upTo j .other [], j)
    else none
  | _ => none

/-! ## Operators -/

/-- What may follow an atom: attributes, calls and subscripts, as many as there are. `start` is
where the atom begins. -/
def trailers (start : Input) : Nat → Node → Input → Option (Node × Input)
  | 0, n, i => some (n, i)
  | fuel + 1, n, i =>
    match i.take? "." with
    | some j => do
      let (_, j) ← nameToken j
      trailers start fuel (start.upTo j .member [n]) j
    | none =>
      if i.sees "(" then do
        let (args, k) ← callArguments again i
        trailers start fuel (start.upTo k .call (n :: args)) k
      else
        match i.take? "[" with
        | some j => do
          let (ns, k) ← subscripts again j
          trailers start fuel (start.upTo k .subscript (n :: ns)) k
        | none => some (n, i)

def primary : Reader := fun i => do
  let (n, j) ← atom again i
  trailers again i j.rest.length n j

def awaited : Reader := fun i =>
  match i.take? "await" with
  | none => primary again i
  | some j => do
    let (n, k) ← again .primary j
    return (i.upTo k .other [n], k)

def power : Reader := fun i => do
  let (n, j) ← awaited again i
  match j.take? "**" with
  | none => return (n, j)
  | some k =>
    match again .factor k with
    | none => return (n, j)
    | some (m, k) => return (i.upTo k .other [n, m], k)

def factor : Reader := fun i =>
  match i.takeAny? ["+", "-", "~"] with
  | none => power again i
  | some (_, j) => do
    let (n, k) ← again .factor j
    return (i.upTo k .other [n], k)

/-- Operands with operators of one rank between them. -/
def chain (signs : List String) (operand : Reader) : Reader := fun i => do
  let (n, j) ← operand i
  match j.many (fun i => do operand (← i.takeAny? signs).2) with
  | ([], _) => return (n, j)
  | (ns, k) => return (i.upTo k .other (n :: ns), k)

def bitwiseOr : Reader :=
  chain ["|"] (chain ["^"] (chain ["&"] (chain ["<<", ">>"] (chain ["+", "-"]
    (chain ["*", "/", "//", "%", "@"] (factor again))))))

def comparisonSign (i : Input) : Option (String × Input) :=
  match i.takeAny? ["==", "!=", "<=", "<", ">=", ">", "in"] with
  | some r => some r
  | none =>
    match i.take? "not" with
    | some j => (j.take? "in").map ("not in", ·)
    | none =>
      match i.take? "is" with
      | none => none
      | some j =>
        match j.take? "not" with
        | some k => some ("is not", k)
        | none => some ("is", j)

def comparisonPart : Reader := fun i => do
  let (sign, j) ← comparisonSign i
  let (n, k) ← bitwiseOr again j
  return (i.upTo k (.comparison [sign]) [n], k)

def comparison : Reader := fun i => do
  let (n, j) ← bitwiseOr again i
  match j.many (comparisonPart again) with
  | ([], _) => return (n, j)
  | (ps, k) =>
    let signs := ps.flatMap fun p => match p.kind with
      | .comparison signs => signs
      | _ => []
    return (i.upTo k (.comparison signs) (n :: ps.flatMap (·.parts)), k)

def inversion : Reader := fun i =>
  match i.take? "not" with
  | none => comparison again i
  | some j => do
    let (n, k) ← again .inversion j
    return (i.upTo k .other [n], k)

def disjunction : Reader :=
  chain ["or"] (chain ["and"] (inversion again))

/-! ## Parameters -/

/-- What the parameters so far allow. -/
structure ParameterStage where
  count : Nat := 0
  defaulted : Bool := false
  slashed : Bool := false
  starred : Bool := false
  /-- A lone star waits for a name. -/
  bare : Bool := false
  deriving Repr

def annotation (annotated starred : Bool) (i : Input) : Option (List Node × Input) :=
  match i.take? ":" with
  | none => some ([], i)
  | some j =>
    if !annotated then some ([], i)
    else if starred && j.sees "*" then
      (starredBy again "*" .starred .bitwiseOr j).map fun (n, k) => ([n], k)
    else (again .expression j).map fun (n, k) => ([n], k)

def defaultValue (i : Input) : Option (List Node × Input) :=
  match i.take? "=" with
  | none => some ([], i)
  | some j => (again .expression j).map fun (n, k) => ([n], k)

def parameters (annotated : Bool) (closer : String) :
    Nat → ParameterStage → Input → Option (List Node × Input)
  | 0, _, _ => none
  | fuel + 1, s, i =>
    let more (ns : List Node) (s : ParameterStage) (i : Input) : Option (List Node × Input) :=
      match i.take? "," with
      | some j => (parameters annotated closer fuel s j).map fun (ms, k) => (ns ++ ms, k)
      | none => if i.sees closer && !s.bare then some (ns, i) else none
    if i.sees closer then
      if s.bare then none else some ([], i)
    else if i.sees "/" then do
      let j ← i.take? "/"
      if s.count = 0 || s.slashed || s.starred then none
      more [] { s with slashed := true } j
    else if i.sees "**" then do
      let j ← i.take? "**"
      let (_, j) ← nameToken j
      let (ns, j) ← annotation again annotated false j
      let j := (j.take? ",").getD j
      if s.bare || !j.sees closer then none
      return (ns, j)
    else if i.sees "*" then do
      let j ← i.take? "*"
      if s.starred then none
      match nameToken j with
      | some (_, j) =>
        let (ns, j) ← annotation again annotated true j
        more ns { s with starred := true, defaulted := false } j
      | none =>
        if !j.sees "," then none
        more [] { s with starred := true, bare := true, defaulted := false } j
    else do
      let (_, j) ← nameToken i
      let (ns, j) ← annotation again annotated false j
      let (ms, j) ← defaultValue again j
      -- behind a star, parameters may go without a default again
      if s.defaulted && !s.starred && ms.isEmpty then none
      more (ns ++ ms)
        { s with
          count := s.count + 1
          defaulted := s.defaulted || !ms.isEmpty
          bare := false } j

/-! ## Expressions -/

def function : Reader := fun i => do
  let j ← i.take? "lambda"
  let (ns, k) ← parameters again false ":" j.rest.length {} j
  let k ← k.take? ":"
  let (body, k) ← again .expression k
  return (i.upTo k .other (ns ++ [body]), k)

def expression : Reader := fun i =>
  if i.sees "lambda" then function again i
  else do
    let (n, j) ← disjunction again i
    let choice : Option (Node × Input) := do
      let k ← j.take? "if"
      let (condition, k) ← again .disjunction k
      let k ← k.take? "else"
      let (other, k) ← again .expression k
      return (i.upTo k .other [n, condition, other], k)
    -- a choice that is not complete is left to what follows, a loop's filter for one
    return choice.getD (n, j)

def named : Reader := fun i =>
  if isNaming i then do
    let (name, j) ← nameToken i
    let nameNode := i.upTo j (.name name.text) []
    let j ← j.take? ":="
    let (n, k) ← again .expression j
    return (i.upTo k .other [nameNode, n], k)
  else do
    let (n, j) ← expression again i
    if j.sees ":=" then none
    return (n, j)

/-- An element of a list: an expression, or the elements of one. -/
def starNamed : Reader := fun i =>
  if i.sees "*" then starredBy again "*" .starred .bitwiseOr i else named again i

def starExpression : Reader := fun i =>
  if i.sees "*" then starredBy again "*" .starred .bitwiseOr i else expression again i

def starExpressions : Reader := fun i => do
  let (ns, comma, j) ← i.items (starExpression again)
  match ns, comma with
  | [n], false => return (n, j)
  | ns, _ => return (i.upTo j .tuple ns, j)

def yielded : Reader := fun i => do
  let j ← i.take? "yield"
  match j.take? "from" with
  | some k =>
    let (n, k) ← again .expression k
    return (i.upTo k .other [n], k)
  | none =>
    match again .starExpressions j with
    | some (n, k) => return (i.upTo k .other [n], k)
    | none => return (i.upTo j .other [], j)

end InlineCheck.Source
