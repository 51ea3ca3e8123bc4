import InlineCheck.CommandLine.Word

/-! # Requests

What a command line asks for.

* `Flags` — what the switches of a command say.
* `Request` — the commands with their operands and flags.
* `Request.ofWords` — reads a command line. Words that a command does not know go on to the script,
  and so does everything behind two dashes.
-/

namespace InlineCheck.CommandLine

structure Flags where
  reporter : Option String := none
  noSummary : Bool := false
  quiet : Nat := 0
  verbose : Nat := 0
  deriving DecidableEq, Repr

/-- Why a command line is not carried out: it asks for help, or it is refused. -/
inductive Stop where
  | help (f : Form)
  | refused (f : Form) (fault : UsageFault)
  deriving DecidableEq, Repr

inductive Request where
  | overview
  | demo (name : String) (flags : Flags)
  | run (script : String) (flags : Flags) (arguments : List String)
  deriving DecidableEq, Repr

/-! ## Switches in a row -/

/-- The switches that a short one and the letters attached to it stand for. -/
def cluster (f : Form) (s : Switch) : List Char → Except Stop (List Switch)
  | [] => .ok [s]
  | c :: rest =>
    match f.find? (String.ofList ['-', c]) with
    | none => .error (.refused f (.unwantedValue s (String.ofList (c :: rest))))
    | some next => (cluster f next rest).map (s :: ·)

def Flags.add (f : Form) (flags : Flags) : Switch → Except Stop Flags
  | .help => .error (.help f)
  | .reporter => .error (.refused f (.missingValue .reporter))
  | .noSummary => .ok { flags with noSummary := true }
  | .quiet => .ok { flags with quiet := flags.quiet + 1 }
  | .verbose => .ok { flags with verbose := flags.verbose + 1 }

def Flags.addValue (f : Form) (flags : Flags) (s : Switch) (value : String) : Except Stop Flags :=
  match s with
  | .reporter => .ok { flags with reporter := some value }
  | s => .error (.refused f (.unwantedValue s value))

def Flags.addWord (f : Form) (flags : Flags) (s : Switch) (short : Bool) :
    Option String → Except Stop Flags
  | none => flags.add f s
  | some value =>
    -- what is attached to a short switch without a value are more switches
    if short && s.placeholder.isNone && value != "" then
      (cluster f s value.toList).bind fun ss => ss.foldlM (Flags.add f) flags
    else flags.addValue f s value

/-! ## Commands -/

structure Reading where
  flags : Flags := {}
  operand : Option String := none
  /-- The words left over. -/
  rest : List String := []
  deriving DecidableEq, Repr

/-- Reads an operand: the first one is the command's own. -/
def Reading.addOperand (f : Form) (r : Reading) (text : String) : Except Stop Reading :=
  match r.operand, f.choices with
  | some _, _ => .ok { r with rest := r.rest ++ [text] }
  | none, none => .ok { r with operand := some text }
  | none, some choices =>
    if choices.contains text then .ok { r with operand := some text }
    else .error (.refused f (.notChoice f.operandName text choices))

/-- Reads the words of a command. `waiting` is a switch whose value is the next word. -/
def readWords (f : Form) (waiting : Option Switch) : List Word → Reading → Except Stop Reading
  | [], r =>
    match waiting with
    | none => .ok r
    | some s => .error (.refused f (.missingValue s))
  | .operand text :: ws, r =>
    match waiting with
    | none => (r.addOperand f text).bind (readWords f none ws)
    | some s =>
      (r.flags.addValue f s text).bind fun flags => readWords f none ws { r with flags }
  | w :: ws, r =>
    match waiting, w with
    -- a word that looks like a switch is no value
    | some s, _ => .error (.refused f (.missingValue s))
    | none, .unknown text => readWords f none ws { r with rest := r.rest ++ [text] }
    | none, .switch s short attached =>
      if s.placeholder.isSome && attached.isNone then readWords f (some s) ws r
      else
        (r.flags.addWord f s short attached).bind fun flags =>
          readWords f none ws { r with flags }
    | none, .operand text => (r.addOperand f text).bind (readWords f none ws)

def readCommand (f : Form) (words : List String) : Except Stop Reading :=
  match words.mapM (Word.ofText f) with
  | .error fault => .error (.refused f fault)
  | .ok ws => readWords f none ws {}

def refuseRest (rest : List String) (request : Request) : Except Stop Request :=
  if rest.isEmpty then .ok request else .error (.refused .program (.unrecognized rest))

def readDemo (before words after : List String) : Except Stop Request :=
  (readCommand .demo words).bind fun r =>
    refuseRest (before ++ r.rest ++ after) (.demo (r.operand.getD "all") r.flags)

def readRun (before words after : List String) : Except Stop Request :=
  (readCommand .run words).bind fun r =>
    match r.operand with
    | none => .error (.refused .run (.missingOperand Form.run.operandName))
    | some script => .ok (.run script r.flags (before ++ r.rest ++ after))

/-- Reads words up to the command, and then the command. `before` holds the words left over before
it, and `after` those behind the two dashes. -/
def readProgram (before after : List String) : List String → Except Stop Request
  | [] => refuseRest (before ++ after) .overview
  | word :: words =>
    match Word.ofText .program word with
    | .error fault => .error (.refused .program fault)
    | .ok (.operand "demo") => readDemo before words after
    | .ok (.operand "run") => readRun before words after
    | .ok (.operand text) =>
      .error (.refused .program (.notChoice Form.program.operandName text commandChoices))
    | .ok (.unknown text) => readProgram (before ++ [text]) after words
    | .ok (.switch s short attached) =>
      (Flags.addWord .program {} s short attached).bind fun _ => readProgram before after words

/-! ## Command lines -/

def splitDashes (words : List String) : List String × List String :=
  (words.takeWhile (· != "--"), (words.dropWhile (· != "--")).drop 1)

def addOptions (options : List String) : List String → List String
  | [] => []
  | word :: words =>
    if commandChoices.contains word then word :: (options ++ words) else word :: words

def Request.ofWords (options words : List String) : Except Stop Request :=
  let (own, after) := splitDashes (addOptions options words)
  readProgram [] after own

end InlineCheck.CommandLine
