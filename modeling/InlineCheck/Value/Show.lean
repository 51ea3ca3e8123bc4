import InlineCheck.Number.Whole
import InlineCheck.Value.Basic

/-! # Values as text

* `Value.shown` — the unambiguous form of a value, with quotes and brackets.
* `Value.writable` — whether a value can be shown: every integer in it can be written out.
* `Value.display?` — the plain form: a text is itself, everything else is as shown. An object may
  refuse.
-/

namespace InlineCheck

def joinWith (sep : String) (parts : List String) : String :=
  String.intercalate sep parts

/-- The seconds and microseconds of a clock as further arguments, without trailing zeros. -/
def Clock.fields (c : Clock) : List Nat :=
  [c.hour, c.minute]
    ++ (if c.micro != 0 then [c.second, c.micro] else if c.second != 0 then [c.second] else [])

/-- An offset in minutes, shown as whole days and seconds; the seconds are never negative. -/
def shownOffset (minutes : Int) : String :=
  if minutes = 0 then "datetime.timezone.utc"
  else
    let seconds := minutes * 60
    let days := seconds.fdiv 86400
    let rest := seconds.fmod 86400
    let parts := (if days != 0 then [s!"days={days}"] else [])
      ++ (if rest != 0 then [s!"seconds={rest}"] else [])
    "datetime.timezone(datetime.timedelta(" ++ joinWith ", " parts ++ "))"

def Moment.shown : Moment → String
  | .day d => s!"datetime.date({d.year}, {d.month}, {d.day})"
  | .clock c => "datetime.time(" ++ joinWith ", " (c.fields.map toString) ++ ")"
  | .both d c offset =>
    let zone := match offset with
      | some minutes => ["tzinfo=" ++ shownOffset minutes]
      | none => []
    "datetime.datetime("
      ++ joinWith ", " (([d.year, d.month, d.day] ++ c.fields).map toString ++ zone) ++ ")"

namespace Value

mutual
def shown : Value → String
  | .null => "None"
  | .bool b => if b then "True" else "False"
  | .int n => toString n
  | .float x => x.text
  | .text s => Text.quoted s
  | .bytes bs => Text.quotedBytes bs
  | .list xs => "[" ++ joinWith ", " (shownAll xs) ++ "]"
  | .tuple xs =>
    match xs with
    | [x] => "(" ++ shown x ++ ",)"
    | xs => "(" ++ joinWith ", " (shownAll xs) ++ ")"
  | .set xs =>
    match xs with
    | [] => "set()"
    | xs => "\x7b" ++ joinWith ", " (shownAll xs) ++ "\x7d"
  | .dict entries => "\x7b" ++ joinWith ", " (shownEntries entries) ++ "\x7d"
  | .range start stop step =>
    if step = 1 then s!"range({start}, {stop})" else s!"range({start}, {stop}, {step})"
  | .moment m => m.shown
  | .index _ => "<Index>"
  | .object _ _ shown => shown
def shownAll : List Value → List String
  | [] => []
  | x :: xs => shown x :: shownAll xs
def shownEntries : List (Value × Value) → List String
  | [] => []
  | (k, v) :: rest => (shown k ++ ": " ++ shown v) :: shownEntries rest
end

mutual
def writable : Value → Bool
  | .int n => Number.isWritable n
  | .list xs | .tuple xs | .set xs => writableAll xs
  | .dict entries => writableEntries entries
  | .range start stop step =>
    Number.isWritable start && Number.isWritable stop && Number.isWritable step
  | _ => true
def writableAll : List Value → Bool
  | [] => true
  | x :: xs => writable x && writableAll xs
def writableEntries : List (Value × Value) → Bool
  | [] => true
  | (k, v) :: rest => writable k && writable v && writableEntries rest
end

def display? : Value → Option String
  | .text s => some s
  | .object _ display _ => display
  | v => some v.shown

/-- The text that several values make together: nothing for none, the plain text of a single one,
and all of them as shown otherwise. -/
def displayArgs (vs : List Value) : String :=
  if !writableAll vs then "<exception str() failed>"
  else
    match vs with
    | [] => ""
    | [v] => v.display?.getD v.shown
    | vs => (Value.tuple vs).shown

/-- The truth of a value: emptiness, zero and nothing are false. -/
def truth : Value → Truth
  | .null => .holds false
  | .bool b => .holds b
  | .int n => .holds (n != 0)
  | .float x => .holds (!x.isZero)
  | .text s => .holds (s != "")
  | .bytes bs => .holds (!bs.isEmpty)
  | .list xs => .holds (!xs.isEmpty)
  | .tuple xs => .holds (!xs.isEmpty)
  | .set xs => .holds (!xs.isEmpty)
  | .dict es => .holds (!es.isEmpty)
  | .range start stop step =>
    .holds (if 0 < step then start < stop else if step < 0 then stop < start else false)
  | .moment _ => .holds true
  | .index _ => .holds true
  | .object truth _ _ => truth

end Value

end InlineCheck
