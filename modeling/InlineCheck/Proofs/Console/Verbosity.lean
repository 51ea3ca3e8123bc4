import InlineCheck.Proofs.Console.Badges
import Mathlib.Data.List.Flatten
import Mathlib.Data.List.Forall2

/-! # Quiet and loud consoles

What the console writes over a row of calls, depending on its verbosity.

* `respond_console` — verbosity decides only whether the console keeps a call to itself. Which
  stream and which line belong to a call is decided by the call alone.
* `isHidden_mono` and `isHidden_of_failure` — a louder console hides less, and a failure is never
  hidden.
* `quiet_hides_no_failure` — so failures come out alike at every verbosity, and a quiet console
  leaves out some of the lines of a loud one.
-/

namespace InlineCheck

namespace Call

/-- The marked-up line by which the console tells of a call. -/
def markup : Call → Except Fault String
  | .start description => ConsoleLines.start description
  | .assertion a => .ok (if a.passed then ConsoleLines.held a.text else ConsoleLines.broken a.text)
  | .complete b => ConsoleLines.complete b
  | .summary t => .ok (ConsoleLines.summary t)

/-- Whether a call tells of a condition that did not hold. -/
def isFailure : Call → Bool
  | .assertion a => !a.passed
  | _ => false

/-- Whether a call begins a block or ends the counting. -/
def isAnnouncement : Call → Bool
  | .start _ | .summary _ => true
  | _ => false

def stream (c : Call) : Stream :=
  if c.isFailure then .err else .out

theorem stream_eq_err_iff {c : Call} : c.stream = .err ↔ c.isFailure = true := by
  cases failure : c.isFailure <;> simp [stream, failure]

theorem isHidden_of_failure {c : Call} (failure : c.isFailure = true) (verbosity : Int) :
    c.isHidden verbosity = false := by
  cases c <;> simp_all [isFailure, isHidden]

theorem isTextual_of_failure {c : Call} (failure : c.isFailure = true) : c.isTextual = true := by
  cases c with
  | assertion => rfl
  | _ => cases failure

theorem isHidden_of_announcement {c : Call} (announced : c.isAnnouncement = true)
    (verbosity : Int) : c.isHidden verbosity = false := by
  cases c <;> simp_all [isAnnouncement, isHidden]

theorem stream_of_announcement {c : Call} (announced : c.isAnnouncement = true) :
    c.stream = .out := by
  cases c <;> simp_all [isAnnouncement, stream, isFailure]

/-- What a louder console keeps to itself, a quieter one does too. -/
theorem isHidden_mono {c : Call} {v w : Int} (quieter : v ≤ w) (hidden : c.isHidden w = true) :
    c.isHidden v = true := by
  cases c with
  | start | summary => cases hidden
  | assertion a =>
    simp only [isHidden, Bool.and_eq_true, decide_eq_true_eq] at hidden ⊢
    exact ⟨hidden.1, by omega⟩
  | complete b =>
    simp only [isHidden, decide_eq_true_eq] at hidden ⊢
    omega

end Call

namespace Screen

/-- A text is what a screen prints to tell of a call. -/
def Tells (screen : Screen) (c : Call) (text : String) : Prop :=
  ∃ markup, c.markup = .ok markup ∧ screen.print markup = .ok text

/-- Failures and announcements can always be printed, whatever texts they tell. -/
theorem exists_tells (screen : Screen) {c : Call}
    (loud : c.isFailure = true ∨ c.isAnnouncement = true) (textual : c.isTextual = true) :
    ∃ text, screen.Tells c text := by
  cases c with
  | start description =>
    cases description with
    | text description =>
      obtain ⟨markup, text, written, printed⟩ := Reporter.print_start screen description
      exact ⟨text, markup, written, printed⟩
    | _ => cases textual
  | assertion a =>
    cases passed : a.passed with
    | true => simp [Call.isFailure, Call.isAnnouncement, passed] at loud
    | false =>
      obtain ⟨text, printed⟩ := Reporter.print_broken screen a.text
      exact ⟨text, _, by simp [Call.markup, passed], printed⟩
  | complete b => rcases loud with loud | loud <;> cases loud
  | summary t =>
    obtain ⟨text, printed⟩ := Reporter.print_summary screen t
    exact ⟨text, _, rfl, printed⟩

end Screen

namespace Reporter

/-- Verbosity decides only whether a call is kept to itself. -/
theorem respond_console (screen : Screen) (verbosity : Int) (earlier : List Call) (c : Call) :
    (Reporter.console screen verbosity).respond earlier c
      = if c.isHidden verbosity then {} else onScreen screen c.stream c.markup := by
  cases hidden : c.isHidden verbosity with
  | true => exact respond_hidden hidden earlier
  | false =>
    show consoleRespond screen verbosity c = onScreen screen c.stream c.markup
    cases c with
    | start | summary => rfl
    | assertion a =>
      cases passed : a.passed with
      | true =>
        have loud : 0 ≤ verbosity := by simpa [Call.isHidden, passed] using hidden
        simp [consoleRespond, Call.stream, Call.isFailure, Call.markup, passed, loud]
      | false => simp [consoleRespond, Call.stream, Call.isFailure, Call.markup, passed]
    | complete b =>
      have loud : ¬verbosity ≤ 0 := by simpa [Call.isHidden] using hidden
      simp only [consoleRespond, loud, if_false]
      rfl

/-- The text that an event writes to a stream. -/
def textOn? (stream : Stream) : Event → Option String
  | .wrote other text => if other = stream then some text else none
  | _ => none

/-- The texts that a console writes to a stream when it is told of a call, whatever it was told
before. -/
def chunks (screen : Screen) (verbosity : Int) (stream : Stream) (c : Call) : List String :=
  ((Reporter.console screen verbosity).respond [] c).events.filterMap (textOn? stream)

/-- The texts that a console writes to a stream over a row of calls. -/
def written (screen : Screen) (verbosity : Int) (stream : Stream) (cs : List Call) : List String :=
  cs.flatMap (chunks screen verbosity stream)

section

variable {screen : Screen} {c : Call} {stream : Stream} {v w : Int}

theorem chunks_of_hidden (hidden : c.isHidden v = true) : chunks screen v stream c = [] := by
  simp [chunks, respond_console, hidden]

theorem chunks_of_other (other : c.stream ≠ stream) : chunks screen v stream c = [] := by
  rw [chunks, respond_console]
  split
  · rfl
  · unfold onScreen
    split <;> simp [textOn?, other]

/-- Verbosity has no say in what a call that is not hidden writes. -/
theorem chunks_congr (shown : c.isHidden v = false) (shown' : c.isHidden w = false) :
    chunks screen v stream c = chunks screen w stream c := by
  simp only [chunks, respond_console, shown, shown']

theorem chunks_of_tells {text : String} (tells : screen.Tells c text)
    (shown : c.isHidden v = false) : chunks screen v c.stream c = [text] := by
  obtain ⟨markup, made, printed⟩ := tells
  have wrote : onScreen screen c.stream (.ok markup) = { events := [.wrote c.stream text] } :=
    onScreen_of_print printed
  simp [chunks, respond_console, shown, made, wrote, textOn?]

theorem chunks_sublist (quieter : v ≤ w) :
    (chunks screen v stream c).Sublist (chunks screen w stream c) := by
  cases hidden : c.isHidden v with
  | true => simp [chunks_of_hidden hidden]
  | false =>
    have shown : c.isHidden w = false := by
      cases hidden' : c.isHidden w with
      | true => rw [Call.isHidden_mono quieter hidden'] at hidden; cases hidden
      | false => rfl
    rw [chunks_congr hidden shown]

theorem chunks_err (v w : Int) : chunks screen v .err c = chunks screen w .err c := by
  cases failure : c.isFailure with
  | true =>
    exact chunks_congr (Call.isHidden_of_failure failure v) (Call.isHidden_of_failure failure w)
  | false =>
    have other : c.stream ≠ .err := by simp [Call.stream_eq_err_iff, failure]
    rw [chunks_of_other other, chunks_of_other other]

end

/-! ## Rows of calls -/

section

variable (screen : Screen)

theorem written_sublist {v w : Int} (quieter : v ≤ w) (stream : Stream) (cs : List Call) :
    (written screen v stream cs).Sublist (written screen w stream cs) :=
  List.Sublist.flatMap_right cs fun _ _ => chunks_sublist quieter

/-- Calls that write one text each write these texts in their order. -/
theorem forall₂_written {v : Int} {stream : Stream} {cs : List Call}
    (each : ∀ c ∈ cs, c.stream = stream ∧ c.isHidden v = false ∧ ∃ text, screen.Tells c text) :
    List.Forall₂ screen.Tells cs (written screen v stream cs) := by
  induction cs with
  | nil => exact .nil
  | cons c cs ih =>
    obtain ⟨⟨rfl, shown, text, tells⟩, later⟩ := List.forall_mem_cons.mp each
    have own : written screen v c.stream (c :: cs) = text :: written screen v c.stream cs := by
      simp [written, chunks_of_tells tells shown]
    rw [own]
    exact .cons tells (ih later)

/-- Only failures write to the stream of errors. -/
theorem written_err (v : Int) (cs : List Call) :
    written screen v .err cs = written screen v .err (cs.filter Call.isFailure) := by
  induction cs with
  | nil => rfl
  | cons c cs ih =>
    cases failure : c.isFailure with
    | true => simpa [written, failure] using ih
    | false =>
      have other : c.stream ≠ .err := by simp [Call.stream_eq_err_iff, failure]
      simpa [written, failure, chunks_of_other other] using ih

end

end Reporter

open Reporter in
/-- At every verbosity the console writes the same texts to the stream of errors, one for each
failure in the order of the calls. What a quieter console writes to the stream of output is part of
what a louder one writes. Announcements are never kept back: the console meets each of them alike at
every verbosity, and the lines of those that tell texts are part of what every console writes. -/
theorem quiet_hides_no_failure (screen : Screen) (cs : List Call) {v w : Int} (quieter : v ≤ w) :
    written screen v .err cs = written screen w .err cs
    ∧ List.Forall₂ screen.Tells (cs.filter Call.isFailure) (written screen v .err cs)
    ∧ (written screen v .out cs).Sublist (written screen w .out cs)
    ∧ (∀ verbosity earlier, ∀ c ∈ cs, c.isAnnouncement = true →
        (Reporter.console screen verbosity).respond earlier c = onScreen screen .out c.markup)
    ∧ ∃ texts,
      List.Forall₂ screen.Tells (cs.filter fun c => c.isAnnouncement && c.isTextual) texts
      ∧ ∀ verbosity, texts.Sublist (written screen verbosity .out cs) := by
  have alike : chunks screen v .err = chunks screen w .err := funext fun _ => chunks_err v w
  refine ⟨by rw [written, written, alike], ?_, written_sublist screen quieter .out cs, ?_, ?_⟩
  · rw [written_err]
    apply forall₂_written
    intro c member
    have failure := (List.mem_filter.mp member).2
    exact ⟨Call.stream_eq_err_iff.mpr failure, Call.isHidden_of_failure failure v,
      screen.exists_tells (.inl failure) (Call.isTextual_of_failure failure)⟩
  · intro verbosity earlier c _ announced
    simp [respond_console, Call.isHidden_of_announcement announced,
      Call.stream_of_announcement announced]
  · have announced : ∀ c ∈ cs.filter fun c => c.isAnnouncement && c.isTextual,
        c.isAnnouncement = true ∧ c.isTextual = true :=
      fun c member => Bool.and_eq_true_iff.mp (List.mem_filter.mp member).2
    refine ⟨written screen v .out (cs.filter fun c => c.isAnnouncement && c.isTextual), ?_,
      fun verbosity => ?_⟩
    · apply forall₂_written
      intro c member
      obtain ⟨announces, textual⟩ := announced c member
      exact ⟨Call.stream_of_announcement announces, Call.isHidden_of_announcement announces v,
        screen.exists_tells (.inr announces) textual⟩
    -- Announcements are shown at every verbosity, and the other calls only add to them.
    · have same : written screen v .out (cs.filter fun c => c.isAnnouncement && c.isTextual)
          = written screen verbosity .out
              (cs.filter fun c => c.isAnnouncement && c.isTextual) := by
        refine List.flatMap_congr fun c member => ?_
        exact chunks_congr (Call.isHidden_of_announcement (announced c member).1 v)
          (Call.isHidden_of_announcement (announced c member).1 verbosity)
      rw [same]
      exact List.filter_sublist.flatMap _

/-- A block with a condition that held and one that did not, told to a quiet and to a loud
console. -/
def toldBlock : List Call :=
  [.start (.text "Lists"), .assertion ⟨"xs[0] == 1", true, some "Lists"⟩,
    .assertion ⟨"xs[1] == [red]", false, some "Lists"⟩,
    .complete { description := .text "Lists", status := .failed, results := [], ticks := 0 },
    .summary {}]

theorem toldBlock_failure_shown :
    (-1 : Int) ≤ 1
    ∧ Reporter.written {} (-1) .err toldBlock = ["  Assertion failed: xs[1] == [red]\n"]
    ∧ Reporter.written {} 1 .err toldBlock = ["  Assertion failed: xs[1] == [red]\n"]
    ∧ (Reporter.written {} (-1) .out toldBlock).Sublist (Reporter.written {} 1 .out toldBlock) := by
  obtain ⟨same, failures, fewer, -⟩ :=
    quiet_hides_no_failure {} toldBlock (show (-1 : Int) ≤ 1 by decide)
  have line : (Screen.print {} (ConsoleLines.broken "xs[1] == [red]")).toOption
      = some "  Assertion failed: xs[1] == [red]\n" := by
    decide +kernel
  have shown : Reporter.written {} (-1) .err toldBlock
      = ["  Assertion failed: xs[1] == [red]\n"] := by
    obtain ⟨text, texts, ⟨markup, made, printed⟩, rest, whole⟩ :=
      List.forall₂_cons_left_iff.mp failures
    cases rest
    obtain rfl : ConsoleLines.broken "xs[1] == [red]" = markup := Except.ok.inj made
    rw [printed] at line
    cases line
    exact whole
  exact ⟨by decide, shown, same ▸ shown, fewer⟩

end InlineCheck
