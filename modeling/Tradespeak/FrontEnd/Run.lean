import Tradespeak.FrontEnd.Arguments
import Tradespeak.FrontEnd.Conversation
import Tradespeak.FrontEnd.FileStore
import Tradespeak.Text.Lines

/-!
# A run of the program

* `Report` — how a run ends, what it shows on the screen, and the files after it.
* `Channel` — how what is typed comes to the program, with its line ends read like those of a file or
  left as they are.
* `answerFile` — answers the lines of a file, on the screen or into another file.
* `answerTyped` — answers the lines typed after a prompt.
* `openLog` — opens the log, or gives it up with a warning.
* `run` — the run that the command line asks for.
* `describe` — what a single line is taken for.
-/

set_option autoImplicit false

namespace Tradespeak

/-- Why a run breaks off. -/
inductive Crash where
  | arithmetic (fault : Decimal.Fault)
  | undecodable (fault : Utf8.Fault)
  | name (error : OsError)
  deriving DecidableEq, Repr

/-- How a run ends. -/
inductive Ending where
  | exit (status : Nat)
  | crash (cause : Crash)
  deriving DecidableEq, Repr

/-- What a run leaves behind. -/
structure Report where
  ending : Ending
  screen : Text
  store : FileStore
  deriving DecidableEq

/-- How what is typed comes to the program. This is settled outside of it, by the platform or by who opens
its input. -/
inductive Channel where
  /-- Through a stream of text that reads every line end as a line feed, as a file is read. It hands on
  an unfinished line when it ends, and when it is interrupted. -/
  | translated
  /-- As it is, from a terminal or a pipe where the line feed alone ends a line. An interrupt discards
  an unfinished line. -/
  | direct
  deriving DecidableEq, Repr

/-- What is typed: a text, whether it ends with an interrupt instead of the end of input, and how it
comes to the program. -/
structure Typed where
  text : Text
  interrupted : Bool
  channel : Channel := .translated
  deriving DecidableEq, Repr

namespace Typed

/-- Nothing is typed. -/
def nothing : Typed := ⟨[], false, .translated⟩

/-- What comes to the program of it. -/
def received (typed : Typed) : Text :=
  match typed.channel with
  | .translated => typed.text.unifyLineEnds
  | .direct => if typed.interrupted then typed.text.upToLastFeed else typed.text

end Typed

/-- The source of a line of a file. -/
def fileSource : Text := "[file]".toList

/-- The source of a line typed after the prompt. -/
def promptSource : Text := "[prompt]".toList

/-- The prompt. -/
def prompt : Text := "> ".toList

/-- The entries of the turns put into the log, if there is one. -/
def logged (time source : Text) (log : Option Text) (turns : List Turn) (store : FileStore) :
    FileStore :=
  match log with
  | none => store
  | some path => store.append path (turns.flatMap (Turn.entry time source))

/-- How a run over turns ends: with the fault of one of them, else as given. -/
def endingAfter (turns : List Turn) (otherwise : Ending) : Ending :=
  match turns.findSome? Turn.fault? with
  | some fault => .crash (.arithmetic fault)
  | none => otherwise

/-- The report for a file that cannot be opened. -/
def notOpened (name screen : Text) (error : OsError) (store : FileStore) : Report :=
  match error with
  | .nulInName => ⟨.crash (.name error), screen, store⟩
  | _ => ⟨.exit 1, screen ++ "Error: ".toList ++ error.message name ++ ['\n'], store⟩

/-- The lines of a file that are answered, and how the run ends after them. Lines that come before a
fault in the file are answered if they have an end. -/
def readableLines (content : Content) : List Text × Ending :=
  match content.read with
  | (text, none) => (text.lines, .exit 0)
  | (text, some fault) => (text.endedLines, .crash (.undecodable fault))

/-- Answers the lines of a file. The screen already shows something. The output is opened after the
input and before the first line is read. -/
def answerFile (time : Text) (log : Option Text) (input : Text) (output : Option Text)
    (screen : Text) (store : FileStore) : Report :=
  match store.openRead input with
  | .error error => notOpened input screen error store
  | .ok inputPath =>
    match output with
    | none =>
      let (lines, ending) := readableLines (store.content inputPath)
      let turns := Market.empty.converse Form.all lines
      ⟨endingAfter turns ending, screen ++ turns.flatMap Turn.shown,
        logged time fileSource log turns store⟩
    | some name =>
      match store.openWrite name with
      | .error error => notOpened name screen error store
      | .ok (outputPath, store) =>
        let (lines, ending) := readableLines (store.content inputPath)
        let turns := Market.empty.converse Form.all lines
        ⟨endingAfter turns ending, screen,
          (logged time fileSource log turns store).append outputPath (turns.flatMap Turn.shown)⟩

/-- Answers the lines typed after a prompt. The screen already shows something. The line feed alone
ends a line of what comes to the program. -/
def answerTyped (time : Text) (log : Option Text) (typed : Typed) (screen : Text)
    (store : FileStore) : Report :=
  let turns := Market.empty.prompted Form.all [] typed.received
  let dialogue := turns.flatMap fun turn => prompt ++ turn.shown
  let ending := endingAfter turns (.exit 0)
  let farewell :=
    match ending with
    | .crash _ => []
    | .exit _ => prompt ++ (if typed.interrupted then "^C\n".toList else "^D\n".toList)
  ⟨ending, screen ++ dialogue ++ farewell, logged time promptSource log turns store⟩

/-- What is there after the log has been opened: its path unless it was given up, what the screen
shows, and the files. -/
structure Opened where
  log : Option Text
  screen : Text
  store : FileStore

/-- Opens the log that the arguments name. A log that cannot be opened is given up with a warning,
if its name can be the name of a file at all. -/
def openLog (arguments : Arguments) (store : FileStore) : Except OsError Opened :=
  match arguments.log with
  | none => .ok ⟨none, [], store⟩
  | some name =>
    match store.openAppend name with
    | .ok (path, store) => .ok ⟨some path, [], store⟩
    | .error .nulInName => .error .nulInName
    | .error error =>
      .ok ⟨none, "Warning: not logging, can't write ".toList ++ name ++ ": ".toList
        ++ error.message name ++ ['\n'], store⟩

/-- The run that a command line asks for. -/
def run (time : Text) (commandLine : List Text) (typed : Typed) (store : FileStore) : Report :=
  match Arguments.read commandLine with
  | .error error => ⟨.exit 2, error.message ++ '\n' :: usage ++ ['\n'], store⟩
  | .ok arguments =>
    match openLog arguments store with
    | .error error => ⟨.crash (.name error), [], store⟩
    | .ok opened =>
      match arguments.input with
      | none => answerTyped time opened.log typed opened.screen opened.store
      | some input =>
        answerFile time opened.log input arguments.output opened.screen opened.store

/-- What a line is taken for, in a line of its own for the form and for each field. -/
def describe (line : Text) : Text :=
  prompt ++ line ++ '\n' ::
    match Request.ofLine? Form.all line with
    | none => "query: none\n".toList
    | some request =>
      "query: ".toList ++ request.form.label ++ '\n' ::
        request.fields.flatMap fun field => field.1 ++ ": ".toList ++ field.2 ++ ['\n']

/-- The run of the whole program: the option `-parse` before other arguments describes the line that
these make, and everything else is a run over lines. -/
def runProgram (time : Text) (commandLine : List Text) (typed : Typed) (store : FileStore) :
    Report :=
  match commandLine with
  | option :: word :: words =>
    if option = "-parse".toList then
      ⟨.exit 0, describe (Text.joinWith [' '] (word :: words)), store⟩
    else run time commandLine typed store
  | _ => run time commandLine typed store

end Tradespeak
