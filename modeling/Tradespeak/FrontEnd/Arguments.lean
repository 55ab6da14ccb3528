import Tradespeak.Text.Basic

/-!
# Arguments of the command line

* `Arguments` — the names of the input, the output and the log, as far as they are given.
* `Arguments.read` — the arguments from left to right. The last name given for the output and the
  last one for the log count.
* `UsageError` — why the arguments make no sense, with its message, and the text on usage.
-/

set_option autoImplicit false

namespace Tradespeak

/-- The names of files on the command line. -/
structure Arguments where
  input : Option Text
  output : Option Text
  log : Option Text
  deriving DecidableEq, Repr

/-- Why arguments make no sense. -/
inductive UsageError where
  /-- An option that takes a name comes last. -/
  | missingName (option : Text)
  | unknownOption (option : Text)
  /-- There is an input already. -/
  | unexpected (argument : Text)
  deriving DecidableEq, Repr

/-- A usage error in words. -/
def UsageError.message : UsageError → Text
  | missingName option => option ++ " needs a file name".toList
  | unknownOption option => "Unknown option ".toList ++ option
  | unexpected argument => "Unexpected argument ".toList ++ argument

/-- How the program is used. -/
def usage : Text :=
  Text.joinWith ['\n'] [
    "intra — intergalactic numeral and price translator.".toList,
    "".toList,
    "Reads queries from a file, or interactively from a prompt, and writes one".toList,
    "line per answer. Lines that only teach the engine something produce no".toList,
    "output; lines that can't be answered produce ERROR_STR.".toList,
    "".toList,
    "Usage:".toList,
    "    python -m intra notes.txt".toList,
    "    python -m intra notes.txt -o answers.txt".toList,
    "    python -m intra -log intra.log".toList]

namespace Arguments

/-- The argument is an option that takes the name of the output. -/
def isOutputOption (argument : Text) : Bool :=
  argument == "-o".toList || argument == "--output".toList

/-- The argument is an option that takes the name of the log. -/
def isLogOption (argument : Text) : Bool :=
  argument == "-log".toList || argument == "--log".toList

/-- The arguments read after those that are given already. -/
def readAfter (given : Arguments) : List Text → Except UsageError Arguments
  | [] => .ok given
  | argument :: rest =>
    if isOutputOption argument || isLogOption argument then
      match rest with
      | [] => .error (.missingName argument)
      | name :: rest =>
        if isOutputOption argument then readAfter { given with output := some name } rest
        else readAfter { given with log := some name } rest
    else if argument.head? = some '-' then .error (.unknownOption argument)
    else if given.input.isSome then .error (.unexpected argument)
    else readAfter { given with input := some argument } rest

/-- The arguments of a command line. -/
def read (arguments : List Text) : Except UsageError Arguments :=
  readAfter ⟨none, none, none⟩ arguments

end Arguments

end Tradespeak
