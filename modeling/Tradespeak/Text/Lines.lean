import Tradespeak.Text.Basic

/-!
# Lines of a text

* `lines` — the lines of a text, without their ends. A line feed, a carriage return, and a
  carriage return before a line feed each end one line; a text after the last line end is a line of
  its own.
* `endedLines` — the lines of a text that is broken off, without the last, unfinished one.
-/

set_option autoImplicit false

namespace Tradespeak.Text

/-- The text with every line end written as a line feed. -/
def unifyLineEnds : Text → Text
  | [] => []
  | '\r' :: '\n' :: rest => '\n' :: unifyLineEnds rest
  | c :: rest => (if c = '\r' then '\n' else c) :: unifyLineEnds rest

/-- The lines of a text in which the line feed alone ends a line. The first argument is what has
been read of the current line, last character first. -/
def linesFrom (read : Text) : Text → List Text
  | [] => if read = [] then [] else [read.reverse]
  | c :: rest => if c = '\n' then read.reverse :: linesFrom [] rest else linesFrom (c :: read) rest

/-- The lines of the text, in order. -/
def lines (s : Text) : List Text := linesFrom [] (unifyLineEnds s)

/-- The text without the carriage return that it may end with. -/
def dropLastReturn (s : Text) : Text :=
  if s.getLast? = some '\r' then s.dropLast else s

/-- The text up to its last line feed. -/
def upToLastFeed (s : Text) : Text := (s.reverse.dropWhile (· ≠ '\n')).reverse

/-- The lines of a text that is broken off, as far as their ends are known. A carriage return at the
break may be the first half of a line end. -/
def endedLines (s : Text) : List Text :=
  linesFrom [] (upToLastFeed (unifyLineEnds (dropLastReturn s)))

end Tradespeak.Text
