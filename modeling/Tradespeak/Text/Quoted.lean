import Tradespeak.Text.Printable

/-!
# Quoted texts

* `quoted` — a text between quote marks, on one line and free of unprintable characters. The
  mark is the single quote, or the double quote where that spares the escapes.
* `quotedEntries` — a mapping between braces, its keys quoted and its values already rendered.
-/

set_option autoImplicit false

namespace Tradespeak.Text

/-- The double quote if the text holds a single quote and no double one, else the single quote. -/
def quoteMark (s : Text) : Char :=
  if '\x27' ∈ s ∧ '"' ∉ s then '"' else '\x27'

/-- The form of a character between quote marks: after a backslash if it is the mark, a backslash
or a line end or tab, in two, four or eight hexadecimal digits if it is not printable. -/
def escape (mark c : Char) : Text :=
  if c = mark ∨ c = '\\' then ['\\', c]
  else if c = '\n' then ['\\', 'n']
  else if c = '\r' then ['\\', 'r']
  else if c = '\t' then ['\\', 't']
  else if isPrintable c then [c]
  else if c.toNat < 0x100 then '\\' :: 'x' :: hex 2 c.toNat
  else if c.toNat < 0x10000 then '\\' :: 'u' :: hex 4 c.toNat
  else '\\' :: 'U' :: hex 8 c.toNat

/-- The text between quote marks. -/
def quoted (s : Text) : Text :=
  let mark := quoteMark s
  mark :: s.flatMap (escape mark) ++ [mark]

/-- The entries between braces, each a quoted key and its rendered value. -/
def quotedEntries (entries : List (Text × Text)) : Text :=
  '{' :: joinWith ", ".toList (entries.map fun entry => quoted entry.1 ++ ": ".toList ++ entry.2)
    ++ ['}']

end Tradespeak.Text
