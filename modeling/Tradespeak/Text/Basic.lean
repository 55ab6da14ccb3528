/-!
# Texts as lists of characters

* `Text` — a line, a word, a file: a list of Unicode characters.
* `covers` — membership of a character in a table of code point ranges.
* `ofNat` / `hex` — the decimal digits of a number and its lower-case hexadecimal digits.
* `joinWith` — texts put one after another with a separator between them.
-/

set_option autoImplicit false

namespace Tradespeak

/-- A text is the list of its characters. -/
abbrev Text := List Char

/-- A character lies in one of the ranges, which are given by their first and last code point. -/
def covers (ranges : List (Nat × Nat)) (c : Char) : Bool :=
  ranges.any fun range => decide (range.1 ≤ c.toNat) && decide (c.toNat ≤ range.2)

/-- The lower-case letters that words of the dialect are made of. -/
def isLower (c : Char) : Bool := decide ('a' ≤ c) && decide (c ≤ 'z')

/-- The upper-case letters that begin the name of an item. -/
def isUpper (c : Char) : Bool := decide ('A' ≤ c) && decide (c ≤ 'Z')

namespace Text

/-- The decimal digits of a number. -/
def ofNat (n : Nat) : Text := n.repr.toList

/-- The decimal digits of an integer, after a minus sign if it is negative. -/
def ofInt : Int → Text
  | .ofNat n => ofNat n
  | .negSucc n => '-' :: ofNat (n + 1)

/-- The lowest `width` hexadecimal digits of a number, in lower case. -/
def hex (width n : Nat) : Text :=
  match width with
  | 0 => []
  | width + 1 => hex width (n / 16) ++ [Nat.digitChar (n % 16)]

/-- The texts in order, with the separator between each and the next. -/
def joinWith (separator : Text) : List Text → Text
  | [] => []
  | [s] => s
  | s :: t :: rest => s ++ separator ++ joinWith separator (t :: rest)

/-- The text, and as many spaces after it as bring it to the width. -/
def padEnd (width : Nat) (s : Text) : Text := s ++ List.replicate (width - s.length) ' '

end Text

end Tradespeak
