import StreamLink.Text.Unprintable

/-!
# Quoted text

Text between double quotes. The quote, the backslash and four control characters are written with a
backslash and a letter; any other character without a glyph of its own is written by its number. The
single quote stands for itself.
-/

namespace StreamLink.Text

/-- The letter that stands after the backslash for a character with a short escape. -/
def shortEscape? : Char → Option Char
  | '\x00' => some '0'
  | '\t' => some 't'
  | '\n' => some 'n'
  | '\r' => some 'r'
  | '"' => some '"'
  | '\\' => some '\\'
  | _ => none

/-- A character by its number: lower-case hexadecimal digits without leading zeros. -/
def numberEscape (c : Char) : List Char :=
  ['\\', 'u', '\x7b'] ++ Nat.toDigits 16 c.toNat ++ ['\x7d']

def escape (c : Char) : List Char :=
  match shortEscape? c with
  | some letter => ['\\', letter]
  | none => if isUnprintable c then numberEscape c else [c]

/-- The text between double quotes. -/
def quoted (s : String) : String :=
  String.ofList ('"' :: s.toList.flatMap escape ++ ['"'])

end StreamLink.Text
