import LiveFlags.Text.Printable

/-!
# Quoted text

A text between double quotes in which every character shows: the quote, the backslash and four
control characters have two-character forms, and every other character that is not plain is written
as its code point in lower-case hexadecimal. A single quote stands for itself.
-/
namespace LiveFlags.Text

/-- The code point as a braced hexadecimal number. -/
def codePointEscape (c : Char) : List Char :=
  "\\u\x7b".toList ++ Nat.toDigits 16 c.toNat ++ "\x7d".toList

/-- The form of one character inside the quotes. -/
def quotedChar (c : Char) : List Char :=
  match c with
  | '\x00' => ['\\', '0']
  | '\t' => ['\\', 't']
  | '\r' => ['\\', 'r']
  | '\n' => ['\\', 'n']
  | '\\' => ['\\', '\\']
  | '"' => ['\\', '"']
  | c => if isPlain c then [c] else codePointEscape c

/-- The text between double quotes with each of its characters in the form that shows. -/
def quote (text : String) : String :=
  String.ofList ('"' :: text.toList.flatMap quotedChar ++ ['"'])

end LiveFlags.Text
