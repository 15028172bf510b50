import SchemaMatch.Text.Printable

/-!
Contract: text between quotes.

Owns:
- which characters are written as escapes: the quote itself, the backslash, and all that do not
  show on their own;
- the forms of escapes.

Does not own: reading quoted text.
-/

namespace SchemaMatch.Text

/-- A character by its code. -/
def codeEscape (character : Char) : List Char :=
  "\\u\x7b".toList ++ Nat.toDigits 16 character.toNat ++ ['\x7d']

/-- A character inside quotes. One that would join the quote or the character before it is
written by its code, too. -/
def escapeCharacter (quote character : Char) : List Char :=
  if character = quote then ['\\', quote]
  else match character with
    | '\\' => ['\\', '\\']
    | '\n' => ['\\', 'n']
    | '\r' => ['\\', 'r']
    | '\t' => ['\\', 't']
    | '\x00' => ['\\', '0']
    | _ =>
        if isPrintable character && !isExtending character then [character]
        else codeEscape character

def quoted (quote : Char) (text : String) : String :=
  String.ofList (quote :: text.toList.flatMap (escapeCharacter quote) ++ [quote])

end SchemaMatch.Text
