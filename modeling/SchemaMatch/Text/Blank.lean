/-!
Contract: blanks and words of a text.

Owns:
- the characters with the Unicode property White_Space;
- the words of a text, its maximal runs of other characters;
- the text with every run of blanks collapsed to one space and none at its ends.

Does not own: the blanks of documents and scripts, whose grammars have smaller sets.
-/

namespace SchemaMatch.Text

/-- The characters with the Unicode property White_Space. -/
def isBlank (character : Char) : Bool :=
  let code := character.toNat
  (0x09 ≤ code && code ≤ 0x0D) || code == 0x20 || code == 0x85 || code == 0xA0 ||
    code == 0x1680 || (0x2000 ≤ code && code ≤ 0x200A) || code == 0x2028 ||
    code == 0x2029 || code == 0x202F || code == 0x205F || code == 0x3000

/-- Put a character before a list of words: it joins the first word when the text goes on
with a character of that word, and is a word of its own otherwise. -/
def prepend (character : Char) (following : List Char) (words : List (List Char)) :
    List (List Char) :=
  match following, words with
  | next :: _, word :: rest =>
      if isBlank next then [character] :: words else (character :: word) :: rest
  | _, _ => [character] :: words

/-- The maximal runs of characters that are not blank, in order. -/
def words : List Char → List (List Char)
  | [] => []
  | character :: rest =>
      if isBlank character then words rest
      else prepend character rest (words rest)

/-- The words with one space between neighbours. -/
def joinWords : List (List Char) → List Char
  | [] => []
  | [word] => word
  | word :: rest => word ++ ' ' :: joinWords rest

/-- Every run of blanks becomes one space; runs at the ends go. -/
def collapse (text : String) : String :=
  String.ofList (joinWords (words text.toList))

end SchemaMatch.Text
