import SchemaMatch.Number.Reader
import SchemaMatch.Toml.Basic

/-!
Contract: the parts of TOML documents that hold no others.

Owns:
- steps over characters, blanks, comments and ends of lines;
- strings in their four forms.

A reader takes a part or refuses it; the reason plays no part. Every loop takes fuel that the
length of the text bounds.

Does not own: values without quotes.
-/

namespace SchemaMatch.Toml

/-- A reader of the rest of a text. -/
abbrev Reading := StateT (List Char) Option

namespace Reading

def peek : Reading (Option Char) := do
  return (← get).head?

def advance : Reading Unit :=
  modify (List.drop 1)

/-- Fuel for loops that read the rest. -/
def fuel : Reading Nat := do
  return (← get).length + 1

/-- Take the characters of a class. -/
def takeAll (accepts : Char → Bool) : Reading (List Char) := do
  let text ← get
  set (text.dropWhile accepts)
  return text.takeWhile accepts

/-- Step over a text if it comes next. -/
def accept (expected : String) : Reading Bool := do
  let text ← get
  if expected.toList.isPrefixOf text then
    set (text.drop expected.length)
    return true
  else return false

def expect (expected : String) : Reading Unit := do
  if !(← accept expected) then failure

end Reading

open Reading

/-! ## Blanks and comments -/

def isBlank (character : Char) : Bool :=
  character == ' ' || character == '\t'

def skipBlanks : Reading Unit := do
  let _ ← takeAll isBlank
  return ()

/-- Control characters other than the tab stand nowhere in a document. -/
def isPrintable (character : Char) : Bool :=
  character == '\t' || (0x20 ≤ character.toNat && character.toNat != 0x7F)

def newline : Reading Bool := do
  if ← accept "\n" then return true else accept "\r\n"

/-- Step over a comment if one is next. -/
def comment : Reading Unit := do
  if ← accept "#" then
    let _ ← takeAll isPrintable
    return ()

/-- Blanks, a comment and the end of the line. -/
def lineEnd : Reading Unit := do
  skipBlanks
  comment
  if !(← newline) then
    if (← peek).isSome then failure

/-- Blanks, comments and line breaks between the items of an array. -/
def gap : Nat → Reading Unit
  | 0 => return ()
  | fuel + 1 => do
      skipBlanks
      comment
      if ← newline then gap fuel

/-! ## Strings -/

/-- The character a row of hexadecimal digits denotes. Halves of surrogate pairs are none. -/
def codeEscape (count : Nat) : Reading Char := do
  let text ← get
  if text.length < count then failure
  set (text.drop count)
  let digits ← (text.take count).mapM fun character => (Numeral.hexDigit? character : Option Nat)
  let code := digits.foldl (fun total digit => total * 16 + digit) 0
  if code < 0xD800 ∨ (0xDFFF < code ∧ code < 0x110000) then return Char.ofNat code else failure

/-- The character an escape stands for, after its backslash. -/
def escape : Reading Char := do
  let letter ← peek
  advance
  match letter with
  | some 'b' => return '\x08'
  | some 't' => return '\t'
  | some 'n' => return '\n'
  | some 'f' => return '\x0C'
  | some 'r' => return '\r'
  | some '"' => return '"'
  | some '\\' => return '\\'
  | some 'u' => codeEscape 4
  | some 'U' => codeEscape 8
  | _ => failure

/-- The rest of a string on one line, the last character first. -/
def basicBody : Nat → List Char → Reading (List Char)
  | 0, _ => failure
  | fuel + 1, read => do
      match ← peek with
      | some '"' =>
          advance
          return read
      | some '\\' =>
          advance
          let character ← escape
          basicBody fuel (character :: read)
      | some character =>
          if isPrintable character then
            advance
            basicBody fuel (character :: read)
          else failure
      | none => failure

def literalBody : Nat → List Char → Reading (List Char)
  | 0, _ => failure
  | fuel + 1, read => do
      match ← peek with
      | some '\'' =>
          advance
          return read
      | some character =>
          if isPrintable character then
            advance
            literalBody fuel (character :: read)
          else failure
      | none => failure

/-- The quotes at the end of a string over several lines: three that close it, and up to two
before them that belong to it. Fewer quotes are text. -/
def closing (quote : Char) (read : List Char) : Reading (List Char × Bool) := do
  let quotes ← takeAll (· == quote)
  let count := quotes.length
  if count < 3 then return (quotes ++ read, false)
  else if count ≤ 5 then return (List.replicate (count - 3) quote ++ read, true)
  else failure

/-- A line break after a backslash goes away together with the blanks and line breaks that
follow it. -/
def continuation : Reading Bool := do
  let text ← get
  skipBlanks
  if ← newline then
    let fuel ← fuel
    let rec skip : Nat → Reading Unit
      | 0 => return ()
      | fuel + 1 => do
          skipBlanks
          if ← newline then skip fuel
    skip fuel
    return true
  else
    set text
    return false

/-- The rest of a string over several lines, the last character first. -/
def longBody (quote : Char) (escapes : Bool) : Nat → List Char → Reading (List Char)
  | 0, _ => failure
  | fuel + 1, read => do
      match ← peek with
      | none => failure
      | some character =>
          if character = quote then
            let (read, closed) ← closing quote read
            if closed then return read else longBody quote escapes fuel read
          else if ← newline then longBody quote escapes fuel ('\n' :: read)
          else if character = '\\' ∧ escapes = true then
            advance
            if ← continuation then longBody quote escapes fuel read
            else
              let character ← escape
              longBody quote escapes fuel (character :: read)
          else if isPrintable character then
            advance
            longBody quote escapes fuel (character :: read)
          else failure

/-- A string over several lines, after its opening quotes. A line break right after those is
no text. -/
def longString (quote : Char) (escapes : Bool) : Reading String := do
  let _ ← newline
  return String.ofList (← longBody quote escapes (← fuel) []).reverse

/-- A string on one line, after its opening quote. -/
def shortString (quote : Char) : Reading String := do
  let body ← if quote = '"' then basicBody (← fuel) [] else literalBody (← fuel) []
  return String.ofList body.reverse

end SchemaMatch.Toml
