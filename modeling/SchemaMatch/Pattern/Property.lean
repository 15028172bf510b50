import SchemaMatch.Pattern.CharSet

/-!
Contract: the names of character properties in patterns.

Owns:
- the names of general categories and of groups of them;
- the other properties that a set can be named by;
- what a name means alone, and what a value means next to the name of its property.

Names are compared without case, blanks, hyphens and underscores, and without `is` in front.

Does not own: which characters have a property.
-/

namespace SchemaMatch

/-- Why a name of a property means no set. -/
inductive UnknownProperty where
  | name
  | value
deriving DecidableEq, Repr

namespace Property

/-- A name without what plays no part in comparing it. -/
def plainName (name : List Char) : String :=
  let body := match name with
    | first :: second :: rest =>
        if first.toLower = 'i' ∧ second.toLower = 's' then rest else name
    | _ => name
  let letters := (body.filter fun character =>
    !(character == ' ' || character == '-' || character == '_') && character.toNat < 0x80).map
      Char.toLower
  if body.length < name.length && letters == ['c'] then "isc" else String.ofList letters

def ofCategories (categories : List Text.Category) : CharSet :=
  categories.foldl (fun set kind => .union set (.category kind)) .empty

def casedLetters : List Text.Category := [.uppercaseLetter, .lowercaseLetter, .titlecaseLetter]

def letters : List Text.Category := casedLetters ++ [.modifierLetter, .otherLetter]

/-- Categories and groups of them, by all their names. -/
def categories : List (List String × List Text.Category) := [
  (["c", "other"], [.control, .format, .privateUse, .unassigned]),
  (["cc", "control", "cntrl"], [.control]),
  (["cf", "format"], [.format]),
  (["cn", "unassigned"], [.unassigned]),
  (["co", "privateuse"], [.privateUse]),
  (["l", "letter"], letters),
  (["lc", "casedletter"], casedLetters),
  (["ll", "lowercaseletter"], [.lowercaseLetter]),
  (["lm", "modifierletter"], [.modifierLetter]),
  (["lo", "otherletter"], [.otherLetter]),
  (["lt", "titlecaseletter"], [.titlecaseLetter]),
  (["lu", "uppercaseletter"], [.uppercaseLetter]),
  (["m", "mark", "combiningmark"], [.nonspacingMark, .spacingMark, .enclosingMark]),
  (["mc", "spacingmark"], [.spacingMark]),
  (["me", "enclosingmark"], [.enclosingMark]),
  (["mn", "nonspacingmark"], [.nonspacingMark]),
  (["n", "number"], [.decimalNumber, .letterNumber, .otherNumber]),
  (["nd", "decimalnumber", "digit"], [.decimalNumber]),
  (["nl", "letternumber"], [.letterNumber]),
  (["no", "othernumber"], [.otherNumber]),
  (["p", "punctuation", "punct"],
    [.connectorPunctuation, .dashPunctuation, .openPunctuation, .closePunctuation,
      .initialPunctuation, .finalPunctuation, .otherPunctuation]),
  (["pc", "connectorpunctuation"], [.connectorPunctuation]),
  (["pd", "dashpunctuation"], [.dashPunctuation]),
  (["pe", "closepunctuation"], [.closePunctuation]),
  (["pf", "finalpunctuation"], [.finalPunctuation]),
  (["pi", "initialpunctuation"], [.initialPunctuation]),
  (["po", "otherpunctuation"], [.otherPunctuation]),
  (["ps", "openpunctuation"], [.openPunctuation]),
  (["s", "symbol"], [.mathSymbol, .currencySymbol, .modifierSymbol, .otherSymbol]),
  (["sc", "currencysymbol"], [.currencySymbol]),
  (["sk", "modifiersymbol"], [.modifierSymbol]),
  (["sm", "mathsymbol"], [.mathSymbol]),
  (["so", "othersymbol"], [.otherSymbol]),
  (["z", "separator"], [.spaceSeparator, .lineSeparator, .paragraphSeparator]),
  (["zl", "lineseparator"], [.lineSeparator]),
  (["zp", "paragraphseparator"], [.paragraphSeparator]),
  (["zs", "spaceseparator"], [.spaceSeparator])]

def ofCategoryName? (name : String) : Option CharSet :=
  match name with
  | "any" => some .all
  | "ascii" => some (.range 0x00 0x7F)
  | "assigned" => some (.complement (.category .unassigned))
  | _ => (categories.find? fun (names, _) => names.contains name).map fun (_, members) =>
      ofCategories members

/-- Surrogates have a category, but no character is one. -/
def isSurrogate (name : String) : Bool :=
  name == "cs" || name == "surrogate"

def identifierStarts : CharSet :=
  .difference
    (.union (ofCategories (.letterNumber :: letters)) (.ofRanges Text.furtherIdentifierStarts))
    -- A sign that patterns of the standard itself are written with.
    (.range 0x2E2F 0x2E2F)

def identifierParts : CharSet :=
  .union identifierStarts
    (.union
      (ofCategories [.nonspacingMark, .spacingMark, .decimalNumber, .connectorPunctuation])
      (.ofRanges Text.furtherIdentifierParts))

/-- Properties that a character has or lacks. -/
def ofBinaryName? : String → Option CharSet
  | "alphabetic" | "alpha" =>
      some (.union (ofCategories (.letterNumber :: letters)) (.ofRanges Text.furtherLetters))
  | "lowercase" | "lower" =>
      some (.union (.category .lowercaseLetter) (.ofRanges Text.furtherLowercase))
  | "uppercase" | "upper" =>
      some (.union (.category .uppercaseLetter) (.ofRanges Text.furtherUppercase))
  | "whitespace" | "wspace" | "space" => some .blanks
  | "emoji" => some (.ofRanges Text.pictures)
  | "emojipresentation" | "epres" => some (.ofRanges Text.shownPictures)
  | "extendedpictographic" | "extpict" => some (.ofRanges Text.pictographs)
  | "asciihexdigit" | "ahex" => CharSet.ofAsciiName? "xdigit"
  | "hexdigit" | "hex" => some (.ofRanges Text.hexadecimalDigits)
  | "idstart" | "ids" => some identifierStarts
  | "idcontinue" | "idc" => some identifierParts
  | "xidstart" | "xids" =>
      some (.difference identifierStarts (.ofRanges Text.unstableIdentifierStarts))
  | "xidcontinue" | "xidc" =>
      some (.difference identifierParts (.ofRanges Text.unstableIdentifierParts))
  | "math" => some (.union (.category .mathSymbol) (.ofRanges Text.furtherMathematics))
  | "dash" => some (.union (.category .dashPunctuation) (.ofRanges Text.furtherDashes))
  | "quotationmark" | "qmark" => some (.ofRanges Text.quotationMarks)
  | "ideographic" | "ideo" => some (.ofRanges Text.ideographs)
  | _ => none

/-- The set that a name means alone: a property, a category or a script. -/
def ofName? (name : String) : Except UnknownProperty CharSet :=
  match ofBinaryName? name <|> ofCategoryName? name with
  | some set => .ok set
  | none =>
      if isSurrogate name then .error .value
      else
        match Text.WritingSystem.ofName? name with
        | some system => .ok (.script system)
        | none => .error .name

/-- The set that a value of a property means. -/
def ofValue? (property value : String) : Except UnknownProperty CharSet :=
  match property with
  | "generalcategory" | "gc" =>
      match ofCategoryName? value with
      | some set => .ok set
      | none => .error .value
  | "script" | "sc" | "scriptextensions" | "scx" =>
      match Text.WritingSystem.ofName? value with
      | some system => .ok (.script system)
      | none => .error .value
  | _ => if (ofBinaryName? property).isSome then .error .value else .error .name

/-- A name and a value around a mark. -/
def splitAt? (mark : List Char) : List Char → Option (List Char × List Char)
  | [] => none
  | first :: rest =>
      if mark.isPrefixOf (first :: rest) then some ([], (first :: rest).drop mark.length)
      else (splitAt? mark rest).map fun (before, after) => (first :: before, after)

/-- The set that stands between the braces of a class. A value may be asked for, with `=` or
`:`, or ruled out, with `!=`. -/
def ofBraces? (source : List Char) : Except UnknownProperty CharSet :=
  let named (parts : List Char × List Char) : Except UnknownProperty CharSet :=
    ofValue? (plainName parts.1) (plainName parts.2)
  match splitAt? ['!', '='] source with
  | some parts => (named parts).map .complement
  | none =>
      match splitAt? [':'] source <|> splitAt? ['='] source with
      | some parts => named parts
      | none => ofName? (plainName source)

end Property

end SchemaMatch
