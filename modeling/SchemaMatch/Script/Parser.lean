import SchemaMatch.Script.Parsing

/-!
Contract: scripts read from tokens.

Owns:
- the grammar of expressions, statements and functions;
- which names closures capture.

Every step takes fuel that the number of tokens bounds.

Does not own: tokens, and what trees mean.
-/

namespace SchemaMatch.Script

namespace Parser

mutual

/-- The statements of a block, between braces. -/
def block : Nat → Context → Parsing (List Statement)
  | 0, context => fail .tooComplex context.position
  | fuel + 1, context => do
      let position ← expect (.sign .leftBrace) "to start a statement block"
      let context ← deeperAt context position
      localNames (blockBody fuel { context with isTopLevel := false } [])

/-- The rest of a block. `read` are its statements so far, the last one first. -/
def blockBody : Nat → Context → List Statement → Parsing (List Statement)
  | 0, context, _ => fail .tooComplex context.position
  | fuel + 1, context, read => do
      let next ← peek
      match next.token with
      | .sign .rightBrace => do
          skip
          return read.reverse
      | .endOfText =>
          fail (.missing (Sign.rightBrace).text "to terminate this block") next.position
      | _ =>
          let body ← statement fuel context
          if body.isEmpty then blockBody fuel context read
          else
            let read := body :: read
            let mark ← peek
            match mark.token with
            | .sign .rightBrace => do
                skip
                return read.reverse
            | .sign .semicolon => do
                skip
                blockBody fuel context read
            | _ =>
                if body.endsItself then blockBody fuel context read
                else refuse mark (.missing ";" "to terminate this statement")

def statement : Nat → Context → Parsing Statement
  | 0, context => fail .tooComplex context.position
  | fuel + 1, context => do
      let next ← peek
      let context := { context with position := next.position }
      match next.token with
      | .endOfText => return .empty
      | .sign .semicolon => do
          skip
          return .empty
      | .sign .leftBrace => return .block (← block fuel (← deeper context))
      | .keyword .fn_ =>
          if context.isTopLevel then function fuel false
          else fail .misplacedFunction next.position
      | .keyword .private_ => do
          if !context.isTopLevel then fail .misplacedFunction next.position
          skip
          let mark ← peek
          if mark.token = .keyword .fn_ then function fuel true
          else fail (.missing "fn" "following 'private'") mark.position
      | .keyword .if_ => branch fuel (← deeper context)
      | .keyword .switch_ => select fuel (← deeper context)
      | .keyword .while_ => whileLoop fuel (← deeper context)
      | .keyword .loop_ => whileLoop fuel (← deeper context)
      | .keyword .do_ => doLoop fuel (← deeper context)
      | .keyword .for_ => forLoop fuel (← deeper context)
      | .keyword .continue_ =>
          if context.inLoop then do
            skip
            return .continueLoop
          else fail .breakOutsideLoop next.position
      | .keyword .break_ =>
          if context.inLoop then do
            skip
            return .breakLoop (← valueOfExit fuel context true)
          else fail .breakOutsideLoop next.position
      | .keyword .return_ => do
          skip
          return .returnValue (← valueOfExit fuel context (!context.isTopLevel))
      | .keyword .throw_ => do
          skip
          return .throwValue (← valueOfExit fuel context (!context.isTopLevel)) next.position
      | .keyword .try_ => tryStatement fuel (← deeper context)
      | .keyword .let_ => definition fuel (← deeper context) false
      | .keyword .const_ => definition fuel (← deeper context) true
      | .keyword .export_ =>
          if context.isTopLevel then exported fuel context
          else fail .misplacedExport next.position
      | _ => expressionStatement fuel (← deeper context)

/-- The value that a break, return or throw gives, if there is one. -/
def valueOfExit : Nat → Context → Bool → Parsing (Option Expression)
  | 0, context, _ => fail .tooComplex context.position
  | fuel + 1, context, braceEnds => do
      match (← peek).token with
      | .endOfText => return none
      | .sign .semicolon => return none
      | .sign .rightBrace =>
          if braceEnds then return none else return some (← expression fuel (← deeper context))
      | _ => return some (← expression fuel (← deeper context))

/-- A guard of a branch or loop. -/
def guard : Nat → Context → Parsing Expression
  | 0, context => fail .tooComplex context.position
  | fuel + 1, context => do
      ensureExpression
      let condition ← ensureBool (← expression fuel context)
      ensureNoAssignment
      return condition

def branch : Nat → Context → Parsing Statement
  | 0, context => fail .tooComplex context.position
  | fuel + 1, context => do
      let mark ← advance
      let context ← deeperAt context mark.position
      let condition ← guard fuel context
      let thenBody ← block fuel context
      if ← accept (.keyword .else_) then
        if (← peek).token = .keyword .if_ then
          return .branch condition thenBody [← branch fuel context]
        else return .branch condition thenBody (← block fuel context)
      else return .branch condition thenBody []

def select : Nat → Context → Parsing Statement
  | 0, context => fail .tooComplex context.position
  | fuel + 1, context => do
      let mark ← advance
      let context ← deeperAt { context with isTopLevel := false } mark.position
      let subject ← expression fuel context
      let _ ← expect (.sign .leftBrace) "to start a switch block"
      selectCases fuel context subject [] none

/-- The rest of a switch. `read` are its cases so far, the last one first, and `fallback` is
the default case and its place. -/
def selectCases : Nat → Context → Expression → List SelectCase →
    Option (Expression × Position) → Parsing Statement
  | 0, context, _, _, _ => fail .tooComplex context.position
  | fuel + 1, context, subject, read, fallback => do
      let next ← peek
      let unfinished (sign : Sign) : SyntaxFault :=
        .missing sign.text "to end this switch block"
      let body : Parsing (Statement × Position) := do
        let _ ← expect (.sign .arrow) "in this switch case"
        let position := (← peek).position
        return (← statement fuel context, position)
      let goOn (body : Statement) (read : List SelectCase)
          (fallback : Option (Expression × Position)) : Parsing Statement := do
        let mark ← peek
        match mark.token with
        | .sign .comma => do
            skip
            selectCases fuel context subject read fallback
        | .sign .rightBrace => selectCases fuel context subject read fallback
        | .endOfText => fail (unfinished .rightParen) mark.position
        | _ =>
            if body.endsItself then selectCases fuel context subject read fallback
            else refuse mark (.missing "," "to separate the items in this switch block")
      match next.token, fallback with
      | .sign .rightBrace, _ => do
          skip
          return .select subject read.reverse (fallback.map Prod.fst)
      | .endOfText, _ => fail (unfinished .rightBrace) next.position
      | .sign .underscore, none => do
          skip
          let mark ← peek
          if mark.token = .keyword .if_ then fail .defaultCaseCondition mark.position
          let (body, position) ← body
          goOn body read (some (.statement body position, next.position))
      | _, some (_, position) => fail .defaultCaseNotLast position
      | _, none => do
          let values ← caseExpressions fuel context []
          let condition ←
            if ← accept (.keyword .if_) then pure (some (← guard fuel context)) else pure none
          let (body, position) ← body
          let hasRange := read.any fun (.mk values _ _) => values.any isRange
          let literals ← caseValues hasRange values
          goOn body (.mk literals condition (.statement body position) :: read) none

/-- The values of a case, with bars between them. -/
def caseExpressions : Nat → Context → List Expression → Parsing (List Expression)
  | 0, context, _ => fail .tooComplex context.position
  | fuel + 1, context, read => do
      let inner := { context with barSeparates := true }
      let value ← tryCatchThe SyntaxError (expression fuel inner) fun error =>
        fail (.expressionExpected "literal") error.position
      let read := value :: read
      if ← accept (.operator .bitOr) then caseExpressions fuel context read
      else return read.reverse

def whileLoop : Nat → Context → Parsing Statement
  | 0, context => fail .tooComplex context.position
  | fuel + 1, context => do
      let mark ← advance
      let context ← deeperAt context mark.position
      let condition ←
        if mark.token = .keyword .while_ then pure (some (← guard fuel context)) else pure none
      let body ← block fuel { context with inLoop := true }
      return .whileLoop condition body

def doLoop : Nat → Context → Parsing Statement
  | 0, context => fail .tooComplex context.position
  | fuel + 1, context => do
      let mark ← advance
      let context ← deeperAt context mark.position
      let body ← block fuel { context with inLoop := true }
      let word ← advance
      let goesOn ← match word.token with
        | .keyword .while_ => pure true
        | .keyword .until_ => pure false
        | _ => fail (.missing "while" "for the do statement") word.position
      return .doLoop body (← guard fuel context) goesOn

def forLoop : Nat → Context → Parsing Statement
  | 0, context => fail .tooComplex context.position
  | fuel + 1, context => do
      let mark ← advance
      let context ← deeperAt context mark.position
      let (name, counter) ←
        if ← accept (.sign .leftParen) then do
          let name ← variableName
          let comma ← peek
          if !(← accept (.sign .comma)) then
            fail (.missing "," "after the iteration variable name") comma.position
          let counter ← variableName
          if counter.name = name.name then
            fail (.duplicatedVariable counter.name) counter.position
          let close ← peek
          if !(← accept (.sign .rightParen)) then
            fail (.missing ")" "to close the iteration variable") close.position
          pure (name.name, some counter.name)
        else do
          let name ← variableName
          pure (name.name, none)
      let _ ← expect (.keyword .in_) "after the iteration variable"
      ensureExpression
      let source ← ensureIterable (← expression fuel context)
      let body ← localNames do
        if let some counter := counter then declare counter false
        declare name false
        block fuel { context with inLoop := true }
      return .forLoop name counter source body

def tryStatement : Nat → Context → Parsing Statement
  | 0, context => fail .tooComplex context.position
  | fuel + 1, context => do
      let mark ← advance
      let context ← deeperAt context mark.position
      let body ← block fuel context
      let word ← peek
      if !(← accept (.keyword .catch_)) then
        fail (.missing "catch" "for the 'try' statement") word.position
      let errorName ←
        if ← accept (.sign .leftParen) then do
          let name ← variableName
          let close ← peek
          if !(← accept (.sign .rightParen)) then
            fail (.missing ")" "to enclose the catch variable") close.position
          pure (some name.name)
        else pure none
      let handler ← localNames do
        if let some name := errorName then declare name false
        block fuel context
      return .tryCatch body errorName handler

def definition : Nat → Context → Bool → Parsing Statement
  | 0, context, _ => fail .tooComplex context.position
  | fuel + 1, context, isConstant => do
      let mark ← advance
      let name ← variableName
      let value ←
        if ← accept (.sign .assign) then
          expression fuel { context with position := mark.position }
        else pure (.literal .unit mark.position)
      declare name.name isConstant
      return .define name.name isConstant value

/-- Exports name variables of the part that is never run, so only their form matters. -/
def exported : Nat → Context → Parsing Statement
  | 0, context => fail .tooComplex context.position
  | fuel + 1, context => do
      let mark ← advance
      let context ← deeperAt context mark.position
      match (← peek).token with
      | .keyword .let_ => definition fuel (← deeper context) false
      | .keyword .const_ => definition fuel (← deeper context) true
      | _ =>
          let name ← variableName
          if ← accept (.keyword .as_) then
            let _ ← variableName
          return .expression (.variable name.name name.position)

def expressionStatement : Nat → Context → Parsing Statement
  | 0, context => fail .tooComplex context.position
  | fuel + 1, context => do
      let target ← expression fuel { context with position := (← peek).position }
      let mark ← peek
      let assign (operator : Option BinaryOperator) : Parsing Statement := do
        skip
        let value ← expression fuel { context with position := mark.position }
        assignment operator target value mark.position
      match mark.token with
      | .sign .assign => assign none
      | .operatorAssign operator => assign (some operator)
      | _ => return .expression target

/-- The name, the parameters and the body of a function. -/
def function : Nat → Bool → Parsing Statement
  | 0, _ => fail .tooComplex .start
  | fuel + 1, isPrivate => do
      let mark ← advance
      let receiverType ← receiverType
      let name ← functionName
      let next ← peek
      let parameters ← match next.token with
        | .sign .unit => do
            skip
            pure []
        | .sign .leftParen => do
            skip
            parameters name (.sign .rightParen)
              (.missing "," ("to separate the parameters of function '" ++ name ++ "'"))
              (fuel + 1) []
        | _ => fail (.parametersMissing name) next.position
      let open_ ← peek
      if open_.token ≠ .sign .leftBrace then fail (.bodyMissing name) open_.position
      let outside ← get
      set { outside with names := (parameters.map (·, false)).reverse, captured := [] }
      let body ← block fuel ⟨1, open_.position, false, true, false, false, false⟩
      modify fun state =>
        { state with names := outside.names, captured := outside.captured }
      addFunction ⟨isPrivate, receiverType, name, parameters, body⟩ mark.position
      return .empty

def expression : Nat → Context → Parsing Expression
  | 0, context => fail .tooComplex context.position
  | fuel + 1, context => do
      let context ← deeperAt context (← peek).position
      let left ← unary fuel context
      operations fuel { context with position := left.position } 1 left

/-- Operators that bind at least as strongly as `least`, to the right of an operand. -/
def operations : Nat → Context → Nat → Expression → Parsing Expression
  | 0, context, _, _ => fail .tooComplex context.position
  | fuel + 1, context, least, left => do
      let operator ← peek
      let strength ← precedence context operator
      let bindsRight := operator.token.bindsRight
      if strength < least || (strength == least && !bindsRight) then return left
      else
        skip
        let operand ← rightOperand fuel context operator.token
        let following ← precedence context (← peek)
        let right ←
          if strength < following || (strength == following && bindsRight) then
            operations fuel { context with position := operand.position } strength operand
          else pure operand
        let context ← deeperAt context operator.position
        operations fuel context least (← combine operator left right)

/-- The right operand of an operator. A range may go without one, and `??` may be followed by a
statement that leaves. -/
def rightOperand : Nat → Context → Token → Parsing Expression
  | 0, context, _ => fail .tooComplex context.position
  | fuel + 1, context, operator => do
      let next ← peek
      if operator = .sign .coalesce && leaves next.token then
        return .statement (← statement fuel context) next.position
      else if isRangeOperator operator && endsRange context next.token then
        return .literal .unit next.position
      else unary fuel context

def unary : Nat → Context → Parsing Expression
  | 0, context => fail .tooComplex context.position
  | fuel + 1, context => do
      let next ← peek
      let position := next.position
      let operand : Parsing Expression := do
        skip
        unary fuel (← deeperAt context position)
      match next.token with
      | .operator .subtract => return negated (← operand) position
      | .operator .add =>
          let operand ← operand
          match operand with
          | .literal (.int _) _ => return operand
          | .literal (.float _) _ => return operand
          | _ => return .unary .plus operand position
      | .operator .range => return .literal .unit position
      | .operator .rangeInclusive => return .literal .unit position
      | .sign .not_ => return .unary .not (← operand) position
      | .endOfText => fail .incomplete position
      | _ => primary fuel context

/-- The root of a chain, and the chain. -/
def primary : Nat → Context → Parsing Expression
  | 0, context => fail .tooComplex context.position
  | fuel + 1, context => do
      let next ← peek
      let position := next.position
      let literal (value : ScriptValue) : Parsing Expression := do
        skip
        return .literal value position
      let inner : Parsing Context := deeperAt context position
      let ofStatement (body : Parsing Statement) : Parsing Expression := do
        return .statement (← body) position
      let root ← match next.token with
        | .endOfText => fail .incomplete position
        | .int value => literal (.int value)
        | .float value => literal (.float value)
        | .char value => literal (.char value)
        | .string value => literal (.string value)
        | .keyword .true_ => literal (.bool true)
        | .keyword .false_ => literal (.bool false)
        | .sign .unit => literal .unit
        | .sign .leftBrace => ofStatement do return .block (← block fuel (← inner))
        | .sign .leftParen => do
            skip
            if ← accept (.sign .rightParen) then pure (.literal .unit position)
            else
              let value ← expression fuel (← inner)
              let _ ← expect (.sign .rightParen) "for a matching ( in this expression"
              pure value
        | .keyword .if_ => ofStatement do branch fuel (← inner)
        | .keyword .while_ => ofStatement do whileLoop fuel (← inner)
        | .keyword .loop_ => ofStatement do whileLoop fuel (← inner)
        | .keyword .do_ => ofStatement do doLoop fuel (← inner)
        | .keyword .for_ => ofStatement do forLoop fuel (← inner)
        | .keyword .switch_ => ofStatement do select fuel (← inner)
        | .operator .bitOr =>
            if context.barSeparates then
              fail (.badToken (.unexpectedInput next.token.text)) position
            else closure fuel (← inner)
        | .sign .or_ => closure fuel (← inner)
        | .interpolated _ => do
            let pieces ← textPieces fuel (← inner) []
            pure (if pieces.isEmpty then .literal (.string "") position
              else .text pieces position)
        | .sign .leftBracket => do
            skip
            pure (.array (← arrayItems fuel (← inner) []) position)
        | .sign .mapStart => do
            skip
            pure (.map (← mapEntries fuel (← inner) []) position)
        | .identifier name => do
            skip
            named fuel context ⟨name, position⟩
        | .reserved word => do
            skip
            let following := (← peek).token
            if Word.mayBeCalled word && startsCall following then
              named fuel context ⟨word, position⟩
            else if word = "this" then
              if context.inFunction then pure (.receiver position)
              else fail (.improper "'this' can only be used in functions") position
            else fail (.reserved word) position
        | .fault cause => fail (.badToken cause) position
        | token => fail (.badToken (.unexpectedInput token.text)) position
      links fuel context root []

/-- What a name stands for: a variable, a call, or something in a module. -/
def named : Nat → Context → PlacedName → Parsing Expression
  | 0, context, _ => fail .tooComplex context.position
  | fuel + 1, context, name => do
      let mark ← peek
      let context := { context with position := name.position }
      match mark.token with
      | .sign .leftParen =>
          return .call name.name (← callArguments fuel context name.name) name.position
      | .sign .unit =>
          return .call name.name (← callArguments fuel context name.name) name.position
      | .sign .not_ => do
          skip
          callStart
          let arguments ← callArguments fuel context name.name
          if Word.mayBeCalled name.name then return .call name.name arguments name.position
          else return .callInScope name.name arguments name.position
      | .sign .doubleColon => qualified fuel context [name]
      | _ =>
          use name.name name.position
          return .variable name.name name.position

/-- The rest of a path of modules. `read` are its names so far, the last one first. -/
def qualified : Nat → Context → List PlacedName → Parsing Expression
  | 0, context, _ => fail .tooComplex context.position
  | fuel + 1, context, read => do
      skip
      let name ← variableName
      let mark ← peek
      let context := { context with position := name.position }
      let called : Parsing Expression := do
        let arguments ← callArguments fuel context name.name
        return .qualified read.reverse name.name (some arguments) name.position
      match mark.token with
      | .sign .leftParen => called
      | .sign .unit => called
      | .sign .doubleColon => qualified fuel context (name :: read)
      | .sign .not_ => do
          skip
          if startsCall (← peek).token then
            fail (.badToken (.unexpectedInput mark.token.text)) mark.position
          else fail (.improper "'!' cannot be used to call module functions") mark.position
      | _ => return .qualified read.reverse name.name none name.position

/-- The steps of a chain behind its root. `read` are the steps so far, the last one first. -/
def links : Nat → Context → Expression → List Link → Parsing Expression
  | 0, context, _, _ => fail .tooComplex context.position
  | fuel + 1, context, root, read => do
      let mark ← peek
      let index (isOptional : Bool) : Parsing Expression := do
        let steps ← indices fuel (← deeperAt context mark.position) isOptional
          (if read.isEmpty then some root else none)
        links fuel context root (steps.reverse ++ read)
      let member (isOptional : Bool) : Parsing Expression := do
        skip
        let name ← peek
        let inner := deeperAt context mark.position
        let property (text : String) : Parsing Expression := do
          links fuel (← inner) root
            (.property text isOptional mark.position name.position :: read)
        let method (text : String) : Parsing Expression := do
          let inner ← inner
          let isInScope ← accept (.sign .not_)
          if isInScope then callStart
          let arguments ← callArguments fuel { inner with position := name.position } text
          if isInScope then
            fail (.improper ("method-call style does not support running within the " ++
              "caller's scope")) name.position
          links fuel inner root
            (.method text arguments isOptional mark.position name.position :: read)
        match name.token with
        | .identifier text => do
            skip
            let following ← peek
            if startsCall following.token then method text
            else if following.token = .sign .doubleColon then
              fail (.invalidSymbol following.token.text) following.position
            else property text
        | .reserved word =>
            if Word.mayFollowPoint word then do
              skip
              if startsCall (← peek).token then method word
              else fail (.reserved word) name.position
            else fail (.reserved word) name.position
        | _ => fail .propertyExpected name.position
      match mark.token with
      | .sign .leftBracket => index false
      | .sign .safeBracket => index true
      | .sign .period => member false
      | .sign .safePeriod => member true
      | _ => return if read.isEmpty then root else .chain root read.reverse

/-- Indices in a row. Only the first one can be checked against a literal. -/
def indices : Nat → Context → Bool → Option Expression → Parsing (List Link)
  | 0, context, _, _ => fail .tooComplex context.position
  | fuel + 1, context, isOptional, subject => do
      let mark ← advance
      let value ← expression fuel context
      if let some subject := subject then ensureIndex subject value
      let _ ← expect (.sign .rightBracket) "for a matching [ in this index expression"
      let step := Link.index value isOptional mark.position
      let next ← peek
      match next.token with
      | .sign .leftBracket =>
          return step :: (← indices fuel (← deeperAt context next.position) false none)
      | .sign .safeBracket =>
          return step :: (← indices fuel (← deeperAt context next.position) true none)
      | _ => return [step]

/-- Arguments between parentheses. -/
def callArguments : Nat → Context → String → Parsing (List Expression)
  | 0, context, _ => fail .tooComplex context.position
  | fuel + 1, context, function => do
      let opening ← advance
      if opening.token = .sign .unit then return []
      else
        let next ← peek
        match next.token with
        | .endOfText =>
            fail (.missing ")"
              ("to close the arguments list of this function call '" ++ function ++ "'"))
              next.position
        | .fault cause => fail (.badToken cause) next.position
        | .sign .rightParen => do
            skip
            return []
        | _ => restArguments fuel (← deeper context) function []

def restArguments : Nat → Context → String → List Expression → Parsing (List Expression)
  | 0, context, _, _ => fail .tooComplex context.position
  | fuel + 1, context, function, read => do
      let read ←
        if (← peek).token = .sign .rightParen then pure read
        else pure ((← expression fuel context) :: read)
      let mark ← peek
      match mark.token with
      | .sign .rightParen => do
          skip
          return read.reverse
      | .sign .comma => do
          skip
          restArguments fuel context function read
      | .endOfText =>
          fail (.missing ")"
            ("to close the arguments list of this function call '" ++ function ++ "'"))
            mark.position
      | _ =>
          refuse mark
            (.missing "," ("to separate the arguments to function call '" ++ function ++ "'"))

def arrayItems : Nat → Context → List Expression → Parsing (List Expression)
  | 0, context, _ => fail .tooComplex context.position
  | fuel + 1, context, read => do
      let next ← peek
      let unfinished : SyntaxFault := .missing "]" "to end this array literal"
      if itemLimit ≤ read.length then
        fail (.literalTooLarge "Size of array literal" itemLimit) next.position
      match next.token with
      | .sign .rightBracket => do
          skip
          return read.reverse
      | .endOfText => fail unfinished next.position
      | _ =>
          let read := (← expression fuel (← deeper context)) :: read
          let mark ← peek
          match mark.token with
          | .sign .comma => do
              skip
              arrayItems fuel context read
          | .sign .rightBracket => arrayItems fuel context read
          | .endOfText => fail unfinished mark.position
          | _ => refuse mark (.missing "," "to separate the items of this array literal")

def mapEntries : Nat → Context → List (String × Expression) →
    Parsing (List (String × Expression))
  | 0, context, _ => fail .tooComplex context.position
  | fuel + 1, context, read => do
      let next ← advance
      let unfinished : SyntaxFault :=
        .missing (Sign.rightBrace).text "to end this object map literal"
      let entry (name : String) : Parsing (List (String × Expression)) := do
        if read.any (·.1 == name) then fail (.duplicatedProperty name) next.position
        let _ ← expect (.sign .colon)
          ("to follow the property '" ++ name ++ "' in this object map literal")
        if itemLimit ≤ read.length then
          fail (.literalTooLarge "Number of properties in object map literal" itemLimit)
            (← peek).position
        let read := (name, ← expression fuel (← deeper context)) :: read
        let mark ← peek
        match mark.token with
        | .sign .comma => do
            skip
            mapEntries fuel context read
        | .sign .rightBrace => mapEntries fuel context read
        | .identifier _ =>
            fail (.missing "," "to separate the items of this object map literal")
              mark.position
        | _ => refuse mark unfinished
      match next.token with
      | .sign .rightBrace => return read.reverse
      | .identifier name =>
          if context.quotesKeys then fail .propertyExpected next.position else entry name
      | .string name => entry name
      | .interpolated _ => fail .propertyExpected next.position
      | .reserved word =>
          if Word.isIdentifier word then fail (.reserved word) next.position
          else if read.isEmpty then fail unfinished next.position
          else fail .propertyExpected next.position
      | .endOfText => fail unfinished next.position
      | _ => refuse next (if read.isEmpty then unfinished else .propertyExpected)

/-- The pieces of a text, expressions between them. Empty pieces do not count. -/
def textPieces : Nat → Context → List Expression → Parsing (List Expression)
  | 0, context, _ => fail .tooComplex context.position
  | fuel + 1, context, read => do
      let next ← advance
      let add (text : String) : List Expression :=
        if text.isEmpty then read else .literal (.string text) next.position :: read
      match next.token with
      | .interpolated text =>
          let opening ← peek
          let body ← block fuel context
          textPieces fuel context (.statement (.block body) opening.position :: add text)
      | .string text => return (add text).reverse
      | _ => refuse next .incomplete

/-- A function without name. What it captures from outside becomes parameters in front of its
own. -/
def closure : Nat → Context → Parsing Expression
  | 0, context => fail .tooComplex context.position
  | fuel + 1, context => do
      let mark ← advance
      let parameters ←
        if mark.token = .sign .or_ then pure []
        else
          parameters "" (.operator .bitOr)
            (.missing "," "to separate the parameters of anonymous function") (fuel + 1) []
      let outside ← get
      set { outside with names := (parameters.map (·, false)).reverse, captured := [] }
      let body ← statement fuel
        { context with isTopLevel := false, inFunction := true, inLoop := false }
      let inside ← get
      let captured := inside.captured.reverse
      let name := closureName inside.closures
      let definition : FunctionDefinition :=
        ⟨false, none, name, captured.map (·.name) ++ parameters, body.statements⟩
      set { inside with
        names := outside.names
        captured := outside.captured
        closures := inside.closures + 1
        functions := definition :: inside.functions }
      captured.forM fun use_ => use use_.name use_.position
      if captured.isEmpty then return .literal (.function name []) mark.position
      else return .closure name captured mark.position

end

/-- The outermost statements of a script. -/
def program : Nat → Parsing Unit
  | 0 => return ()
  | fuel + 1 => do
      let next ← peek
      if next.token = .endOfText then return ()
      else
        let body ← statement (fuel + 1) ⟨0, next.position, true, false, false, false, false⟩
        let mark ← peek
        if body.isEmpty then program fuel
        else
          match mark.token with
          | .endOfText => return ()
          | .sign .semicolon => do
              skip
              program fuel
          | _ =>
              if body.endsItself then program fuel
              else refuse mark (.missing ";" "to terminate this statement")

/-- A text that is one expression, where keys of maps need quotes. -/
def wholeExpression (fuel : Nat) : Parsing Expression := do
  let value ← expression fuel ⟨0, .start, true, false, false, false, true⟩
  let mark ← peek
  if mark.token = .endOfText then return value
  else refuse mark (.badToken (.unexpectedInput mark.token.text))

/-- Fuel that no row of tokens can use up. -/
def fuelFor (tokens : List PlacedToken) : Nat := 64 * (tokens.length + 1)

end Parser

/-- The program that a row of tokens denotes. -/
def Program.ofTokens? (tokens : List PlacedToken) : Except SyntaxError Program := do
  let start : Parser.State := ⟨tokens, [], [], [], 0⟩
  let (_, state) ← (Parser.program (Parser.fuelFor tokens)).run start
  return ⟨state.functions.reverse⟩

/-- The expression that a row of tokens denotes. -/
def Expression.ofTokens? (tokens : List PlacedToken) : Except SyntaxError Expression := do
  let start : Parser.State := ⟨tokens, [], [], [], 0⟩
  let (value, _) ← (Parser.wholeExpression (Parser.fuelFor tokens)).run start
  return value

end SchemaMatch.Script
