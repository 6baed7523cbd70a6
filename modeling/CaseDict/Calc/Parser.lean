import CaseDict.Calc.Lexeme
import CaseDict.Text.NormalForm
import CaseDict.Text.Blank
/-! # Reading expressions

`Expr.parse?` reads an expression by descent along its grammar, the loosest operators first. All
forms of expression are recognised, also those that are never evaluated, because a text that is no
expression is told apart from one that is refused. -/

namespace CaseDict.Calc

/-- An expression that was read; `assignable` says that it may stand before `in` in a comprehension
(a name, an attribute, an item, or a list of these). -/
structure Reading where
  expr : Expr
  assignable : Bool := false

/-- Readers of expressions; they fail where the grammar is violated. -/
abbrev Reader := StateT (List Lexeme) Option

def malformed {α : Type} : Reader α := fun _ => none

def require (condition : Bool) : Reader Unit := if condition then pure () else malformed

/-- The words that are never names. -/
def reserved : List String :=
  ["False", "None", "True", "and", "as", "assert", "async", "await", "break", "class", "continue",
    "def", "del", "elif", "else", "except", "finally", "for", "from", "global", "if", "import",
    "in", "is", "lambda", "nonlocal", "not", "or", "pass", "raise", "return", "try", "while",
    "with", "yield"]

/-- The next lexeme is the given operator. -/
def atSign (s : String) : Reader Bool := fun ls =>
  match ls with
  | .operator t :: _ => some (s == t, ls)
  | _ => some (false, ls)

/-- The next lexeme is the given word. -/
def atWord (s : String) : Reader Bool := fun ls =>
  match ls with
  | .name t :: _ => some (s == t, ls)
  | _ => some (false, ls)

def skip : Reader Unit := fun ls => some ((), ls.drop 1)

/-- Takes the given operator if it comes next. -/
def eatSign (s : String) : Reader Bool := do
  if ← atSign s then
    skip
    return true
  else return false

def eatWord (s : String) : Reader Bool := do
  if ← atWord s then
    skip
    return true
  else return false

/-- The given operator must come next. -/
def sign (s : String) : Reader Unit := do
  require (← eatSign s)

/-- A name comes next, and after it the given operator. -/
def atNameThen (s : String) : Reader Bool := fun ls =>
  match ls with
  | .name id :: .operator t :: _ => some (!reserved.contains id && s == t, ls)
  | _ => some (false, ls)

/-- A name that is not reserved. -/
def properName : Reader String := fun ls =>
  match ls with
  | .name id :: rest => if reserved.contains id then none else some (id, rest)
  | _ => none

/-! ### Operators by precedence -/

/-- The left-associative operators, the loosest first. -/
def binaryLevels : List (List (String × BinaryOp)) :=
  [[("|", .bitOr)], [("^", .bitXor)], [("&", .bitAnd)], [("<<", .lShift), (">>", .rShift)],
    [("+", .add), ("-", .sub)],
    [("*", .mul), ("/", .div), ("//", .floorDiv), ("%", .mod), ("@", .matMul)]]

/-- One of the operators, if it comes next. -/
def eatOneOf (ops : List (String × BinaryOp)) : Reader (Option BinaryOp) := fun ls =>
  match ls with
  | .operator s :: rest =>
    match ops.find? (·.1 == s) with
    | some (_, op) => some (some op, rest)
    | none => some (none, ls)
  | _ => some (none, ls)

/-- A comparison, if one comes next. -/
def eatComparison : Reader (Option Comparison) := fun ls =>
  match ls with
  | .operator "==" :: rest => some (some .eq, rest)
  | .operator "!=" :: rest => some (some .ne, rest)
  | .operator "<" :: rest => some (some .lt, rest)
  | .operator "<=" :: rest => some (some .le, rest)
  | .operator ">" :: rest => some (some .gt, rest)
  | .operator ">=" :: rest => some (some .ge, rest)
  | .name "is" :: .name "not" :: rest => some (some .distinct, rest)
  | .name "is" :: rest => some (some .identical, rest)
  | .name "in" :: rest => some (some .member, rest)
  | .name "not" :: .name "in" :: rest => some (some .notMember, rest)
  | _ => some (none, ls)

def unaryOp? : String → Option UnaryOp
  | "-" => some .neg
  | "+" => some .pos
  | "~" => some .invert
  | _ => none

/-- The quoted texts that come next, which belong together. -/
def takeQuoted : List Lexeme → List Quoted × List Lexeme
  | .quoted q :: rest =>
    let (more, rest) := takeQuoted rest
    (q :: more, rest)
  | ls => ([], ls)

def Quoted.isBytes : Quoted → Bool
  | .bytes _ => true
  | _ => false

def Quoted.isFormatted : Quoted → Bool
  | .formatted .. => true
  | _ => false

def Quoted.codes : Quoted → List Nat
  | .text codes | .bytes codes => codes
  | .formatted .. => []

/-! ### Formatted texts -/

/-- How a formatted text goes on: it ends, an expression begins, or it is malformed. -/
inductive Plain where
  | finished
  | field (rest : List Char)
  | broken

/-- Where a character of a formatted text stands: by itself, after a backslash, or in the name of a
character, whose braces do not enclose an expression. -/
inductive Standing where
  | plain
  | escaped
  | inName

/-- Passes over the characters before the next expression. Doubled braces stand for themselves,
except in a format specification (`level` above zero), which a closing brace ends. -/
def plainPart (raw : Bool) (level : Nat) : Standing → List Char → Plain × List Char
  | _, [] => (.finished, [])
  | .inName, c :: cs => plainPart raw level (if c = '}' then .plain else .inName) cs
  | .escaped, 'N' :: '{' :: cs => plainPart raw level .inName cs
  | _, '{' :: '{' :: cs =>
    if level = 0 then plainPart raw level .plain cs else (.field ('{' :: cs), [])
  | _, '{' :: cs => (.field cs, [])
  | _, '}' :: '}' :: cs =>
    if level = 0 then plainPart raw level .plain cs else (.finished, '}' :: '}' :: cs)
  | _, '}' :: cs => if level = 0 then (.broken, []) else (.finished, '}' :: cs)
  | .escaped, _ :: cs => plainPart raw level .plain cs
  | .plain, c :: cs => plainPart raw level (if c = '\\' && !raw then .escaped else .plain) cs

/-- Where the end of an embedded expression is looked for: inside a quoted text (its quote, and
whether it is tripled), with the closers awaited. -/
structure FieldScan where
  quote : Option (Char × Bool) := none
  awaited : List Char := []

/-- Splits an embedded expression from what follows it. It ends before `!`, `:`, `=` or a closing
brace outside quotes and brackets; it holds no backslash and no comment. -/
def splitField (s : FieldScan) : List Char → Option (List Char × List Char)
  | [] => none
  | c :: cs =>
    let next (s : FieldScan) : Option (List Char × List Char) :=
      (splitField s cs).map fun (e, rest) => (c :: e, rest)
    if c = '\\' then none
    else match s.quote with
      | some (q, tripled) =>
        if c ≠ q then next s
        else if !tripled then next { s with quote := none }
        else match cs with
          | a :: b :: rest =>
            if a = q && b = q then
              (splitField { s with quote := none } rest).map fun (e, rest) =>
                (c :: a :: b :: e, rest)
            else next s
          | _ => next s
      | none =>
        if c = '"' || c = '\'' then
          match cs with
          | a :: b :: rest =>
            if a = c && b = c then
              (splitField { s with quote := some (c, true) } rest).map fun (e, rest) =>
                (c :: a :: b :: e, rest)
            else next { s with quote := some (c, false) }
          | _ => next { s with quote := some (c, false) }
        else if c = '#' then none
        else match closerOf? c with
          | some closer => next { s with awaited := closer :: s.awaited }
          | none =>
            if s.awaited.isEmpty && "!:=<>\x7d".toList.contains c then
              match cs with
              | '=' :: rest =>
                if "!=<>".toList.contains c then
                  (splitField s rest).map fun (e, rest) => (c :: '=' :: e, rest)
                else some ([], c :: cs)
              | _ => if c = '<' || c = '>' then next s else some ([], c :: cs)
            else if c = ')' || c = ']' || c = '}' then
              match s.awaited with
              | a :: rest => if a = c then next { s with awaited := rest } else none
              | [] => none
            else next s

/-! ### The grammar -/

mutual

/-- Lambdas, conditionals and all that binds tighter. -/
def expression : Nat → Reader Reading
  | 0 => malformed
  | fuel + 1 => do
    if ← eatWord "lambda" then
      parameters fuel false false
      let _ ← expression fuel
      return ⟨.other .lambda, false⟩
    let thenValue ← disjunction fuel
    if ← eatWord "if" then
      let test ← disjunction fuel
      require (← eatWord "else")
      let elseValue ← expression fuel
      return ⟨.conditional test.expr thenValue.expr elseValue.expr, false⟩
    return thenValue

/-- The parameters of a lambda up to its colon. After a default every parameter has one, except
after `*`. -/
def parameters : Nat → (defaults starred : Bool) → Reader Unit
  | 0, _, _ => malformed
  | fuel + 1, defaults, starred => do
    if ← eatSign ":" then return
    if ← eatSign "**" then
      let _ ← properName
      let _ ← eatSign ","
      sign ":"
    else if ← eatSign "*" then
      require (!starred)
      if ← eatSign "," then
        -- A bare star must be followed by a parameter.
        let _ ← properName
        let _ ← defaultValue fuel
        nextParameter fuel false true
      else
        let _ ← properName
        nextParameter fuel false true
    else
      let _ ← properName
      let given ← defaultValue fuel
      require (given || !defaults || starred)
      if ← eatSign "," then
        if !starred then
          if ← eatSign "/" then
            -- Only one slash, and only before the star.
            if ← eatSign "," then positional fuel (defaults || given) else sign ":"
          else parameters fuel (defaults || given) starred
        else parameters fuel (defaults || given) starred
      else sign ":"

/-- Parameters after the slash. -/
def positional : Nat → (defaults : Bool) → Reader Unit
  | 0, _ => malformed
  | fuel + 1, defaults => do
    if ← atSign ":" then sign ":"
    else if ← atSign "*" then parameters fuel defaults false
    else if ← atSign "**" then parameters fuel defaults false
    else
      let _ ← properName
      let given ← defaultValue fuel
      require (given || !defaults)
      if ← eatSign "," then positional fuel (defaults || given) else sign ":"

/-- A comma and further parameters, or the colon. -/
def nextParameter : Nat → (defaults starred : Bool) → Reader Unit
  | 0, _, _ => malformed
  | fuel + 1, defaults, starred => do
    if ← eatSign "," then parameters fuel defaults starred else sign ":"

/-- The default of a parameter, if it has one. -/
def defaultValue : Nat → Reader Bool
  | 0 => malformed
  | fuel + 1 => do
    if ← eatSign "=" then
      let _ ← expression fuel
      return true
    else return false

def disjunction : Nat → Reader Reading
  | 0 => malformed
  | fuel + 1 => do
    let first ← conjunction fuel
    let more ← disjuncts fuel
    return if more.isEmpty then first else ⟨.any (first.expr :: more), false⟩

def disjuncts : Nat → Reader (List Expr)
  | 0 => malformed
  | fuel + 1 => do
    if ← eatWord "or" then
      let e ← conjunction fuel
      return e.expr :: (← disjuncts fuel)
    else return []

def conjunction : Nat → Reader Reading
  | 0 => malformed
  | fuel + 1 => do
    let first ← inversion fuel
    let more ← conjuncts fuel
    return if more.isEmpty then first else ⟨.all (first.expr :: more), false⟩

def conjuncts : Nat → Reader (List Expr)
  | 0 => malformed
  | fuel + 1 => do
    if ← eatWord "and" then
      let e ← inversion fuel
      return e.expr :: (← conjuncts fuel)
    else return []

def inversion : Nat → Reader Reading
  | 0 => malformed
  | fuel + 1 => do
    if ← eatWord "not" then
      let e ← inversion fuel
      return ⟨.unary .not e.expr, false⟩
    let first ← binary fuel binaryLevels
    let more ← comparisons fuel
    return if more.isEmpty then first else ⟨.compare first.expr more, false⟩

def comparisons : Nat → Reader (List (Comparison × Expr))
  | 0 => malformed
  | fuel + 1 => do
    match ← eatComparison with
    | some op =>
      let e ← binary fuel binaryLevels
      return (op, e.expr) :: (← comparisons fuel)
    | none => return []

/-- Operands joined by the operators of the first level; those of later levels bind tighter. -/
def binary : Nat → List (List (String × BinaryOp)) → Reader Reading
  | 0, _ => malformed
  | fuel + 1, [] => factor fuel
  | fuel + 1, ops :: tighter => do
    let first ← binary fuel tighter
    binaryMore fuel ops tighter first

def binaryMore : Nat → List (String × BinaryOp) → List (List (String × BinaryOp)) → Reading →
    Reader Reading
  | 0, _, _, _ => malformed
  | fuel + 1, ops, tighter, left => do
    match ← eatOneOf ops with
    | some op =>
      let right ← binary fuel tighter
      binaryMore fuel ops tighter ⟨.binary op left.expr right.expr, false⟩
    | none => return left

/-- Signs, and powers, which bind tighter than a sign before them and looser than one after. -/
def factor : Nat → Reader Reading
  | 0 => malformed
  | fuel + 1 => fun ls =>
    match ls with
    | .operator s :: rest =>
      match unaryOp? s with
      | some op => (factor fuel rest).map fun (e, rest) => (⟨.unary op e.expr, false⟩, rest)
      | none => power fuel ls
    | _ => power fuel ls

def power : Nat → Reader Reading
  | 0 => malformed
  | fuel + 1 => do
    let awaited ← eatWord "await"
    let first ← primary fuel
    let base : Reading := if awaited then ⟨.other .await, false⟩ else first
    if ← eatSign "**" then
      let exponent ← factor fuel
      return ⟨.binary .pow base.expr exponent.expr, false⟩
    return base

def primary : Nat → Reader Reading
  | 0 => malformed
  | fuel + 1 => do
    let first ← atom fuel
    trailers fuel first

/-- Attributes, calls and items after an expression. -/
def trailers : Nat → Reading → Reader Reading
  | 0, _ => malformed
  | fuel + 1, e => do
    if ← eatSign "." then
      let _ ← properName
      trailers fuel ⟨.other .attributeOf, true⟩
    else if ← eatSign "(" then
      let (args, named) ← arguments fuel
      trailers fuel ⟨.call e.expr args named, false⟩
    else if ← eatSign "[" then
      slices fuel
      trailers fuel ⟨.other .subscript, true⟩
    else return e

def atom : Nat → Reader Reading
  | 0 => malformed
  | fuel + 1 => fun ls =>
    match ls with
    | .literal l :: rest => some (⟨.literal l, false⟩, rest)
    | .name "True" :: rest => some (⟨.literal (.bool true), false⟩, rest)
    | .name "False" :: rest => some (⟨.literal (.bool false), false⟩, rest)
    | .name "None" :: rest => some (⟨.literal .none, false⟩, rest)
    | .name id :: rest =>
      if reserved.contains id then none else some (⟨.name (Text.normalForm id), true⟩, rest)
    | .operator "..." :: rest => some (⟨.literal .ellipsis, false⟩, rest)
    | .operator "(" :: rest => parenthesised fuel rest
    | .operator "[" :: rest => bracketed fuel rest
    | .operator "\x7b" :: rest => braced fuel rest
    | .quoted _ :: _ =>
      let (qs, rest) := takeQuoted ls
      if qs.all (fieldsOk fuel) then
        if qs.all Quoted.isBytes then
          some (⟨.literal (.bytes (qs.flatMap Quoted.codes)), false⟩, rest)
        else if qs.any Quoted.isBytes then none
        else if qs.any Quoted.isFormatted then some (⟨.other .formattedText, false⟩, rest)
        else some (⟨.literal (.text (qs.flatMap Quoted.codes)), false⟩, rest)
      else none
    | _ => none

/-- A name bound to an expression with `:=`, or an expression. -/
def named : Nat → Reader Reading
  | 0 => malformed
  | fuel + 1 => do
    if ← atNameThen ":=" then
      skip
      skip
      let _ ← expression fuel
      return ⟨.other .namedExpr, false⟩
    expression fuel

/-- A member of a display: an unpacked operand, or an expression that may be named. -/
def member : Nat → Reader (Reading × Bool)
  | 0 => malformed
  | fuel + 1 => do
    if ← eatSign "*" then
      let e ← binary fuel binaryLevels
      return (⟨.other .starred, e.assignable⟩, true)
    return (← named fuel, false)

/-- Further members up to the closing bracket, each after a comma; whether all are assignable. -/
def membersTo : Nat → String → Reader Bool
  | 0, _ => malformed
  | fuel + 1, close => do
    if ← eatSign close then return true
    sign ","
    if ← eatSign close then return true
    let (e, _) ← member fuel
    return (← membersTo fuel close) && e.assignable

/-- A comprehension follows. -/
def atFor : Nat → Reader Bool
  | 0 => malformed
  | _ + 1 => do
    if ← atWord "for" then return true
    atWord "async"

/-- What follows an opening parenthesis. -/
def parenthesised : Nat → Reader Reading
  | 0 => malformed
  | fuel + 1 => do
    if ← eatSign ")" then return ⟨.other .tuple, true⟩
    if ← eatWord "yield" then
      let form ← yielded fuel
      sign ")"
      return ⟨.other form, false⟩
    let (first, starred) ← member fuel
    if ← atFor fuel then
      require (!starred)
      comprehension fuel
      sign ")"
      return ⟨.other .generatorExp, false⟩
    if ← atSign "," then
      let assignable ← membersTo fuel ")"
      return ⟨.other .tuple, assignable && first.assignable⟩
    require (!starred)
    sign ")"
    return first

/-- What follows `yield`. -/
def yielded : Nat → Reader Form
  | 0 => malformed
  | fuel + 1 => do
    if ← eatWord "from" then
      let _ ← expression fuel
      return .yieldFrom
    if ← atSign ")" then return .yield
    starExpressions fuel
    return .yield

/-- Expressions, unpacked or not, separated by commas. -/
def starExpressions : Nat → Reader Unit
  | 0 => malformed
  | fuel + 1 => do
    if ← eatSign "*" then
      let _ ← binary fuel binaryLevels
    else
      let _ ← expression fuel
    if ← eatSign "," then
      if ← atSign ")" then return
      starExpressions fuel

def bracketed : Nat → Reader Reading
  | 0 => malformed
  | fuel + 1 => do
    if ← eatSign "]" then return ⟨.other .list, true⟩
    let (first, starred) ← member fuel
    if ← atFor fuel then
      require (!starred)
      comprehension fuel
      sign "]"
      return ⟨.other .listComp, false⟩
    let assignable ← membersTo fuel "]"
    return ⟨.other .list, assignable && first.assignable⟩

def braced : Nat → Reader Reading
  | 0 => malformed
  | fuel + 1 => do
    if ← eatSign "\x7d" then return ⟨.other .dict, false⟩
    if ← atSign "**" then
      pairs fuel
      return ⟨.other .dict, false⟩
    let bound ← atNameThen ":="
    let (_, starred) ← member fuel
    if ← eatSign ":" then
      require (!starred && !bound)
      let _ ← expression fuel
      if ← atFor fuel then
        comprehension fuel
        sign "\x7d"
        return ⟨.other .dictComp, false⟩
      if ← eatSign "," then pairs fuel else sign "\x7d"
      return ⟨.other .dict, false⟩
    if ← atFor fuel then
      require (!starred)
      comprehension fuel
      sign "\x7d"
      return ⟨.other .setComp, false⟩
    let _ ← membersTo fuel "\x7d"
    return ⟨.other .set, false⟩

/-- Pairs of a dictionary display up to its closing brace. -/
def pairs : Nat → Reader Unit
  | 0 => malformed
  | fuel + 1 => do
    if ← eatSign "\x7d" then return
    if ← eatSign "**" then
      let _ ← binary fuel binaryLevels
    else
      let _ ← expression fuel
      sign ":"
      let _ ← expression fuel
    if ← eatSign "," then pairs fuel else sign "\x7d"

/-- The clauses of a comprehension. -/
def comprehension : Nat → Reader Unit
  | 0 => malformed
  | fuel + 1 => do
    let _ ← eatWord "async"
    require (← eatWord "for")
    targets fuel
    let _ ← disjunction fuel
    conditions fuel
    if ← atFor fuel then comprehension fuel

def conditions : Nat → Reader Unit
  | 0 => malformed
  | fuel + 1 => do
    if ← eatWord "if" then
      let _ ← disjunction fuel
      conditions fuel

/-- The targets of a comprehension up to its `in`. -/
def targets : Nat → Reader Unit
  | 0 => malformed
  | fuel + 1 => do
    let _ ← eatSign "*"
    let e ← primary fuel
    require e.assignable
    if ← eatWord "in" then return
    sign ","
    if ← eatWord "in" then return
    targets fuel

/-- The items in square brackets after an expression. -/
def slices : Nat → Reader Unit
  | 0 => malformed
  | fuel + 1 => do
    if ← eatSign "*" then
      let _ ← expression fuel
    else slice fuel
    if ← eatSign "]" then return
    sign ","
    if ← eatSign "]" then return
    slices fuel

/-- One item: an expression that may be named, or bounds between colons. -/
def slice : Nat → Reader Unit
  | 0 => malformed
  | fuel + 1 => do
    let bound ← atNameThen ":="
    if !(← atSign ":") then
      let _ ← named fuel
    if !bound then
      if ← eatSign ":" then
        bounds fuel
        if ← eatSign ":" then bounds fuel

/-- An expression, unless the item ends here. -/
def bounds : Nat → Reader Unit
  | 0 => malformed
  | fuel + 1 => do
    if ← atSign ":" then return
    if ← atSign "," then return
    if ← atSign "]" then return
    let _ ← expression fuel

/-- The arguments of a call, and whether some are given by name. -/
def arguments : Nat → Reader (List Expr × Bool)
  | 0 => malformed
  | fuel + 1 => do
    if ← eatSign ")" then return ([], false)
    if (← atSign "*") || (← atSign "**") || (← atNameThen "=") then
      argumentList fuel false false
    else
      let first ← named fuel
      if ← atFor fuel then
        comprehension fuel
        sign ")"
        return ([.other .generatorExp], false)
      let (more, byName) ← argumentTail fuel false false
      return (first.expr :: more, byName)

/-- Arguments up to the closing parenthesis, some having been given by name (`byName`) or unpacked
from a mapping (`mapping`) before. -/
def argumentList : Nat → (byName mapping : Bool) → Reader (List Expr × Bool)
  | 0, _, _ => malformed
  | fuel + 1, byName, mapping => do
    if ← eatSign "**" then
      let _ ← expression fuel
      let (more, _) ← argumentTail fuel true true
      return (more, true)
    if ← eatSign "*" then
      require (!mapping)
      let _ ← expression fuel
      let (more, byName) ← argumentTail fuel byName mapping
      return (.other .starred :: more, byName)
    if ← atNameThen "=" then
      skip
      skip
      let _ ← expression fuel
      let (more, _) ← argumentTail fuel true mapping
      return (more, true)
    require (!byName)
    let e ← named fuel
    let (more, byName) ← argumentTail fuel byName mapping
    return (e.expr :: more, byName)

/-- What follows an argument. -/
def argumentTail : Nat → (byName mapping : Bool) → Reader (List Expr × Bool)
  | 0, _, _ => malformed
  | fuel + 1, byName, mapping => do
    if ← eatSign ")" then return ([], byName)
    sign ","
    if ← eatSign ")" then return ([], byName)
    argumentList fuel byName mapping

/-- The expressions in a formatted text are well formed; other texts hold none. -/
def fieldsOk : Nat → Quoted → Bool
  | fuel + 1, .formatted raw body =>
    (formatted raw fuel 0 body).any List.isEmpty &&
      (raw || (unescape false body.length body).isSome)
  | 0, .formatted .. => false
  | _, _ => true

/-- Reads a formatted text up to its end, or a format specification up to its closing brace, and
returns what is left. -/
def formatted (raw : Bool) : Nat → (level : Nat) → List Char → Option (List Char)
  | 0, _, _ => none
  | fuel + 1, level, cs =>
    match plainPart raw level .plain cs with
    | (.broken, _) => none
    | (.finished, rest) => some rest
    | (.field inner, _) => do
      guard (level < 2)
      let (e, rest) ← splitField {} inner
      guard (!e.all Text.isBlank)
      guard (embedded fuel e)
      let rest := match rest with
        | '=' :: rest => rest.dropWhile Text.isBlank
        | rest => rest
      let rest ← match rest with
        | '!' :: c :: rest => if "sra".toList.contains c then some rest else none
        | rest => some rest
      match rest with
      | ':' :: spec =>
        match ← formatted raw fuel (level + 1) spec with
        | '}' :: rest => formatted raw fuel level rest
        | _ => none
      | '}' :: rest => formatted raw fuel level rest
      | _ => none

/-- The text between the braces of a formatted text is an expression, as if parenthesised. -/
def embedded : Nat → List Char → Bool
  | 0, _ => false
  | fuel + 1, e =>
    match lexemes? ('(' :: e ++ [')']) with
    | some (.operator _ :: ls) =>
      match parenthesised fuel ls with
      | some (_, rest) => rest.all fun l => match l with
        | .lineEnd => true
        | _ => false
      | none => false
    | _ => false

end

/-- Expressions separated by commas; more than one, or one with a comma after it, make a tuple. -/
def expressionList : Nat → Reader Expr
  | 0 => malformed
  | fuel + 1 => do
    let first ← expression fuel
    if ← atSign "," then
      more fuel
      return .other .tuple
    return first.expr
where
  more : Nat → Reader Unit
    | 0 => malformed
    | fuel + 1 => do
      if ← eatSign "," then
        if (← get).all (fun l => match l with | .lineEnd => true | _ => false) then return
        let _ ← expression fuel
        more fuel

/-- The expression that a text denotes, unless it is malformed. Between two lexemes the descent is
less than forty steps deep, which bounds its depth by the length of the text. -/
def Expr.parse? (text : List Char) : Option Expr := do
  let ls ← lexemes? text
  let (e, rest) ← expressionList (40 * (text.length + 2)) ls
  guard (rest.all fun l => match l with | .lineEnd => true | _ => false)
  return e

end CaseDict.Calc
