import DocPages.Template.Token

/-!
# Reading templates

Expressions are read by precedence, from the inline condition that binds least to the filters and calls
that bind most. Statements are read up to the tag that closes them. The readers are bounded by fuel that
the number of tokens provides.

The template language is read as far as the default templates go and a little beyond them: the statements
`if` with `elif` and `else`, `for` with `else`, `set` of one name, `macro` and `include`, and expressions of
constants, names, lists, maps, attributes, items, calls, filters, signs, `not`, `and`, `or`, `==`, `!=`, `~`
and inline conditions. Everything else is bad syntax here: arithmetic other than a sign, comparisons by size,
the tests `is` and `in`, slices, named arguments, conditions and filters on loops, `set` with a body or with
several names, and the statements `raw`, `with`, `filter`, `block`, `extends`, `import`, `call`, `do` and
`autoescape`.
-/

namespace DocPages.Template

open Text

/-- A reader gives a result and the tokens that follow it. -/
abbrev Reader (α : Type) := List Token → Except Error (α × List Token)

def badSyntax {α : Type} : Except Error α :=
  .error ⟨.badSyntax, none⟩

/-- Takes a sign. -/
def expect (t : Token) : Reader Unit := fun ts =>
  match ts with
  | u :: rest => if t = u then .ok ((), rest) else badSyntax
  | [] => badSyntax

/-- Binding strength: an expression read at a level holds only operators of that level or above. -/
abbrev Level := Nat

def Level.ternary : Level := 0
def Level.or : Level := 1
def Level.and : Level := 2
def Level.not : Level := 3
def Level.compare : Level := 4
def Level.concat : Level := 5
def Level.operand : Level := 6

/-- A negated constant is a constant. -/
def negate : Expr → Expr
  | .const (.int n) => .const (.int (-n))
  | .const (.decimal u s) => .const (.decimal (-u) s)
  | e => .neg e

/-- Constants that are written as names. -/
def namedConstants : List (String × Value) :=
  [("true", .bool true), ("True", .bool true), ("false", .bool false), ("False", .bool false),
   ("none", .none), ("None", .none)]

mutual

/-- An expression of a level. -/
def expr : Nat → Level → Reader Expr
  | 0, _, _ => badSyntax
  | fuel + 1, level, ts => do
    match ts with
    | .ident "not" :: rest =>
      if level ≤ Level.not then
        let (e, rest) ← expr fuel Level.not rest
        operators fuel level (.not e) rest
      else badSyntax
    | ts =>
      let (e, rest) ← operand fuel ts
      operators fuel level e rest

/-- The operators of a level after a first operand. -/
def operators : Nat → Level → Expr → Reader Expr
  | 0, _, _, _ => badSyntax
  | fuel + 1, level, left, ts => do
    match ts with
    | .ident "or" :: rest =>
      if level ≤ Level.or then
        let (right, rest) ← expr fuel Level.and rest
        operators fuel level (.or left right) rest
      else return (left, ts)
    | .ident "and" :: rest =>
      if level ≤ Level.and then
        let (right, rest) ← expr fuel Level.not rest
        operators fuel level (.and left right) rest
      else return (left, ts)
    | .op "==" :: rest =>
      if level ≤ Level.compare then
        let (right, rest) ← expr fuel Level.concat rest
        operators fuel level (.eq left right) rest
      else return (left, ts)
    | .op "!=" :: rest =>
      if level ≤ Level.compare then
        let (right, rest) ← expr fuel Level.concat rest
        operators fuel level (.not (.eq left right)) rest
      else return (left, ts)
    | .op "~" :: rest =>
      if level ≤ Level.concat then
        let (right, rest) ← expr fuel Level.operand rest
        operators fuel level (.concat left right) rest
      else return (left, ts)
    | .ident "if" :: rest =>
      if level ≤ Level.ternary then
        let (test, rest) ← expr fuel Level.or rest
        match rest with
        | .ident "else" :: rest =>
          let (no, rest) ← expr fuel Level.ternary rest
          operators fuel level (.cond test left (some no)) rest
        | rest => operators fuel level (.cond test left none) rest
      else return (left, ts)
    | ts => return (left, ts)

/-- An operand with its signs, accesses, calls and filters. -/
def operand : Nat → Reader Expr
  | 0, _ => badSyntax
  | fuel + 1, ts => do
    let (e, rest) ← signed fuel ts
    let (e, rest) ← postfixes fuel e rest
    filters fuel e rest

/-- A primary expression with minus signs. -/
def signed : Nat → Reader Expr
  | 0, _ => badSyntax
  | fuel + 1, ts => do
    match ts with
    | .op "-" :: rest =>
      let (e, rest) ← signed fuel rest
      return (negate e, rest)
    | ts => primary fuel ts

/-- A constant, name, list, map or parenthesised expression. -/
def primary : Nat → Reader Expr
  | 0, _ => badSyntax
  | fuel + 1, ts => do
    match ts with
    | .ident x :: rest => return ((namedConstants.lookup x).elim (.name x) .const, rest)
    | .str s :: rest => return (.const (.str s), rest)
    | .int n :: rest => return (.const (.int n), rest)
    | .decimal u s :: rest => return (.const (.decimal u s), rest)
    | .op "(" :: .op ")" :: rest => return (.list [], rest)
    | .op "(" :: rest =>
      let (e, rest) ← expr fuel Level.ternary rest
      match rest with
      | .op ")" :: rest => return (e, rest)
      | .op "," :: rest =>
        let (es, rest) ← exprs fuel ")" rest
        return (.list (e :: es), rest)
      | _ => badSyntax
    | .op "[" :: rest =>
      let (es, rest) ← exprs fuel "]" rest
      return (.list es, rest)
    | .op "\x7b" :: rest =>
      let (es, rest) ← pairs fuel rest
      return (.map es, rest)
    | _ => badSyntax

/-- Accesses and calls after an expression. -/
def postfixes : Nat → Expr → Reader Expr
  | 0, _, _ => badSyntax
  | fuel + 1, e, ts => do
    match ts with
    | .op "." :: .ident x :: rest => postfixes fuel (.attr e x) rest
    | .op "." :: _ => badSyntax
    | .op "[" :: rest =>
      let (key, rest) ← expr fuel Level.ternary rest
      let ((), rest) ← expect (.op "]") rest
      postfixes fuel (.item e key) rest
    | .op "(" :: rest =>
      let (args, rest) ← exprs fuel ")" rest
      postfixes fuel (match e with | .name f => .call f args | e => .apply e args) rest
    | ts => return (e, ts)

/-- Filters after an expression. -/
def filters : Nat → Expr → Reader Expr
  | 0, _, _ => badSyntax
  | fuel + 1, e, ts => do
    match ts with
    | .op "|" :: .ident f :: .op "(" :: rest =>
      let (args, rest) ← exprs fuel ")" rest
      filters fuel (.filter e f args) rest
    | .op "|" :: .ident f :: rest => filters fuel (.filter e f []) rest
    | .op "|" :: _ => badSyntax
    | ts => return (e, ts)

/-- Expressions separated by commas, up to a closing sign. -/
def exprs : Nat → String → Reader (List Expr)
  | 0, _, _ => badSyntax
  | fuel + 1, stop, ts => do
    match ts with
    | [] => badSyntax
    | t :: rest =>
      if t = .op stop then return ([], rest)
      else
        let (e, rest) ← expr fuel Level.ternary ts
        match rest with
        | .op "," :: rest =>
          let (es, rest) ← exprs fuel stop rest
          return (e :: es, rest)
        | t :: rest => if t = .op stop then return ([e], rest) else badSyntax
        | [] => badSyntax

/-- The entries of a map up to its closing brace. -/
def pairs : Nat → Reader (List (Expr × Expr))
  | 0, _ => badSyntax
  | fuel + 1, ts => do
    match ts with
    | .op "\x7d" :: rest => return ([], rest)
    | ts =>
      let (k, rest) ← expr fuel Level.ternary ts
      let ((), rest) ← expect (.op ":") rest
      let (v, rest) ← expr fuel Level.ternary rest
      match rest with
      | .op "," :: rest =>
        let (more, rest) ← pairs fuel rest
        return ((k, v) :: more, rest)
      | .op "\x7d" :: rest => return ([(k, v)], rest)
      | _ => badSyntax

end

/-! ## Statements -/

/-- Names that cannot be assigned. -/
def reservedNames : List String :=
  ["true", "True", "false", "False", "none", "None", "loop", "self"]

/-- A name that can be assigned. -/
def target : Reader String
  | .ident x :: rest => if reservedNames.contains x then badSyntax else .ok (x, rest)
  | _ => badSyntax

/-- The targets of a loop. -/
def targets : Nat → Reader (List String)
  | 0, _ => badSyntax
  | fuel + 1, ts => do
    let (x, rest) ← target ts
    match rest with
    | .op "," :: .ident "in" :: _ => return ([x], rest.drop 1)
    | .op "," :: rest =>
      let (xs, rest) ← targets fuel rest
      return (x :: xs, rest)
    | rest => return ([x], rest)

/-- The parameters of a macro up to the closing parenthesis. -/
def params : Nat → Reader (List (String × Option Expr))
  | 0, _ => badSyntax
  | fuel + 1, ts => do
    match ts with
    | .op ")" :: rest => return ([], rest)
    | ts =>
      let (x, rest) ← target ts
      let (default, rest) ← match rest with
        | .op "=" :: rest => do
          let (e, rest) ← expr fuel Level.ternary rest
          pure (some e, rest)
        | rest => pure (none, rest)
      match rest with
      | .op "," :: rest =>
        let (more, rest) ← params fuel rest
        return ((x, default) :: more, rest)
      | .op ")" :: rest => return ([(x, default)], rest)
      | _ => badSyntax

mutual

/-- Statements up to a tag with one of the names in `stops`, or up to the end of the template if there are
none; the result holds the name of that tag. -/
def body : Nat → List String → Reader (Body × String)
  | 0, _, _ => badSyntax
  | fuel + 1, stops, ts => do
    match ts with
    | [] => if stops.isEmpty then return (([], ""), []) else badSyntax
    | .text s :: rest =>
      let ((more, stop), rest) ← body fuel stops rest
      return ((.text (String.ofList s) :: more, stop), rest)
    | .exprStart :: rest =>
      let (e, rest) ← expr (8 * rest.length + 8) Level.ternary rest
      let ((), rest) ← expect .exprEnd rest
      let ((more, stop), rest) ← body fuel stops rest
      return ((.emit e :: more, stop), rest)
    | .tagStart :: .ident x :: rest =>
      if stops.contains x then return (([], x), rest)
      else
        let (s, rest) ← statement fuel x rest
        let ((more, stop), rest) ← body fuel stops rest
        return ((s :: more, stop), rest)
    | _ => badSyntax

/-- A statement after its first word, with all that belongs to it. -/
def statement : Nat → String → Reader Stmt
  | 0, _, _ => badSyntax
  | fuel + 1, word, ts => do
    let exprFuel := 8 * ts.length + 8
    match word with
    | "if" =>
      let (test, rest) ← expr exprFuel Level.ternary ts
      let ((), rest) ← expect .tagEnd rest
      let ((yes, stop), rest) ← body fuel ["elif", "else", "endif"] rest
      let (no, rest) ← alternative fuel stop rest
      return (.cond test yes no, rest)
    | "for" =>
      let (xs, rest) ← targets exprFuel ts
      let ((), rest) ← expect (.ident "in") rest
      let (items, rest) ← expr exprFuel Level.or rest
      let ((), rest) ← expect .tagEnd rest
      let ((inner, stop), rest) ← body fuel ["else", "endfor"] rest
      let ((), rest) ← expect .tagEnd rest
      if stop = "else" then
        let ((otherwise, _), rest) ← body fuel ["endfor"] rest
        let ((), rest) ← expect .tagEnd rest
        return (.loop xs items inner otherwise, rest)
      else return (.loop xs items inner [], rest)
    | "set" =>
      let (x, rest) ← target ts
      let ((), rest) ← expect (.op "=") rest
      let (e, rest) ← expr exprFuel Level.ternary rest
      let ((), rest) ← expect .tagEnd rest
      return (.assign x e, rest)
    | "macro" =>
      let (f, rest) ← target ts
      let ((), rest) ← expect (.op "(") rest
      let (ps, rest) ← params exprFuel rest
      let ((), rest) ← expect .tagEnd rest
      let ((inner, _), rest) ← body fuel ["endmacro"] rest
      let ((), rest) ← expect .tagEnd rest
      return (.define f ps inner, rest)
    | "include" =>
      let (e, rest) ← expr exprFuel Level.ternary ts
      let ((), rest) ← expect .tagEnd rest
      return (.insert e, rest)
    | _ => badSyntax

/-- What follows a branch of a condition that ended at the tag `stop`. -/
def alternative : Nat → String → Reader Body
  | 0, _, _ => badSyntax
  | fuel + 1, stop, ts => do
    match stop with
    | "elif" =>
      let (test, rest) ← expr (8 * ts.length + 8) Level.ternary ts
      let ((), rest) ← expect .tagEnd rest
      let ((yes, stop), rest) ← body fuel ["elif", "else", "endif"] rest
      let (no, rest) ← alternative fuel stop rest
      return ([.cond test yes no], rest)
    | "else" =>
      let ((), rest) ← expect .tagEnd ts
      let ((no, _), rest) ← body fuel ["endif"] rest
      let ((), rest) ← expect .tagEnd rest
      return (no, rest)
    | _ =>
      let ((), rest) ← expect .tagEnd ts
      return ([], rest)

end

/-- Reads a template. -/
def parse (source : String) : Except Error Body := do
  let ts ← tokens source.toList
  let ((stmts, _), _) ← body (2 * ts.length + 2) [] ts
  return stmts

/-- Drops one line end at the end of a template. -/
def dropLastNewline (source : String) : String :=
  onChars (fun cs =>
    let drop (c : Char) (cs : List Char) := if cs.getLast? = some c then cs.dropLast else cs
    drop '\r' (drop '\n' cs)) source

end DocPages.Template
