import DocPages.Template.Value
import DocPages.Dialect.Basic

/-!
# Template trees

Expressions and statements of the template language, and the errors that reading and rendering a template
can give.
-/

namespace DocPages.Template

/-! ## Errors -/

inductive ErrorKind where
  | badSyntax
  | badEscape
  | invalidOperation
  | missingArgument
  | tooManyArguments
  | undefinedError
  | unknownFunction
  | unknownMethod
  | unknownFilter
  | templateNotFound
  | badInclude
  | cannotDeserialize
deriving DecidableEq

/-- A failure, with the error of the piece that could not be written, if that was the cause. -/
structure Error where
  kind : ErrorKind
  cause : Option DialectError := none
deriving DecidableEq

/-! ## Expressions -/

inductive Expr where
  | const (v : Value)
  | name (x : String)
  | list (items : List Expr)
  | map (entries : List (Expr × Expr))
  | attr (e : Expr) (x : String)
  | item (e key : Expr)
  /-- A call of a function or macro by name. -/
  | call (f : String) (args : List Expr)
  /-- A call of what an expression gives. -/
  | apply (callee : Expr) (args : List Expr)
  | filter (e : Expr) (f : String) (args : List Expr)
  | not (e : Expr)
  | neg (e : Expr)
  | eq (a b : Expr)
  | concat (a b : Expr)
  | and (a b : Expr)
  | or (a b : Expr)
  | cond (test yes : Expr) (no : Option Expr)

/-! ## Statements -/

inductive Stmt where
  | text (s : String)
  | emit (e : Expr)
  | cond (test : Expr) (yes no : List Stmt)
  /-- A loop over what an expression gives; several targets take a list apart. -/
  | loop (targets : List String) (items : Expr) (body otherwise : List Stmt)
  | assign (x : String) (e : Expr)
  | define (f : String) (params : List (String × Option Expr)) (body : List Stmt)
  /-- The text of another template in the same context. -/
  | insert (template : Expr)

/-- A template is a list of statements. -/
abbrev Body := List Stmt

end DocPages.Template
