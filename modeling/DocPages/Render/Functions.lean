import DocPages.Template.Eval
import DocPages.Source.Fields
import DocPages.Text.Lines

/-!
# Template functions

Functions that put pages together, and one function for each piece that a dialect writes. Arguments are
checked from left to right, and only then whether there are too many.
-/

namespace DocPages.Render

open Template Text

/-! ## Arguments -/

/-- Reads an argument that may be missing. -/
abbrev Argument (α : Type) := Option Value → Except Error α

/-- Any value, in its printed form. -/
def textArgument : Argument String
  | none => fail .missingArgument
  | some v => .ok v.print

/-- A number that counts something. -/
def countArgument : Argument Nat
  | none => fail .missingArgument
  | some v =>
    match v.int? with
    | some n => if 0 ≤ n ∧ n < Data.wordSize then .ok n.toNat else fail .invalidOperation
    | none => fail .invalidOperation

/-- A machine integer. -/
def isWord (n : Int) : Bool :=
  decide (-Int.ofNat (Nat.pow 2 63) ≤ n) && decide (n < Int.ofNat (Nat.pow 2 63))

def integerArgument : Argument Int
  | none => fail .missingArgument
  | some v =>
    match v.int? with
    | some n => if isWord n then .ok n else fail .invalidOperation
    | none => fail .invalidOperation

def valueArgument : Argument Value
  | none => fail .missingArgument
  | some v => .ok v

/-- A location, given by the value of its fields. -/
def locationArgument : Argument Location
  | none => fail .missingArgument
  | some v =>
    match Location.ofData? true v.toData with
    | some l => .ok l
    | none => fail .cannotDeserialize

/-- Refuses arguments after the first `n`. -/
def atMost (n : Nat) (args : List Value) : Except Error Unit :=
  if Nat.blt n args.length then fail .tooManyArguments else .ok ()

def function0 (f : Except Error Value) : Function :=
  .plain fun args => do
    atMost 0 args
    f

def function1 {α : Type} (a : Argument α) (f : α → Except Error Value) : Function :=
  .plain fun args => do
    let x ← a args[0]?
    atMost 1 args
    f x

def function2 {α β : Type} (a : Argument α) (b : Argument β) (f : α → β → Except Error Value) :
    Function :=
  .plain fun args => do
    let x ← a args[0]?
    let y ← b args[1]?
    atMost 2 args
    f x y

def function3 {α β γ : Type} (a : Argument α) (b : Argument β) (c : Argument γ)
    (f : α → β → γ → Except Error Value) : Function :=
  .plain fun args => do
    let x ← a args[0]?
    let y ← b args[1]?
    let z ← c args[2]?
    atMost 3 args
    f x y z

def text (s : String) : Except Error Value :=
  .ok (.str s)

/-- The text of a piece; a failure is reported with its cause. -/
def piece : Except DialectError String → Except Error Value
  | .ok s => .ok (.str s)
  | .error e => .error ⟨.invalidOperation, some e⟩

/-! ## Structure -/

/-- Items with the flags of the first and last one, for separators. -/
def flagged {α : Type} (items : List α) : List (Bool × Bool × α) :=
  items.mapIdx fun i x => (i == 0, i + 1 == items.length, x)

/-- The items of a list as maps with their flags. -/
def iterate : Value → Except Error Value
  | .list items => .ok (.list ((flagged items).map fun (first, last, x) =>
      Value.ofEntries [("first", .bool first), ("last", .bool last), ("entry", x)]))
  | _ => fail .invalidOperation

def add (a b : Int) : Except Error Value :=
  if isWord (a + b) then .ok (.int (a + b)) else fail .invalidOperation

/-- Functions that do not depend on the dialect. -/
def structureFunctions : List (String × Function) :=
  [("add", function2 integerArgument integerArgument add),
   ("spacer", function0 (text "\n\n")),
   ("inlineSpacer", function0 (text "\n")),
   ("hangingIndent", function2 textArgument countArgument fun t n =>
      text (onChars (hangingIndent n) t)),
   ("iter", function1 valueArgument iterate),
   ("include", .render)]

/-- The pieces of a dialect. -/
def dialectFunctions (d : Dialect) : List (String × Function) :=
  [("bold", function1 textArgument fun t => text (Dialect.bold t)),
   ("anchor", function1 textArgument fun a => text (d.anchor a)),
   ("anchorHeader", function3 countArgument textArgument textArgument fun l t a =>
      piece (d.anchorHeader l t a)),
   ("header", function2 countArgument textArgument fun l t => piece (Dialect.header l t)),
   ("rawAnchorHeader", function3 countArgument textArgument textArgument fun l t a =>
      piece (d.rawAnchorHeader l t a)),
   ("rawHeader", function2 countArgument textArgument fun l t => piece (Dialect.rawHeader l t)),
   ("codeBlock", function2 textArgument textArgument fun l c => text (d.codeBlock l c)),
   ("link", function2 textArgument textArgument fun t h => text (Dialect.link t h)),
   ("listEntry", function2 countArgument textArgument fun n t => text (Dialect.listEntry n t)),
   ("accordion", function2 textArgument textArgument fun t b => piece (d.accordion t b)),
   ("accordionHeader", function1 textArgument fun t => piece (d.accordionHeader t)),
   ("accordionTerminator", function0 (text d.accordionTerminator)),
   ("localHref", function1 textArgument fun t => text (d.localHref t)),
   ("rawLocalHref", function1 textArgument fun a => text (d.rawLocalHref a)),
   ("codeHref", function1 locationArgument fun l => piece (d.codeHref l)),
   ("paragraph", function1 textArgument fun t => text (Dialect.paragraph t)),
   ("escape", function1 textArgument fun t => text (Dialect.escape t))]

/-- All functions of a dialect. -/
def functions (d : Dialect) : List (String × Function) :=
  structureFunctions ++ dialectFunctions d

/-- A function of one text. -/
def textFunction (f : String → String) : Function :=
  function1 textArgument fun t => text (f t)

end DocPages.Render
