import DocPages.Template.Parse

/-!
# Rendering templates

Expressions are evaluated in a context: the data a template is rendered with, and a stack of frames that
hold what the template assigns and defines. Evaluation follows the tree of the template. Where it leaves
the tree, to run a macro or another template, it calls `enter`, and `Library.run` ties that knot with a
bound on the number of trees entered inside of each other.

Of the filters that come with the template language, `trim`, `length` and `join` are there, and of its
functions none: the functions are those of the library. Any other filter or function is unknown, and a call
of an attribute is an unknown method unless it gives a function. A loop knows its index from both ends, its
length, and whether it is at its first or last item. The default of a macro parameter counts if it is a
constant.
-/

namespace DocPages.Template

open Text

/-! ## Contexts -/

structure Macro where
  params : List (String × Option Expr)
  body : Body

structure Frame where
  vars : List (String × Value) := []
  macros : List (String × Macro) := []

/-- What names stand for. The first frame is the innermost one. `load` measures how deep the trees are
that were entered. -/
structure Context where
  root : Value
  frames : List Frame := [{}]
  load : Nat := 0

/-- The most that contexts may be nested: loops count one, macros four and templates ten. -/
def loadLimit : Nat := 500

/-- A function that templates can call. -/
inductive Function where
  | plain (run : List Value → Except Error Value)
  /-- Renders the template of a given name with given data. -/
  | render

/-- The templates and functions that are available. -/
structure Library where
  templates : List (String × Body) := []
  functions : List (String × Function) := []

/-- Runs a tree in a context. -/
abbrev Enter := Context → Body → Except Error String

def fail {α : Type} (kind : ErrorKind) : Except Error α :=
  .error ⟨kind, none⟩

namespace Frame

def assign (f : Frame) (x : String) (v : Value) : Frame :=
  ⟨(x, v) :: f.vars.filter (·.1 != x), f.macros.filter (·.1 != x)⟩

def define (f : Frame) (x : String) (m : Macro) : Frame :=
  ⟨f.vars.filter (·.1 != x), (x, m) :: f.macros.filter (·.1 != x)⟩

/-- What a name stands for in a frame. -/
def value? (f : Frame) (x : String) : Option Value :=
  match f.vars.lookup x with
  | some v => some v
  | none => (f.macros.lookup x).map fun _ => .callable x

end Frame

namespace Context

/-- Changes the innermost frame. -/
def onTop (c : Context) (f : Frame → Frame) : Context :=
  match c.frames with
  | [] => { c with frames := [f {}] }
  | top :: rest => { c with frames := f top :: rest }

def assign (c : Context) (x : String) (v : Value) : Context :=
  c.onTop (·.assign x v)

def push (c : Context) (f : Frame) : Context :=
  { c with frames := f :: c.frames }

/-- Whether the context is nested too deep. -/
def isFull (c : Context) (more : Nat) : Bool :=
  Nat.blt loadLimit (c.load + c.frames.length + more)

end Context

/-- What a name stands for: a variable of the nearest frame that has one, a part of the data, or a
function. -/
def Library.value (lib : Library) (c : Context) (x : String) : Value :=
  match c.frames.findSome? (·.value? x) with
  | some v => v
  | none =>
    match c.root.attr x with
    | .undefined => if (lib.functions.lookup x).isSome then .callable x else .undefined
    | v => v

/-- The nearest frame that knows a name, with the frames around it. -/
def frameOf (x : String) : List Frame → List Frame
  | [] => []
  | f :: fs => if (f.value? x).isSome then f :: fs else frameOf x fs

/-! ## Filters -/

/-- Membership in a set of characters. -/
def isOneOf (cs : List Char) (c : Char) : Bool :=
  cs.contains c

/-- Puts printed values together with a separator. -/
def joinValues (separator : String) (v : Value) : Except Error Value :=
  match v.items? with
  | some items => .ok (.str (separator.intercalate (items.map Value.print)))
  | none => fail .invalidOperation

/-- Applies a filter. -/
def applyFilter (f : String) (v : Value) (args : List Value) : Except Error Value :=
  match f, args with
  | "trim", [] => .ok (.str (onChars trim v.print))
  | "trim", [chars] =>
    let p := isOneOf chars.print.toList
    .ok (.str (onChars (fun cs => dropEndWhile p (cs.dropWhile p)) v.print))
  | "length", [] =>
    match v.length? with
    | some n => .ok (.int n)
    | none => fail .invalidOperation
  | "join", [] => joinValues "" v
  | "join", [separator] => joinValues separator.print v
  | "trim", _ | "length", _ | "join", _ => fail .tooManyArguments
  | _, _ => fail .unknownFilter

/-! ## Calls -/

/-- Binds the arguments of a macro; parameters without an argument are undefined or have their default. -/
def bindParams (default : Option Expr → Except Error Value) :
    List (String × Option Expr) → List Value → Frame → Except Error Frame
  | [], [], f => .ok f
  | [], _ :: _, _ => fail .tooManyArguments
  | (x, _) :: ps, v :: vs, f => bindParams default ps vs (f.assign x v)
  | (x, d) :: ps, [], f => do
    let v ← default d
    bindParams default ps [] (f.assign x v)

/-- Renders the template of a given name with given data. -/
def Library.renderWith (lib : Library) (enter : Enter) : List Value → Except Error Value
  | [] | [_] => fail .missingArgument
  | [name, data] =>
    match lib.templates.lookup name.print with
    | none => fail .templateNotFound
    | some body => do
      let text ← enter { root := data } body
      return .str text
  | _ => fail .tooManyArguments

/-- Calls a function of the library. -/
def Library.callFunction (lib : Library) (enter : Enter) (f : String) (args : List Value) :
    Except Error Value :=
  match lib.functions.lookup f with
  | none => fail .unknownFunction
  | some (.plain run) => run args
  | some .render => lib.renderWith enter args

/-- A macro runs in the frame that defines it, below a frame of its arguments. Defaults are constants. -/
def callMacro (enter : Enter) (c : Context) (frames : List Frame) (m : Macro) (args : List Value) :
    Except Error Value := do
  let default : Option Expr → Except Error Value
    | some (.const v) => .ok v
    | _ => .ok .undefined
  let args ← bindParams default m.params args {}
  if c.isFull 4 then fail .invalidOperation
  else
    let text ← enter { c with frames := args :: frames, load := c.load + c.frames.length + 4 } m.body
    return .str text

/-- Calls what a name stands for. -/
def Library.call (lib : Library) (enter : Enter) (c : Context) (f : String) (args : List Value) :
    Except Error Value :=
  match frameOf f c.frames with
  | [] =>
    match c.root.attr f with
    | .undefined => lib.callFunction enter f args
    | _ => fail .invalidOperation
  | frame :: outer =>
    match frame.vars.lookup f, frame.macros.lookup f with
    | some (.callable g), _ => lib.callFunction enter g args
    | none, some m => callMacro enter c (frame :: outer) m args
    | _, _ => fail .invalidOperation

/-! ## Expressions -/

mutual

/-- The value of an expression. -/
def Library.eval (lib : Library) (enter : Enter) (c : Context) : Expr → Except Error Value
  | .const v => .ok v
  | .name x => .ok (lib.value c x)
  | .list items => do
    let vs ← lib.evalAll enter c items
    return .list vs
  | .map entries => do
    let kvs ← lib.evalEntries enter c entries
    return Value.ofEntries kvs
  | .attr e x => do
    let v ← lib.eval enter c e
    if v.isUndefined then fail .undefinedError else return v.attr x
  | .item e key => do
    let v ← lib.eval enter c e
    let k ← lib.eval enter c key
    if v.isUndefined then fail .undefinedError else return v.item k
  | .call f args => do
    let vs ← lib.evalAll enter c args
    lib.call enter c f vs
  | .apply callee args => do
    let v ← lib.eval enter c callee
    let vs ← lib.evalAll enter c args
    match v with
    | .callable f => lib.call enter c f vs
    | _ => fail .unknownMethod
  | .filter e f args => do
    let v ← lib.eval enter c e
    let vs ← lib.evalAll enter c args
    applyFilter f v vs
  | .not e => do
    let v ← lib.eval enter c e
    return .bool !v.isTrue
  | .neg e => do
    let v ← lib.eval enter c e
    match v with
    | .int n => return .int (-n)
    | .decimal u s => return .decimal (-u) s
    | _ => fail .invalidOperation
  | .eq a b => do
    let v ← lib.eval enter c a
    let w ← lib.eval enter c b
    return .bool (v.eq w)
  | .concat a b => do
    let v ← lib.eval enter c a
    let w ← lib.eval enter c b
    return .str (v.print ++ w.print)
  | .and a b => do
    let v ← lib.eval enter c a
    if v.isTrue then lib.eval enter c b else return v
  | .or a b => do
    let v ← lib.eval enter c a
    if v.isTrue then return v else lib.eval enter c b
  | .cond test yes none => do
    let v ← lib.eval enter c test
    if v.isTrue then lib.eval enter c yes else return .undefined
  | .cond test yes (some no) => do
    let v ← lib.eval enter c test
    if v.isTrue then lib.eval enter c yes else lib.eval enter c no

/-- The values of expressions from left to right. -/
def Library.evalAll (lib : Library) (enter : Enter) (c : Context) :
    List Expr → Except Error (List Value)
  | [] => .ok []
  | e :: es => do
    let v ← lib.eval enter c e
    let vs ← lib.evalAll enter c es
    return v :: vs

/-- The entries of a map from left to right. -/
def Library.evalEntries (lib : Library) (enter : Enter) (c : Context) :
    List (Expr × Expr) → Except Error (List (String × Value))
  | [] => .ok []
  | (k, e) :: es => do
    let key ← lib.eval enter c k
    let v ← lib.eval enter c e
    let rest ← lib.evalEntries enter c es
    return (key.print, v) :: rest

end

/-! ## Statements -/

/-- The state of a loop at an index. -/
def loopValue (index length : Nat) : Value :=
  Value.ofEntries [("index", .int (index + 1)), ("index0", .int index), ("first", .bool (index == 0)),
    ("last", .bool (index + 1 == length)), ("length", .int length),
    ("revindex", .int (length - index)), ("revindex0", .int (length - index - 1))]

/-- Binds the targets of a loop to an item. -/
def bindTargets (c : Context) (xs : List String) (v : Value) : Except Error Context :=
  match xs with
  | [x] => .ok (c.assign x v)
  | xs =>
    match v.items? with
    | some vs =>
      if vs.length = xs.length then .ok ((xs.zip vs).foldl (fun c (x, v) => c.assign x v) c)
      else fail .invalidOperation
    | none => fail .invalidOperation

/-- Runs the body of a loop for each item from an index on. What one round assigns, the next one sees. -/
def eachItem (xs : List String) (length : Nat) (run : Context → Except Error (Context × String)) :
    Nat → List Value → Context → Except Error String
  | _, [], _ => .ok ""
  | index, v :: vs, c => do
    let inner ← bindTargets (c.assign "loop" (loopValue index length)) xs v
    let (after, text) ← run inner
    let rest ← eachItem xs length run (index + 1) vs after
    return text ++ rest

/-- Errors inside of an inserted template are reported as such. -/
def insertError (e : Error) : Error :=
  ⟨.badInclude, e.cause⟩

/-- Inserts the template of a given name. -/
def Library.insert (lib : Library) (enter : Enter) (c : Context) (name : Value) :
    Except Error String :=
  match name with
  | .str name =>
    match lib.templates.lookup name with
    | none => fail .templateNotFound
    | some body =>
      if c.isFull 10 then fail .invalidOperation
      else
        (enter { c.push {} with load := c.load + 10 } body).mapError insertError
  | _ => fail .invalidOperation

mutual

/-- Runs a statement: the context after it, and its text. -/
def Library.exec (lib : Library) (enter : Enter) (c : Context) :
    Stmt → Except Error (Context × String)
  | .text s => .ok (c, s)
  | .emit e => do
    let v ← lib.eval enter c e
    return (c, v.print)
  | .cond test yes no => do
    let v ← lib.eval enter c test
    if v.isTrue then lib.execAll enter c yes else lib.execAll enter c no
  | .loop xs e body otherwise => do
    let v ← lib.eval enter c e
    match v.items? with
    | none => fail .invalidOperation
    | some [] => lib.execAll enter c otherwise
    | some items =>
      if c.isFull 1 then fail .invalidOperation
      else
        let text ← eachItem xs items.length (fun c => lib.execAll enter c body) 0 items (c.push {})
        return (c, text)
  | .assign x e => do
    let v ← lib.eval enter c e
    return (c.assign x v, "")
  | .define f params body => .ok (c.onTop (·.define f ⟨params, body⟩), "")
  | .insert e => do
    let name ← lib.eval enter c e
    let text ← lib.insert enter c name
    return (c, text)

/-- Runs statements one after another. -/
def Library.execAll (lib : Library) (enter : Enter) (c : Context) :
    List Stmt → Except Error (Context × String)
  | [] => .ok (c, "")
  | s :: ss => do
    let (c, text) ← lib.exec enter c s
    let (c, rest) ← lib.execAll enter c ss
    return (c, text ++ rest)

end

/-! ## Templates -/

/-- Runs a tree in a context, where at most `depth` trees are entered inside of each other. -/
def Library.run (lib : Library) : Nat → Enter
  | 0, _, _ => fail .invalidOperation
  | depth + 1, c, body => do
    let (_, text) ← lib.execAll (lib.run depth) c body
    return text

/-- Trees that a template may enter whatever its data. -/
def baseDepth : Nat := 2000

/-- Renders a tree with data. Templates that descend into their data can be entered as often as the data
is nested. -/
def Library.renderBody (lib : Library) (body : Body) (data : Value) : Except Error String :=
  lib.run (baseDepth + data.depth) { root := data } body

/-- Renders the template of a given name with data. -/
def Library.render (lib : Library) (name : String) (data : Value) : Except Error String :=
  match lib.templates.lookup name with
  | none => fail .templateNotFound
  | some body => lib.renderBody body data

end DocPages.Template
