/-!
# Command lines

A command line holds paths of package descriptions and options. An option has a long name, and may have a
letter; its value is the next argument, or follows an equals sign or the letter. Letters of switches can be
joined. After `--` everything is a path.
-/

namespace DocPages.Cli

/-- The options that take a value. -/
inductive OptionName where
  | format
  | template
  | templateFile
  | header
  | headerFile
  | footer
  | footerFile
  | repositoryUrl
  | repositoryBranch
  | repositoryPath
  | config
  | output
deriving DecidableEq

namespace OptionName

def long : OptionName → String
  | format => "format"
  | template => "template"
  | templateFile => "template-file"
  | header => "header"
  | headerFile => "header-file"
  | footer => "footer"
  | footerFile => "footer-file"
  | repositoryUrl => "repository.url"
  | repositoryBranch => "repository.default-branch"
  | repositoryPath => "repository.path"
  | config => "config"
  | output => "output"

def all : List OptionName :=
  [format, template, templateFile, header, headerFile, footer, footerFile, repositoryUrl,
   repositoryBranch, repositoryPath, config, output]

def ofLong? (name : String) : Option OptionName :=
  all.find? (·.long == name)

def ofLetter? : Char → Option OptionName
  | 'f' => some format
  | 't' => some template
  | 'c' => some config
  | 'o' => some output
  | _ => none

/-- Options that may be given more than once. -/
def isRepeatable : OptionName → Bool
  | template | templateFile => true
  | _ => false

/-- Options whose value is a path, which is never empty. -/
def isPath : OptionName → Bool
  | config | output => true
  | _ => false

end OptionName

/-- The options without a value. -/
inductive Switch where
  | verbose
  | help
  | version
deriving DecidableEq

namespace Switch

def ofLong? : String → Option Switch
  | "verbose" => some verbose
  | "help" => some help
  | "version" => some version
  | _ => none

def ofLetter? : Char → Option Switch
  | 'v' => some verbose
  | 'h' => some help
  | 'V' => some version
  | _ => none

end Switch

/-- What a command line says. -/
structure Arguments where
  /-- The paths of package descriptions, in order. -/
  inputs : List String := []
  /-- The values of options, in order. -/
  values : List (OptionName × String) := []
  verbosity : Nat := 0
deriving DecidableEq

namespace Arguments

def get? (a : Arguments) (name : OptionName) : Option String :=
  a.values.lookup name

/-- All values of an option, in order. -/
def getAll (a : Arguments) (name : OptionName) : List String :=
  (a.values.filter (·.1 == name)).map (·.2)

/-- Gives an option a value, unless it has one already. -/
def set? (a : Arguments) (name : OptionName) (value : String) : Option Arguments :=
  if name.isPath && value.isEmpty then none
  else if (a.get? name).isSome && !name.isRepeatable then none
  else some { a with values := a.values ++ [(name, value)] }

def addInput? (a : Arguments) (path : String) : Option Arguments :=
  if path.isEmpty then none else some { a with inputs := a.inputs ++ [path] }

def addInputs? (a : Arguments) (paths : List String) : Option Arguments :=
  paths.foldlM addInput? a

end Arguments

/-- What is asked for. -/
inductive Request where
  | help
  | version
  | render (args : Arguments)
deriving DecidableEq

/-- How far the arguments are read. -/
inductive Progress where
  /-- The next argument may be the value of an option. -/
  | next (args : Arguments) (pending : Option OptionName)
  /-- The rest does not matter. -/
  | done (request : Request)

namespace Progress

def switch (a : Arguments) : Switch → Progress
  | .verbose => .next { a with verbosity := a.verbosity + 1 } none
  | .help => .done .help
  | .version => .done .version

/-- An option with a value that is joined to it. -/
def option? (a : Arguments) (name : OptionName) (value : String) : Option Progress :=
  (a.set? name value).map (.next · none)

/-- A long option, after its dashes. -/
def long? (a : Arguments) (cs : List Char) : Option Progress :=
  let name := String.ofList (cs.takeWhile (· != '='))
  let value := match cs.dropWhile (· != '=') with
    | _ :: v => some (String.ofList v)
    | [] => none
  match OptionName.ofLong? name, Switch.ofLong? name, value with
  | some o, _, some v => option? a o v
  | some o, _, none => some (.next a o)
  | none, some s, none => some (switch a s)
  | _, _, _ => none

/-- Letters after a dash. What follows the letter of an option is its value. -/
def letters? (a : Arguments) : List Char → Option Progress
  | [] => some (.next a none)
  | c :: cs =>
    match OptionName.ofLetter? c, Switch.ofLetter? c with
    | some o, _ =>
      match cs with
      | [] => some (.next a o)
      | '=' :: v => option? a o (String.ofList v)
      | v => option? a o (String.ofList v)
    | none, some s =>
      match switch a s with
      | .next a _ => letters? a cs
      | .done request => some (.done request)
    | none, none => none

end Progress

/-- Arguments that start with a dash are options, except for a single dash. -/
def isOption (arg : String) : Bool :=
  match arg.toList with
  | '-' :: _ :: _ => true
  | _ => false

/-- Reads the arguments from the left. Options must be known, must have a value if they take one, and are
given once. -/
def parseFrom (a : Arguments) (pending : Option OptionName) : List String → Option Request
  | [] => if pending.isSome || a.inputs.isEmpty then none else some (.render a)
  | arg :: rest =>
    match pending with
    | some o =>
      if isOption arg then none
      else
        match a.set? o arg with
        | some a => parseFrom a none rest
        | none => none
    | none =>
      if arg == "--" then
        match a.addInputs? rest with
        | some a => if a.inputs.isEmpty then none else some (.render a)
        | none => none
      else
        let step := match arg.toList with
          | '-' :: '-' :: cs => Progress.long? a cs
          | '-' :: c :: cs => Progress.letters? a (c :: cs)
          | _ => (a.addInput? arg).map (.next · none)
        match step with
        | some (.next a pending) => parseFrom a pending rest
        | some (.done request) => some request
        | none => none

/-- What a command line asks for, unless it is not a valid one. -/
def parse? (args : List String) : Option Request :=
  parseFrom {} none args

/-! ## Texts -/

/-- The name and the version of the program. -/
def versionText : String := "docmark 0.1.0\n"

/-- How to use the program. -/
def helpText : String :=
  "Render package documentation as markdown\n\n" ++
  "Usage: docmark [OPTIONS] <inputs>...\n\n" ++
  "Options:\n" ++
  "  -f, --format <format>        Markdown dialect: github, azure-devops or plain\n" ++
  "  -t, --template <NAME=TEXT>   Replace a template with inline text\n" ++
  "      --template-file <NAME=PATH>  Replace a template with the contents of a file\n" ++
  "      --header <header>        Text placed before the packages\n" ++
  "      --header-file <path>     File whose contents are placed before the packages\n" ++
  "      --footer <footer>        Text placed after the packages\n" ++
  "      --footer-file <path>     File whose contents are placed after the packages\n" ++
  "      --repository.url <url>   Browsable repository URL used for source links\n" ++
  "      --repository.default-branch <branch>  Branch that source links point at\n" ++
  "      --repository.path <path>  Path of the working directory inside the repository\n" ++
  "  -c, --config <path>          Configuration file (defaults to .docmark.toml if present)\n" ++
  "  -o, --output <path>          Write the markdown to a file instead of stdout\n" ++
  "  -v, --verbose                Log more (repeat for debug output)\n" ++
  "  -h, --help                   Print help\n" ++
  "  -V, --version                Print version\n"

end DocPages.Cli
