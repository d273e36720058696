/-!
# The command line

The program takes a subcommand (serving is the default), and a configuration file before or behind
it. `read` gives what a list of arguments asks for. A list that asks for nothing sensible is wrong
usage; why is not told.

An option is given once at most, before the subcommand or behind it; behind it counts. Its value
follows as the next argument, which must not look like an option, or behind an equals sign; the
value of the short option may also follow at once.
-/

namespace IsolationGate.Command

/-- A hypothetical request. -/
structure Query where
  site : Option String := none
  mode : Option String := none
  dest : Option String := none
  method : String := "GET"
  path : String := "/"
  deriving Repr, DecidableEq

/-- What the program is to do. -/
inductive Task where
  | serve
  | checkConfig
  | evaluate (query : Query)
  deriving Repr, DecidableEq

/-- A task with its configuration file. -/
structure Invocation where
  config : Option String
  task : Task
  deriving Repr, DecidableEq

/-- What arguments ask for. -/
inductive Request where
  | run (invocation : Invocation)
  | version
  | help
  | wrongUsage
  deriving Repr, DecidableEq

/-- The options with a value; the first is also written with a letter. -/
inductive OptionName where
  | config
  | site
  | mode
  | dest
  | method
  | path
  deriving Repr, DecidableEq

/-- The word of an option. -/
def OptionName.word : OptionName → String
  | config => "config"
  | site => "site"
  | mode => "mode"
  | dest => "dest"
  | method => "method"
  | path => "path"

/-- The options of the program itself. -/
def programOptions : List OptionName := [.config]

/-- The options behind `evaluate`. -/
def evaluateOptions : List OptionName := [.config, .site, .mode, .dest, .method, .path]

/-- The subcommands. -/
inductive Subcommand where
  | serve
  | checkConfig
  | evaluate
  deriving Repr, DecidableEq

/-- The subcommand of a word. -/
def Subcommand.ofWord? (word : String) : Option Subcommand :=
  if word = "serve" then some .serve
  else if word = "check-config" then some .checkConfig
  else if word = "evaluate" then some .evaluate
  else none

/-- The options behind a subcommand. -/
def Subcommand.options : Subcommand → List OptionName
  | serve | checkConfig => programOptions
  | evaluate => evaluateOptions

/-- Options with their values. -/
abbrev Values := List (OptionName × String)

/-- What an argument is. -/
inductive Argument where
  /-- An option whose value is the next argument. -/
  | option (name : OptionName)
  /-- An option with its value. -/
  | optionWith (name : OptionName) (value : String)
  | version
  | help
  /-- The mark behind which no argument is an option. -/
  | divider
  /-- A word that is no option. -/
  | word (text : String)
  /-- An option that there is not. -/
  | unknown
  deriving Repr, DecidableEq

/-- A text looks like an option: it starts with a dash and is not a dash alone. -/
def looksLikeOption (s : String) : Bool := s.startsWith "-" && s ≠ "-"

/-- A text cut at its first equals sign. -/
def cutAtEquals (cs : List Char) : List Char × Option (List Char) :=
  match cs.dropWhile (· ≠ '=') with
  | '=' :: value => (cs.takeWhile (· ≠ '='), some value)
  | _ => (cs, none)

/-- An argument that starts with two dashes. `top` says that no subcommand stands before it. -/
def ofLong (options : List OptionName) (top : Bool) (cs : List Char) : Argument :=
  let (word, value) := cutAtEquals cs
  let word := String.ofList word
  match options.find? fun o => o.word = word, value with
  | some o, some value => .optionWith o (String.ofList value)
  | some o, none => .option o
  | none, some _ => .unknown
  | none, none =>
      if word = "help" then .help
      else if word = "version" ∧ top then .version
      else .unknown

/-- An argument that starts with one dash. -/
def ofShort (top : Bool) : List Char → Argument
  | ['c'] => .option .config
  | 'c' :: '=' :: value => .optionWith .config (String.ofList value)
  | 'c' :: value => .optionWith .config (String.ofList value)
  | 'h' :: _ => .help
  | 'V' :: _ => if top then .version else .unknown
  | _ => .unknown

/-- What an argument is, among the options that there are. -/
def Argument.ofText (options : List OptionName) (top : Bool) (s : String) : Argument :=
  match s.toList with
  | ['-', '-'] => .divider
  | '-' :: '-' :: cs => ofLong options top cs
  | '-' :: c :: cs => ofShort top (c :: cs)
  | _ => .word s

/-- One more value. An option is given once, and a configuration file has a name. -/
def addValue (name : OptionName) (value : String) (values : Values) : Option Values :=
  if (values.lookup name).isSome ∨ (name = .config ∧ value = "") then none
  else some (values ++ [(name, value)])

/-- The task of a subcommand with its values. -/
def taskOf (sub : Option Subcommand) (values : Values) : Task :=
  match sub with
  | none | some .serve => .serve
  | some .checkConfig => .checkConfig
  | some .evaluate =>
      .evaluate
        { site := values.lookup .site
          mode := values.lookup .mode
          dest := values.lookup .dest
          method := (values.lookup .method).getD "GET"
          path := (values.lookup .path).getD "/" }

/-- Help is asked for by the word for it and, behind it, the subcommand in question. -/
def helpFor : List String → Request
  | [] => .help
  | [word] => if word = "help" ∨ (Subcommand.ofWord? word).isSome then .help else .wrongUsage
  | _ => .wrongUsage

/-- The rest of the arguments, when the subcommand (if it has come), the values before it and the
values behind it are known. -/
def readFrom (sub : Option Subcommand) (before values : Values) : List String → Request
  | [] =>
      let config := (values.lookup .config).orElse fun _ => before.lookup .config
      .run ⟨config, taskOf sub values⟩
  | argument :: rest =>
      let options := (sub.map Subcommand.options).getD programOptions
      match Argument.ofText options sub.isNone argument with
      | .version => .version
      | .help => .help
      | .unknown => .wrongUsage
      | .divider => if rest = [] then readFrom sub before values [] else .wrongUsage
      | .optionWith name value =>
          match addValue name value values with
          | some values => readFrom sub before values rest
          | none => .wrongUsage
      | .option name =>
          match rest with
          | value :: rest =>
              if looksLikeOption value then .wrongUsage
              else
                match addValue name value values with
                | some values => readFrom sub before values rest
                | none => .wrongUsage
          | [] => .wrongUsage
      | .word text =>
          if sub.isNone ∧ text = "help" then helpFor rest
          else
            match sub, Subcommand.ofWord? text with
            | none, some named => readFrom (some named) values [] rest
            | _, _ => .wrongUsage
termination_by arguments => arguments.length

/-- What arguments ask for. -/
def read (arguments : List String) : Request := readFrom none [] [] arguments

end IsolationGate.Command
