import CodecGen.Text.Basic

/-!
# Command line options

The options of the command line. Arguments are taken from left to right; the first that is wrong, or
asks for the version or for help, ends the reading.
-/

namespace CodecGen.Cli

/-- What a run is asked for. -/
structure Options where
  /-- The files and directories with declarations. -/
  inputs : List String := []
  /-- The file to write. -/
  output : Option String := none
  /-- The package of the generated file. -/
  package : Option String := none
  /-- The only types to generate, if there are any. -/
  types : List String := []
  /-- The pattern for the names of types to generate. -/
  pattern : Option String := none
  /-- The settings file. -/
  config : Option String := none
  /-- Report every decision. -/
  verbose : Bool := false
  deriving DecidableEq, Repr, Inhabited

/-- Why arguments are read no further. -/
inductive Stop where
  /-- They are wrong. -/
  | usage
  | version
  | help
  deriving DecidableEq, Repr, Inhabited

/-- An option that takes a value. -/
inductive Setting where
  | output
  | package
  | types
  | pattern
  | config
  deriving DecidableEq, Repr, Inhabited

/-- An option by itself. -/
inductive Switch where
  | verbose
  | help
  | version
  deriving DecidableEq, Repr, Inhabited

/-- The options, by what they take. -/
abbrev Choice := Setting ⊕ Switch

/-- The option with a long name. -/
def ofLong? (name : String) : Option Choice :=
  match name with
  | "output" => some (.inl .output)
  | "package" => some (.inl .package)
  | "types" => some (.inl .types)
  | "match" => some (.inl .pattern)
  | "config" => some (.inl .config)
  | "verbose" => some (.inr .verbose)
  | "help" => some (.inr .help)
  | "version" => some (.inr .version)
  | _ => none

/-- The option with a letter for a name. -/
def ofLetter? (letter : Char) : Option Choice :=
  match letter with
  | 'o' => some (.inl .output)
  | 'p' => some (.inl .package)
  | 't' => some (.inl .types)
  | 'c' => some (.inl .config)
  | 'v' => some (.inr .verbose)
  | 'h' => some (.inr .help)
  | 'V' => some (.inr .version)
  | _ => none

namespace Options

/-- Set what may be set once. -/
private def once (old : Option String) (value : String) (f : Option String → Options) :
    Except Stop Options :=
  if old.isSome then .error .usage else .ok (f (some value))

/-- The pieces of a text between commas. -/
def commaPieces (value : String) : List String :=
  (Text.split ',' value.toList).map String.ofList

/-- Take the value of an option. Only types can be given more than once, and files must be named. -/
def set (o : Options) (s : Setting) (value : String) : Except Stop Options :=
  match s with
  | .output =>
    if value.isEmpty then .error .usage else once o.output value fun v => { o with output := v }
  | .package => once o.package value fun v => { o with package := v }
  | .types => .ok { o with types := o.types ++ commaPieces value }
  | .pattern => once o.pattern value fun v => { o with pattern := v }
  | .config =>
    if value.isEmpty then .error .usage else once o.config value fun v => { o with config := v }

/-- Take an option without a value. -/
def switch (o : Options) (s : Switch) : Except Stop Options :=
  match s with
  | .verbose => if o.verbose then .error .usage else .ok { o with verbose := true }
  | .help => .error .help
  | .version => .error .version

/-- Take an input. -/
def addInput (o : Options) (input : String) : Except Stop Options :=
  if input.isEmpty then .error .usage else .ok { o with inputs := o.inputs ++ [input] }

end Options

/-- Take options written as letters in a row. The first that takes a value takes all that follows
it, or the next argument where nothing does. -/
def letters (o : Options) : List Char → Except Stop (Options × Option Setting)
  | [] => .ok (o, none)
  | c :: rest =>
    match ofLetter? c with
    | none => .error .usage
    | some (.inr s) => do letters (← o.switch s) rest
    | some (.inl s) =>
      match rest with
      | [] => .ok (o, some s)
      | '=' :: value => (o.set s (String.ofList value)).map (·, none)
      | value => (o.set s (String.ofList value)).map (·, none)

/-- Take an option written in full, with its value after an equals sign or in the next argument. -/
def long (o : Options) (cs : List Char) : Except Stop (Options × Option Setting) :=
  let name := String.ofList (cs.takeWhile (· ≠ '='))
  match ofLong? name, cs.dropWhile (· ≠ '=') with
  | some (.inl s), [] => .ok (o, some s)
  | some (.inl s), _ :: value => (o.set s (String.ofList value)).map (·, none)
  | some (.inr s), [] => (o.switch s).map (·, none)
  | _, _ => .error .usage

/-- Take one argument that is not a value: the options with it, and the option that awaits a value
now. -/
def argument (o : Options) (arg : String) : Except Stop (Options × Option Setting) :=
  match arg.toList with
  | '-' :: '-' :: cs => long o cs
  | ['-'] => (o.addInput arg).map (·, none)
  | '-' :: cs => letters o cs
  | _ => (o.addInput arg).map (·, none)

/-- An argument that cannot be a value: one that begins with a hyphen and goes on. -/
def isOption (arg : String) : Bool :=
  match arg.toList with
  | '-' :: _ :: _ => true
  | _ => false

/-- Take arguments from some point on. `awaiting` is the option whose value comes next. After two
hyphens all arguments are inputs. -/
def readFrom (o : Options) (awaiting : Option Setting) : List String → Except Stop Options
  | [] => if awaiting.isSome ∨ o.inputs.isEmpty then .error .usage else .ok o
  | arg :: rest =>
    match awaiting with
    | some s => if isOption arg then .error .usage else do readFrom (← o.set s arg) none rest
    | none =>
      if arg = "--" then do
        let o ← rest.foldlM Options.addInput o
        if o.inputs.isEmpty then .error .usage else .ok o
      else do
        let (o, awaiting) ← argument o arg
        readFrom o awaiting rest

/-- The options that arguments ask for. -/
def Options.ofArgs (args : List String) : Except Stop Options :=
  readFrom {} none args

end CodecGen.Cli
