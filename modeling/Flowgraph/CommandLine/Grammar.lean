namespace Flowgraph.CommandLine

/-- How often and with what an option may be given. -/
inductive Arity where
  /-- Once and without a value. -/
  | flag
  /-- Once and with a value. -/
  | once
  /-- Any number of times, each with values divided by commas. -/
  | many
deriving DecidableEq, Repr

/-- An option. -/
structure Opt where
  long : String
  short : Option Char := none
  arity : Arity
  /-- What its value is called. -/
  value : String := ""
  help : String
  /-- Which values it takes. -/
  accepts : String → Bool := fun _ => true

/-- An operand. -/
structure Operand where
  name : String
  required : Bool := true
  help : String := ""
  accepts : String → Bool := fun s => s ≠ ""

/-- What a command takes. -/
structure Grammar where
  about : String
  options : List Opt := []
  operands : List Operand := []
  /-- Options that must be given. -/
  needed : List String := []
  /-- Whether it tells its version. -/
  versioned : Bool := false
  /-- The names of its subcommands, of which one must be given if there are any. -/
  subcommands : List String := []

/-- Arguments as read. -/
structure Arguments where
  /-- The options given, with their values. -/
  options : List (String × List String) := []
  operands : List String := []
  /-- The subcommand with the arguments behind it. -/
  subcommand : Option (String × List String) := none
deriving Repr

namespace Arguments

def has (a : Arguments) (name : String) : Bool := a.options.any (·.1 = name)

def values (a : Arguments) (name : String) : List String :=
  (a.options.filter (·.1 = name)).flatMap (·.2)

/-- The value of an option that is given once. -/
def value? (a : Arguments) (name : String) : Option String := (a.values name).head?

end Arguments

/-- Why reading ends before the arguments do. -/
inductive Stop where
  | help
  | version
  | misuse
deriving DecidableEq, Repr

namespace Grammar

/-- Takes an option in, with its values. -/
def give (a : Arguments) (o : Opt) (values : List String) : Except Stop Arguments :=
  if o.arity ≠ .many ∧ a.has o.long then .error .misuse
  else if !values.all o.accepts then .error .misuse
  else .ok { a with options := a.options ++ [(o.long, values)] }

/-- Takes an option in, with its value as written. -/
def giveText (a : Arguments) (o : Opt) (text : String) : Except Stop Arguments :=
  give a o (if o.arity = .many then text.splitOn "," else [text])

/-- Takes an operand in, at the next place. -/
def giveOperand (g : Grammar) (a : Arguments) (text : String) : Except Stop Arguments :=
  match g.operands[a.operands.length]? with
  | some o =>
    if o.accepts text then .ok { a with operands := a.operands ++ [text] } else .error .misuse
  | none => .error .misuse

/-- Reads an option by its long name behind two dashes, with a value behind an equals sign; answers
the option that waits for its value, if any. -/
def long (g : Grammar) (a : Arguments) (text : String) : Except Stop (Arguments × Option Opt) :=
  let name := String.ofList (text.toList.takeWhile (· ≠ '='))
  let attached := text.toList.dropWhile (· ≠ '=')
  match g.options.find? (·.long = name) with
  | some o =>
    match o.arity, attached with
    | .flag, [] => return (← give a o [], none)
    | .flag, _ => .error .misuse
    | _, [] => .ok (a, some o)
    | _, _ :: value => return (← giveText a o (String.ofList value), none)
  | none =>
    if attached ≠ [] then .error .misuse
    else if name = "help" then .error .help
    else if name = "version" ∧ g.versioned then .error .version
    else .error .misuse

/-- Reads options by their letters behind a dash. The letter of an option with a value ends them:
what follows is the value. -/
def short (g : Grammar) : Arguments → List Char → Except Stop (Arguments × Option Opt)
  | a, [] => .ok (a, none)
  | a, c :: rest =>
    match g.options.find? (·.short = some c) with
    | some o =>
      match o.arity, rest with
      | .flag, _ => do g.short (← give a o []) rest
      | _, [] => .ok (a, some o)
      | _, '=' :: value => return (← giveText a o (String.ofList value), none)
      | _, value => return (← giveText a o (String.ofList value), none)
    | none =>
      if c = 'h' then .error .help
      else if c = 'V' ∧ g.versioned then .error .version
      else .error .misuse

/-- Reads arguments on. An option may wait for its value; behind a double dash there are operands
only. -/
def scan (g : Grammar) (a : Arguments) (waiting : Option Opt) (operandsOnly : Bool) :
    List String → Except Stop Arguments
  | [] => if waiting.isSome then .error .misuse else .ok a
  | text :: rest =>
    match operandsOnly, text.toList with
    | false, ['-', '-'] =>
      if waiting.isSome then .error .misuse else g.scan a none true rest
    | false, '-' :: '-' :: name => do
      if waiting.isSome then .error .misuse
      else
        let (a, waiting) ← g.long a (String.ofList name)
        g.scan a waiting false rest
    | false, '-' :: c :: letters => do
      if waiting.isSome then .error .misuse
      else
        let (a, waiting) ← g.short a (c :: letters)
        g.scan a waiting false rest
    | _, _ =>
      match waiting with
      | some o => do g.scan (← giveText a o text) none operandsOnly rest
      | none =>
        if !operandsOnly ∧ g.subcommands.contains text then
          .ok { a with subcommand := some (text, rest) }
        else do g.scan (← g.giveOperand a text) none operandsOnly rest

def isComplete (g : Grammar) (a : Arguments) : Bool :=
  g.needed.all a.has && (g.operands.drop a.operands.length).all (!·.required) &&
    (g.subcommands.isEmpty || a.subcommand.isSome)

def read (g : Grammar) (args : List String) : Except Stop Arguments := do
  let a ← g.scan {} none false args
  if g.isComplete a then .ok a else .error .misuse

end Grammar

/-- A text with blanks behind it up to a width. -/
def padded (width : Nat) (s : String) : String :=
  s ++ String.ofList (List.replicate (width - s.length) ' ')

def columns (heading : String) (rows : List (String × String)) : List String :=
  let width := (rows.map (·.1.length)).foldl max 0
  if rows.isEmpty then []
  else ["", heading ++ ":"] ++ rows.map fun (left, right) =>
    "  " ++ padded width left ++ "  " ++ right

namespace Opt

def usage (o : Opt) : String :=
  "--" ++ o.long ++ if o.value = "" then "" else " <" ++ o.value ++ ">"

def row (o : Opt) : String × String :=
  ((match o.short with
    | some c => String.ofList ['-', c, ',', ' ']
    | none => "    ") ++ o.usage, o.help)

end Opt

def Operand.usage (o : Operand) : String :=
  if o.required then "<" ++ o.name ++ ">" else "[" ++ o.name ++ "]"

namespace Grammar

def usage (g : Grammar) (name : String) : String :=
  let free := g.options.any fun o => !g.needed.contains o.long
  let parts := [name] ++ (if free then ["[OPTIONS]"] else []) ++
    (g.options.filter (g.needed.contains ·.long)).map Opt.usage ++
    g.operands.map Operand.usage ++ (if g.subcommands.isEmpty then [] else ["<COMMAND>"])
  "Usage: " ++ String.intercalate " " parts

/-- The lines of help on a command, with what there is to say about its subcommands. -/
def help (g : Grammar) (name : String) (subcommands : List (String × String)) : List String :=
  let standard : List Opt :=
    [{ long := "help", short := some 'h', arity := .flag, help := "Print help" }] ++
    if g.versioned then
      [{ long := "version", short := some 'V', arity := .flag, help := "Print version" }]
    else []
  [g.about, "", g.usage name] ++ columns "Commands" subcommands ++
    columns "Arguments" (g.operands.map fun o => (o.usage, o.help)) ++
    columns "Options" ((g.options ++ standard).map Opt.row)

end Grammar

end Flowgraph.CommandLine
