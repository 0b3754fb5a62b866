/-!
# Command-line arguments

An interface lists the parameters of a command: options with a value, flags, and how many arguments without a name there
are. `Interface.read?` sorts the arguments out. Options are written `--name value`, `--name=value`, `-n value`,
`-nvalue` or `-n=value`, flags of one letter may be joined, and behind `--` nothing is an option. A value of its own
must not look like an option.
-/

namespace WordRecords.Command

/-- What a parameter is for. -/
inductive Use
  /-- It is a flag, to be given once at most. -/
  | flag
  /-- It is a flag that may be repeated. -/
  | count
  /-- It has a value, to be given once at most. -/
  | value
  /-- It has a value and may be repeated. -/
  | values
deriving DecidableEq

/-- A named parameter. -/
structure Parameter where
  /-- The name behind two hyphens. -/
  long : String
  /-- The letter behind one hyphen. -/
  short : Option Char
  use : Use

/-- Whether a parameter has a value. -/
def Parameter.takesValue (p : Parameter) : Bool := p.use = .value || p.use = .values

/-- The parameters of a command. -/
structure Interface where
  /-- The named ones. -/
  parameters : List Parameter
  /-- The number of arguments without a name. -/
  positional : Nat

/-- An argument that was sorted out. -/
inductive Argument
  | flag (long : String)
  /-- An option with its value. -/
  | value (long : String) (value : String)
  /-- An argument without a name. -/
  | plain (value : String)
deriving DecidableEq

namespace Interface

def named? (i : Interface) (long : String) : Option Parameter := i.parameters.find? (·.long == long)

def lettered? (i : Interface) (short : Char) : Option Parameter := i.parameters.find? (·.short == some short)

/-- The parts of a text before and behind its first equals sign, if it has one. -/
def splitEquals : List Char → List Char × Option (List Char)
  | [] => ([], none)
  | c :: rest =>
    if c = '=' then ([], some rest)
    else
      let (before, behind) := splitEquals rest
      (c :: before, behind)

/-- An option that waits for its value, if any, and the arguments that were sorted out. -/
abbrev Found := Option Parameter × List Argument

/-- What an argument behind two hyphens is. -/
def readLong (i : Interface) (cs : List Char) : Option Found :=
  let (name, attached) := splitEquals cs
  match i.named? (String.ofList name), attached with
  | none, _ => none
  | some p, none => if p.takesValue then some (some p, []) else some (none, [.flag p.long])
  | some p, some value => if p.takesValue then some (none, [.value p.long (String.ofList value)]) else none

/-- What letters behind one hyphen are. The first letter of an option with a value makes the rest its value. -/
def readShort (i : Interface) : List Char → Option Found
  | [] => some (none, [])
  | c :: rest =>
    match i.lettered? c with
    | none => none
    | some p =>
      if p.takesValue then
        match rest with
        | [] => some (some p, [])
        | '=' :: value => some (none, [.value p.long (String.ofList value)])
        | value => some (none, [.value p.long (String.ofList value)])
      else (readShort i rest).map fun (waiting, found) => (waiting, .flag p.long :: found)

/-- Whether an argument looks like an option. A single hyphen does not. -/
def looksNamed (arg : String) : Bool :=
  match arg.toList with
  | '-' :: _ :: _ => true
  | _ => false

/-- Sorts arguments out, where an option may wait for its value. -/
def readFrom (i : Interface) : Option Parameter → List String → Option (List Argument)
  | none, [] => some []
  | some _, [] => none
  | some p, arg :: rest =>
    if looksNamed arg then none
    else (readFrom i none rest).map (.value p.long arg :: ·)
  | none, arg :: rest =>
    match arg.toList with
    | ['-', '-'] => some (rest.map .plain)
    | '-' :: '-' :: name => do
      let (waiting, found) ← i.readLong name
      let later ← readFrom i waiting rest
      pure (found ++ later)
    | '-' :: c :: letters => do
      let (waiting, found) ← i.readShort (c :: letters)
      let later ← readFrom i waiting rest
      pure (found ++ later)
    | _ => (readFrom i none rest).map (.plain arg :: ·)

end Interface

/-! ### Looking up arguments -/

/-- The arguments of a command, sorted out. -/
abbrev Arguments := List Argument

namespace Arguments

/-- The values of an option, in order. -/
def valuesOf (args : Arguments) (long : String) : List String :=
  args.filterMap fun
    | .value name value => if name = long then some value else none
    | _ => none

/-- How often a flag is given. -/
def countOf (args : Arguments) (long : String) : Nat := args.count (.flag long)

def plain (args : Arguments) : List String :=
  args.filterMap fun
    | .plain value => some value
    | _ => none

/-- The value of an option that is given at most once. -/
def valueOf (args : Arguments) (long : String) : Option String := (args.valuesOf long).head?

def has (args : Arguments) (long : String) : Bool := args.countOf long != 0

/-- Whether a parameter is given as often as it may be. -/
def allows (args : Arguments) (p : Parameter) : Bool :=
  match p.use with
  | .flag => decide (args.countOf p.long ≤ 1)
  | .value => decide ((args.valuesOf p.long).length ≤ 1)
  | .count | .values => true

end Arguments

/-- The arguments of a command, if they fit its interface. -/
def Interface.read? (i : Interface) (args : List String) : Option Arguments := do
  let found ← i.readFrom none args
  if i.parameters.all (Arguments.allows found) && decide ((Arguments.plain found).length = i.positional) then some found
  else none

end WordRecords.Command
