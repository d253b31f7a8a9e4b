/-!
# Options on a command line

A command has flags, which stand alone, and options, which take a value: the next
argument, or what follows an equals sign in the same one. A value in an argument of
its own does not start with a hyphen, unless it is just that. Nothing may be given
twice.

Arguments are read from left to right, up to the name of a subcommand if there is
one. A request for help or for the version is answered at once.
-/

namespace ColumnChecks.CommandLine

/-- A flag, or an option with a test for its values. -/
inductive OptionKind where
  | flag
  | value (accepts : String → Bool)

/-- The flags and options of a command, by name. -/
abbrev OptionKinds := List (String × OptionKind)

/-- The flags and options that are given, each with its value; that of a flag is
empty. -/
abbrev Given := List (String × String)

/-- What may keep arguments from being read. -/
inductive Stop where
  /-- The arguments make no sense. -/
  | misused
  | help
  | version
  deriving DecidableEq, Repr

/-- The value that is given for an option. -/
def given? (name : String) (found : Given) : Option String :=
  (found.find? fun entry => entry.1 == name).map (·.2)

/-- Whether a flag is given. -/
def isGiven (name : String) (found : Given) : Bool := (given? name found).isSome

/-- Whether an argument may be the value of an option before it. -/
def mayBeValue (argument : String) : Bool :=
  argument == "-" || argument.toList.head? != some '-'

/-- The name of a long option, and the value behind its equals sign if it has one. -/
def splitLong (cs : List Char) : String × Option String :=
  let value := cs.dropWhile (· != '=')
  (String.ofList (cs.takeWhile (· != '=')),
    if value.isEmpty then none else some (String.ofList (value.drop 1)))

/-- Record an option. -/
def record (found : Given) (name value : String) (accepts : String → Bool) :
    Except Stop Given :=
  if isGiven name found || !accepts value then .error .misused else .ok (found ++ [(name, value)])

/-- A command as far as its arguments are concerned. -/
structure Grammar where
  options : OptionKinds
  /-- Whether it answers to a request for the version. -/
  hasVersion : Bool
  subcommands : List String

namespace Grammar

/-- What a short option asks for. Of several letters the first one decides. -/
def short (grammar : Grammar) (letters : List Char) : Stop :=
  match letters with
  | 'h' :: _ => .help
  | 'V' :: _ => if grammar.hasVersion then .version else .misused
  | _ => .misused

/-- What a long option asks for that is not one of the command's own. -/
def special (grammar : Grammar) (name : String) (value : Option String) : Stop :=
  if value.isSome then .misused
  else if name = "help" then .help
  else if name = "version" ∧ grammar.hasVersion then .version
  else .misused

/-- The kind of an option. -/
def kind? (grammar : Grammar) (name : String) : Option OptionKind :=
  (grammar.options.find? fun entry => entry.1 == name).map (·.2)

/-- Read arguments: what is given, and the subcommand with the arguments behind
it. -/
def read (grammar : Grammar) (found : Given) :
    List String → Except Stop (Given × Option (String × List String))
  | [] => .ok (found, none)
  | argument :: rest =>
    if grammar.subcommands.contains argument then .ok (found, some (argument, rest))
    else
      match argument.toList with
      | ['-', '-'] => if rest.isEmpty then .ok (found, none) else .error .misused
      | '-' :: '-' :: text =>
        let (name, attached) := splitLong text
        match grammar.kind? name, attached, rest with
        | none, _, _ => .error (grammar.special name attached)
        | some .flag, some _, _ => .error .misused
        | some .flag, none, rest => do grammar.read (← record found name "" fun _ => true) rest
        | some (.value accepts), some value, rest => do
          grammar.read (← record found name value accepts) rest
        | some (.value _), none, [] => .error .misused
        | some (.value accepts), none, value :: rest =>
          if mayBeValue value then do grammar.read (← record found name value accepts) rest
          else .error .misused
      | '-' :: letter :: letters => .error (grammar.short (letter :: letters))
      | _ => .error .misused

end Grammar

end ColumnChecks.CommandLine
