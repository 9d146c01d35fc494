/-!
# Options of a command line

An option has a long name after two dashes and perhaps a short one after one dash. Short names can
be run together; a value stands behind its option as an argument of its own, or joined to it. Each
option can be given once, and its value has to be acceptable.
-/

namespace Switchboard.CommandLine

/-- What an option is about. -/
inductive OptionName
  | config
  | verbose
  | port
  | server
  | count
  | notice
  | generate
  | output
  | help
  | version
  deriving DecidableEq, Repr

/-- An option. -/
structure OptionSpec where
  name : OptionName
  short : Option Char
  long : String
  /-- The word for the value; none if the option takes no value. -/
  value : Option String
  about : String
  accepts : String → Bool

namespace OptionSpec

/-- An option without a value. -/
def flag (name : OptionName) (short : Option Char) (long about : String) : OptionSpec :=
  ⟨name, short, long, none, about, fun _ => true⟩

/-- An option with a value. -/
def valued (name : OptionName) (short : Option Char) (long value about : String)
    (accepts : String → Bool) : OptionSpec :=
  ⟨name, short, long, some value, about, accepts⟩

/-- Whether the option ends the reading of the command line. -/
def stops (o : OptionSpec) : Bool :=
  o.name = .help || o.name = .version

end OptionSpec

/-- The options that were given, with their values; an option without one has an empty one. -/
abbrev Given : Type :=
  List (OptionName × String)

/-- Adds an option. -/
def give? (given : Given) (o : OptionSpec) (v : String) : Option Given :=
  if (given.lookup o.name).isSome || !o.accepts v then none else some (given ++ [(o.name, v)])

/-- What reading arguments comes to. -/
inductive Outcome
  /-- All arguments are read. -/
  | finished (given : Given)
  /-- An argument that is no option, and the arguments behind it. -/
  | word (given : Given) (word : String) (rest : List String)
  /-- An option that ends the reading. -/
  | stopped (name : OptionName)
  | wrong

/-- What short options that are run together come to: an option may still lack its value. -/
inductive Shorts
  | read (given : Given) (pending : Option OptionSpec)
  | stopped (name : OptionName)
  | wrong

/-- Reads short options that are run together. -/
def readShorts (options : List OptionSpec) : Given → List Char → Shorts
  | given, [] => .read given none
  | given, c :: rest =>
    match options.find? fun o => o.short = some c with
    | none => .wrong
    | some o =>
      if o.stops then .stopped o.name
      else
        match o.value, rest with
        | none, _ =>
          match give? given o "" with
          | some given => readShorts options given rest
          | none => .wrong
        | some _, [] => .read given (some o)
        | some _, c :: more =>
          match give? given o (String.ofList (if c = '=' then more else c :: more)) with
          | some given => .read given none
          | none => .wrong

/-- Reads a long option, which may have a value behind an equals sign. -/
def readLong (options : List OptionSpec) (given : Given) (cs : List Char) : Shorts :=
  let name := String.ofList (cs.takeWhile (· ≠ '='))
  match options.find? fun o => o.long = name with
  | none => .wrong
  | some o =>
    match o.value, cs.dropWhile (· ≠ '=') with
    | none, [] =>
      if o.stops then .stopped o.name
      else
        match give? given o "" with
        | some given => .read given none
        | none => .wrong
    | none, _ :: _ => .wrong
    | some _, [] => .read given (some o)
    | some _, _ :: v =>
      match give? given o (String.ofList v) with
      | some given => .read given none
      | none => .wrong

/-- Whether an argument looks like an option. A dash alone does not. -/
def looksLikeOption (argument : String) : Bool :=
  match argument.toList with
  | '-' :: _ :: _ => true
  | _ => false

/-- Reads arguments up to the first one that is no option; `pending` still lacks its value. Two
dashes alone end the options, and nothing may follow them. -/
def readOptions (options : List OptionSpec) :
    Given → (pending : Option OptionSpec) → List String → Outcome
  | given, none, [] => .finished given
  | _, some _, [] => .wrong
  | given, some o, a :: rest =>
    if looksLikeOption a then .wrong
    else
      match give? given o a with
      | some given => readOptions options given none rest
      | none => .wrong
  | given, none, a :: rest =>
    if a = "--" then if rest.isEmpty then .finished given else .wrong
    else if !looksLikeOption a then .word given a rest
    else
      let shorts := match a.toList with
        | '-' :: '-' :: cs => readLong options given cs
        | cs => readShorts options given cs.tail
      match shorts with
      | .read given pending => readOptions options given pending rest
      | .stopped name => .stopped name
      | .wrong => .wrong

end Switchboard.CommandLine
