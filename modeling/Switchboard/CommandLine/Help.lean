import Switchboard.CommandLine.Command

/-!
# Help

The texts that describe the command line: what it is about, how it is used, and a line for each
command and each option, the descriptions below each other.
-/

namespace Switchboard.CommandLine

/-- The name under which the program is run. -/
def programName : String :=
  "msgproc"

def programVersion : String :=
  "0.1.0"

def programAbout : String :=
  "Serve and probe ID-framed messages over TCP"

def helpAbout : String :=
  "Print this message or the help of the given subcommand(s)"

/-- A text with blanks behind it up to a width. -/
def padRight (width : Nat) (s : String) : String :=
  s ++ String.ofList (List.replicate (width - s.length) ' ')

/-- A text with blanks in front of it up to a width. -/
def padLeft (width : Nat) (s : String) : String :=
  String.ofList (List.replicate (width - s.length) ' ') ++ s

/-- Lines with two columns under a heading. -/
def columns (heading : String) (rows : List (String × String)) : List String :=
  let width := (rows.map fun r => r.1.length).foldl max 0
  heading :: rows.map fun r => "  " ++ padRight width r.1 ++ "  " ++ r.2

/-- An option with its names and the word for its value. -/
def OptionSpec.usage (o : OptionSpec) : String :=
  let short := match o.short with
    | some c => String.ofList ['-', c, ',', ' ']
    | none => "    "
  let value := match o.value with
    | some v => " <" ++ v ++ ">"
    | none => ""
  short ++ "--" ++ o.long ++ value

/-- Common options and own ones in turns, as they are listed: those at the same place in the order
of their letters. -/
def interleave : (common own : List OptionSpec) → List OptionSpec
  | [], own => own
  | common, [] => common
  | a :: common, b :: own =>
    let first := (a.short.map Char.toNat).getD 128
    let second := (b.short.map Char.toNat).getD 128
    (if second < first then [b, a] else [a, b]) ++ interleave common own

def optionRows (options : List OptionSpec) : List (String × String) :=
  options.map fun o => (o.usage, o.about)

/-- The lines of a list of commands. -/
def commandLines : List String :=
  columns "Commands:" (CommandName.all.map (fun c => (c.text, c.about)) ++ [(helpCommand, helpAbout)])

/-- The help on a topic, line by line. -/
def Topic.lines : Topic → List String
  | .program =>
    [programAbout, "", s!"Usage: {programName} [OPTIONS] <COMMAND>", ""]
      ++ commandLines ++ [""] ++ columns "Options:" (optionRows topOptions)
  | .command c =>
    [c.about, "", s!"Usage: {programName} {c.text} [OPTIONS]", ""]
      ++ columns "Options:" (optionRows (interleave commonOptions c.ownOptions ++ [helpOption]))
  | .help =>
    [helpAbout, "", s!"Usage: {programName} {helpCommand} [COMMAND]", ""] ++ commandLines

/-- Lines with a line end behind each. -/
def unlines (lines : List String) : String :=
  String.join (lines.map (· ++ "\n"))

def Topic.text (t : Topic) : String :=
  unlines t.lines

def versionText : String :=
  unlines [s!"{programName} {programVersion}"]

end Switchboard.CommandLine
