import BookFilter.Run
import BookFilter.Text.ControlSequence

/-! # The command line

Without arguments the command answers a request on standard input. It can also be asked whether a
renderer is supported, and for help. Arguments are looked at from the left, and the first that does
not fit is reported. -/

namespace BookFilter

/-- The pages of help. -/
inductive HelpPage where
  | brief
  | full
  | supports
  | help
deriving DecidableEq, Repr

/-- Arguments that do not fit. -/
inductive UsageFault where
  | unknownCommand (word : String)
  | unexpectedArgument (word : String)
  | unexpectedValue (value option : String)
  | missingRenderer
deriving DecidableEq, Repr

/-- What the command is asked to do. -/
inductive Command where
  | answer
  | supports (renderer : String)
  | showHelp (page : HelpPage)
deriving DecidableEq, Repr

/-- What a run of the program shows. -/
structure Response where
  code : UInt32
  stdout : String
  stderr : String

/-- The wording of a fault in the arguments. What was given is shown without control sequences. -/
def UsageFault.message : UsageFault → String
  | unknownCommand word => s!"unrecognized subcommand '{Text.withoutControls word}'"
  | unexpectedArgument word => s!"unexpected argument '{Text.withoutControls word}' found"
  | unexpectedValue value option =>
      s!"unexpected value '{Text.withoutControls value}' for '{option}' found; "
        ++ "no more were expected"
  | missingRenderer => "the following required arguments were not provided:"

namespace HelpPage

/-- The lines that both pages on the command as a whole have. -/
def commandLines : List String := [
  "",
  "Usage: mdbook-niri-docs [COMMAND]",
  "",
  "Commands:",
  "  supports  Exits with 0 if the renderer gets badges, 1 otherwise",
  "  help      Print this message or the help of the given subcommand(s)",
  "",
  "Options:"]

/-- The lines of a page. -/
def lines : HelpPage → List String
  | brief =>
      "Strips ,must-fail from code fences and turns <sup>Since/Until</sup> into release badges"
        :: commandLines ++ ["  -h, --help  Print help (see more with '--help')"]
  | full =>
      "Called by mdbook with the book as JSON on stdin; the rewritten book is written to stdout."
        :: commandLines ++ ["  -h, --help", "          Print help (see a summary with '-h')"]
  | supports => [
      "Exits with 0 if the renderer gets badges, 1 otherwise",
      "",
      "Usage: mdbook-niri-docs supports <renderer>",
      "",
      "Arguments:",
      "  <renderer>  ",
      "",
      "Options:",
      "  -h, --help  Print help"]
  | help => [
      "Print this message or the help of the given subcommand(s)",
      "",
      "Usage: mdbook-niri-docs help [COMMAND]...",
      "",
      "Arguments:",
      "  [COMMAND]...  Print help for the subcommand(s)"]

/-- A page as text; every line is ended. -/
def text (page : HelpPage) : String :=
  String.join (page.lines.map (· ++ "\n"))

end HelpPage

namespace Command

/-- An option as written. -/
inductive Flag where
  | short (name : Char)
  | long (name : String) (value : Option String)
deriving DecidableEq, Repr

/-- An argument by its form. -/
inductive Argument where
  /-- Two hyphens; what follows is no option. -/
  | separator
  | flag (flag : Flag)
  | word
deriving DecidableEq, Repr

/-- The form of an argument. A lone hyphen is a word, and of several short options in one argument
the first one counts. -/
def Argument.ofString (argument : String) : Argument :=
  match argument.toList with
  | ['-', '-'] => .separator
  | '-' :: '-' :: name =>
      let value := match name.dropWhile (· ≠ '=') with
        | [] => none
        | _ :: value => some (String.ofList value)
      .flag (.long (String.ofList (name.takeWhile (· ≠ '='))) value)
  | '-' :: name :: _ => .flag (.short name)
  | _ => .word

/-- What an option asks for; the only option is the one for help, with a page for the short
spelling and one for the long. -/
def ofFlag (first second : HelpPage) : Flag → Except UsageFault Command
  | .short name =>
      if name = 'h' then .ok (.showHelp first)
      else .error (.unexpectedArgument ("-" ++ name.toString))
  | .long name value =>
      if name = "help" then
        match value with
        | none => .ok (.showHelp second)
        | some value => .error (.unexpectedValue value "--help")
      else .error (.unexpectedArgument ("--" ++ name))

/-- Reads the arguments of `supports`; `plain` says that no more options can come. -/
def readSupports (plain : Bool) (renderer : Option String) :
    List String → Except UsageFault Command
  | [] =>
      match renderer with
      | some renderer => .ok (.supports renderer)
      | none => .error .missingRenderer
  | argument :: arguments =>
      let form := if plain then .word else Argument.ofString argument
      match form with
      | .separator => readSupports true renderer arguments
      | .word =>
          match renderer with
          | some _ => .error (.unexpectedArgument argument)
          | none => readSupports plain (some argument) arguments
      | .flag flag => ofFlag .supports .supports flag

/-- Reads the arguments of `help`, which name a page. -/
def readHelp : List String → Except UsageFault Command
  | [] => .ok (.showHelp .full)
  | topic :: others =>
      let page := match topic with
        | "supports" => some HelpPage.supports
        | "help" => some HelpPage.help
        | _ => none
      match page, others with
      | none, _ => .error (.unknownCommand topic)
      | some page, [] => .ok (.showHelp page)
      | some _, other :: _ => .error (.unknownCommand other)

/-- The names of the commands. -/
def commandNames : List String := ["supports", "help"]

/-- Reads the arguments of the program. No command can follow a separator. -/
def read : List String → Except UsageFault Command
  | [] => .ok .answer
  | argument :: arguments =>
      match Argument.ofString argument with
      | .separator =>
          match arguments with
          | [] => .ok .answer
          | word :: _ =>
              if commandNames.contains word then .error (.unexpectedArgument word)
              else .error (.unknownCommand word)
      | .word =>
          if argument = "supports" then readSupports false none arguments
          else if argument = "help" then readHelp arguments
          else .error (.unknownCommand argument)
      | .flag flag => ofFlag .brief .full flag

/-- What is shown of the causes of a fault; they are numbered if there are several. -/
def describeCauses : List String → String
  | [] => ""
  | [cause] => s!"\n\nCaused by:\n    {cause}"
  | causes => "\n\nCaused by:" ++ String.join (causes.mapIdx fun i cause => s!"\n    {i}: {cause}")

/-- What the answer to a request shows. -/
def respondRun (stdin : ByteArray) : Response :=
  match (run stdin).result with
  | .ok text => ⟨0, text, ""⟩
  | .error .configNotTable => ⟨101, "", RunFault.configNotTable.message ++ "\n"⟩
  | .error fault =>
      match fault.messages with
      | [] => ⟨1, "", "Error:\n"⟩
      | outermost :: causes => ⟨1, "", s!"Error: {outermost}" ++ describeCauses causes ++ "\n"⟩

/-- What the program shows for its arguments and standard input. -/
def respond (arguments : List String) (stdin : ByteArray) : Response :=
  match read arguments with
  | .ok .answer => respondRun stdin
  | .ok (.supports renderer) => ⟨if Preprocessor.supports renderer then 0 else 1, "", ""⟩
  | .ok (.showHelp page) => ⟨0, page.text, ""⟩
  | .error fault => ⟨2, "", s!"error: {fault.message}\n"⟩

/-- Whether the arguments ask for standard input to be read. -/
def readsStdin (arguments : List String) : Bool :=
  match read arguments with
  | .ok .answer => true
  | _ => false

end Command

end BookFilter
