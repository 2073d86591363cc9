import GatedResolver.Settings.Overlay

/-!
# Arguments of the command line

A command names the services to run together; without one all of them run. Options may
stand on both sides of the command, and one behind the command wins over one before it. On
one side no option may be repeated.
-/

namespace GatedResolver.CommandLine

/-- What to run. -/
inductive Command where
  | policy
  | cache
  | quorum
  | receipt
  | resolver
  | all
deriving DecidableEq

namespace Command

/-- The word for a command. -/
def word : Command → String
  | .policy => "policy"
  | .cache => "cache"
  | .quorum => "upstream"
  | .receipt => "receipt"
  | .resolver => "resolver"
  | .all => "all"

/-- All commands. -/
def list : List Command :=
  [.policy, .cache, .quorum, .receipt, .resolver, .all]

/-- The command of a word. -/
def ofWord? (word : String) : Option Command :=
  list.find? fun command => command.word = word

/-- The services that a command runs, in the order in which they start. -/
def services : Command → List Service
  | .policy => [.policy]
  | .cache => [.cache]
  | .quorum => [.quorum]
  | .receipt => [.receipt]
  | .resolver => [.doh, .dot]
  | .all => [.policy, .quorum, .cache, .receipt, .doh, .dot]

end Command

/-- What the options say. -/
structure Choices where
  settingsFile : Option String := none
  options : Options := {}
deriving DecidableEq

/-- A complete command line. -/
structure Invocation where
  command : Command
  choices : Choices
deriving DecidableEq

/-- What arguments ask for. -/
inductive Reading where
  | run (invocation : Invocation)
  | help
  | version
  | misuse
deriving DecidableEq

/-- An option with a value. -/
inductive Flag where
  | settingsFile
  | bind
  | dohListener
  | dotListener
  | receiptDirectory
  | logLevel
deriving DecidableEq

namespace Flag

/-- The long spelling of an option. -/
def long : Flag → String
  | .settingsFile => "config"
  | .bind => "bind"
  | .dohListener => "doh-port"
  | .dotListener => "dot-port"
  | .receiptDirectory => "receipt-dir"
  | .logLevel => "log-level"

/-- All options. -/
def list : List Flag :=
  [.settingsFile, .bind, .dohListener, .dotListener, .receiptDirectory, .logLevel]

/-- The option with a long spelling. -/
def ofLong? (long : String) : Option Flag :=
  list.find? fun flag => flag.long = long

/-- The option with a short spelling. -/
def ofShort? : Char → Option Flag
  | 'c' => some .settingsFile
  | 'b' => some .bind
  | _ => none

/-- Give an option a value. -/
def set (flag : Flag) (value : String) (choices : Choices) : Option Choices :=
  let options := choices.options
  let listener? := (Text.readDecimal? 65536 value).map UInt16.ofNat
  match flag with
  | .settingsFile => some { choices with settingsFile := some value }
  | .bind => some { choices with options := { options with bindAddress := some value } }
  | .dohListener =>
    listener?.map fun listener =>
      { choices with options := { options with dohListener := some listener } }
  | .dotListener =>
    listener?.map fun listener =>
      { choices with options := { options with dotListener := some listener } }
  | .receiptDirectory =>
    some { choices with options := { options with receiptDirectory := some value } }
  | .logLevel => some { choices with options := { options with logLevel := some value } }

end Flag

/-- How far the arguments were read: the choices, the command, and the options that were
met since the command, or since the start. -/
structure Progress where
  choices : Choices := {}
  command : Option Command := none
  met : List Flag := []

/-- Take an option with its value. -/
def Progress.take (progress : Progress) (flag : Flag) (value : String) : Option Progress :=
  if progress.met.contains flag then none
  else
    (flag.set value progress.choices).map fun choices =>
      { progress with choices := choices, met := flag :: progress.met }

/-- How one argument is to be read. -/
inductive Argument where
  | help
  | version
  /-- An option with its value in the same argument. -/
  | filled (flag : Flag) (value : String)
  /-- An option whose value is the next argument. -/
  | unfilled (flag : Flag)
  /-- Two dashes: no option stands behind them. -/
  | separator
  | word (text : String)
  | unknown

namespace Argument

/-- Read what stands behind two dashes. -/
def ofLong (body : List Char) : Argument :=
  let name := String.ofList (body.takeWhile (· ≠ '='))
  match body.dropWhile (· ≠ '=') with
  | '=' :: value =>
    match Flag.ofLong? name with
    | some flag => .filled flag (String.ofList value)
    | none => .unknown
  | _ =>
    if name = "help" then .help
    else if name = "version" then .version
    else
      match Flag.ofLong? name with
      | some flag => .unfilled flag
      | none => .unknown

/-- Read what stands behind one dash. -/
def ofShort : List Char → Argument
  | 'h' :: _ => .help
  | 'V' :: _ => .version
  | letter :: value =>
    match Flag.ofShort? letter, value with
    | some flag, [] => .unfilled flag
    | some flag, '=' :: rest => .filled flag (String.ofList rest)
    | some flag, rest => .filled flag (String.ofList rest)
    | none, _ => .unknown
  | [] => .unknown

/-- Read one argument. -/
def ofText (text : String) : Argument :=
  match text.toList with
  | ['-', '-'] => .separator
  | '-' :: '-' :: body => ofLong body
  | ['-'] => .word text
  | '-' :: body => ofShort body
  | _ => .word text

/-- Whether an argument can be the value of the option before it. -/
def isValue (text : String) : Bool :=
  match text.toList with
  | ['-'] => true
  | '-' :: _ => false
  | _ => true

end Argument

/-- What follows the word `help`. -/
def readHelp : List String → Reading
  | [] => .help
  | [word] => if (Command.ofWord? word).isSome || word = "help" then .help else .misuse
  | _ => .misuse

/-- What the arguments ask for once all of them are read. -/
def Progress.reading (progress : Progress) : Reading :=
  .run ⟨progress.command.getD .all, progress.choices⟩

/-- Read arguments from where they were read up to. -/
def readFrom (progress : Progress) : List String → Reading
  | [] => progress.reading
  | text :: rest =>
    match Argument.ofText text with
    | .help => .help
    | .version => if progress.command.isNone then .version else .misuse
    | .unknown => .misuse
    | .separator => if rest.isEmpty then progress.reading else .misuse
    | .filled flag value =>
      match progress.take flag value with
      | some next => readFrom next rest
      | none => .misuse
    | .unfilled flag =>
      match rest with
      | [] => .misuse
      | value :: behind =>
        if Argument.isValue value then
          match progress.take flag value with
          | some next => readFrom next behind
          | none => .misuse
        else .misuse
    | .word word =>
      if progress.command.isSome then .misuse
      else if word = "help" then readHelp rest
      else
        match Command.ofWord? word with
        | some command => readFrom { progress with command := some command, met := [] } rest
        | none => .misuse

/-- Read the arguments of the command line. -/
def read (arguments : List String) : Reading :=
  readFrom {} arguments

/-- What a program of some name prints when it is asked for its version. -/
def versionLine (program : String) : String :=
  program ++ " 0.1.0"

end GatedResolver.CommandLine
