import CommandShell.Text.Basic

/-!
# Flags

Arguments that hold switches, options with a value, and positional arguments are read
from left to right into a record of settings.

* A switch or option has to be spelled exactly; an option takes the next argument as its
  value, whatever that is.
* After `--` every argument is positional.  A positional argument may end the options as
  well, so that a tail of file names is taken as it stands.
* `--help` or `help` asks for the usage text, which is given once all is read; no option
  may follow it.

What the options are, and which positional arguments are taken, is a `Flags.Grammar`.
-/

namespace CommandShell.Flags

/-- Why arguments could not be read. -/
inductive FlagError where
  /-- An argument that is no option, or a positional one too many. -/
  | unrecognized (argument : Text)
  /-- An option at the end of the arguments, without its value. -/
  | noValue (option : Text)
  /-- An option with a value it does not take. -/
  | badValue (option : Text) (value : Text) (reason : Text)
  /-- An option after a request for help. -/
  | trailingAfterHelp
  /-- Positional arguments that are not there. -/
  | missingPositionals (names : List Text)
  /-- Help was asked for: the usage text. -/
  | help (usage : Text)
deriving Repr, DecidableEq

/-- The wording of a fault of the arguments, as a command line shows it. -/
def FlagError.message : FlagError → Text
  | .unrecognized argument => Text.line ("Unrecognized argument: ".toList ++ argument)
  | .noValue option =>
    Text.line ("No value provided for option '".toList ++ option ++ "'.".toList)
  | .badValue option value reason =>
    Text.line ("Error parsing option '".toList ++ option ++ "' with value '".toList ++ value ++
      "': ".toList ++ reason)
  | .trailingAfterHelp => "Trailing arguments are not allowed after `help`.".toList
  | .missingPositionals names =>
    Text.line "Required positional arguments not provided:".toList ++
      names.flatMap (fun name => Text.line ("    ".toList ++ name))
  | .help usage => usage

/-- What an option does to the settings read so far. -/
inductive Action (σ : Type) where
  /-- A switch, which may be given more than once. -/
  | switch (set : σ → σ)
  /-- An option with a value; the fault is its reason. -/
  | value (set : σ → Text → Except Text σ)

/-- What arguments there are, for settings of type `σ`. -/
structure Grammar (σ : Type) where
  /-- The spellings of the options. -/
  options : List (Text × Action σ)
  /-- Take a positional argument, and say whether it ends the options. -/
  positional : σ → Text → Option (σ × Bool)
  /-- The usage text. -/
  usage : Text

variable {σ : Type}

/-- A request for help. -/
def isHelp (argument : Text) : Bool :=
  argument = "--help".toList || argument = "help".toList

/-- Read on from the settings read so far.  `help` says that help was asked for, and
`ended` that every argument is positional.  The result says whether help was asked for. -/
def readFrom (g : Grammar σ) : Bool → Bool → σ → List Text → Except FlagError (Bool × σ)
  | help, _, s, [] => .ok (help, s)
  | help, ended, s, a :: rest =>
    if !ended && isHelp a then readFrom g true ended s rest
    else if !ended && a.head? == some '-' then
      if a = "--".toList then readFrom g help true s rest
      else if help then .error .trailingAfterHelp
      else match g.options.lookup a with
        | none => .error (.unrecognized a)
        | some (.switch set) => readFrom g help ended (set s) rest
        | some (.value set) =>
          match rest with
          | [] => .error (.noValue a)
          | v :: rest' =>
            match set s v with
            | .error reason => .error (.badValue a v reason)
            | .ok s' => readFrom g help ended s' rest'
    else match g.positional s a with
      | none => .error (.unrecognized a)
      | some (s', ends) => readFrom g help (ended || ends) s' rest

/-- Read all arguments, starting from the given settings. -/
def read (g : Grammar σ) (s : σ) (arguments : List Text) : Except FlagError σ :=
  match readFrom g false false s arguments with
  | .error e => .error e
  | .ok (true, _) => .error (.help g.usage)
  | .ok (false, s') => .ok s'

/-- Fill a place that may be filled only once. -/
def once {α : Type} (place : Option α) (value : Except Text α) : Except Text (Option α) :=
  match place with
  | some _ => .error "duplicate values provided".toList
  | none => value.map some

end CommandShell.Flags
