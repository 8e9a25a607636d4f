import Playthrough.Preferences
import Playthrough.Text.DecimalDigit

/-!
Contract: the arguments of the launcher.

Owns: the flags with their spellings, the kinds of argument, and the reading of a list of arguments.

A flag may be spelled by a beginning of its long name that no other flag shares. A value is the next
argument or stands behind an equals sign. Arguments are read from left to right: the first mistake
ends the reading, and so does the question for help; an argument that nothing takes is a mistake
that counts only at the end. An ambiguous spelling is a mistake before anything is read.
-/

namespace Playthrough.Launcher

/-- What can be asked for. -/
inductive Flag where
  | help
  | dataFolder
  | pacing
  | language
  | port
  | noReload
deriving DecidableEq, Repr

/-- The spellings of the flags in full. -/
def spellings : List (String × Flag) :=
  [ ("-h", .help),
    ("--help", .help),
    ("--data-dir", .dataFolder),
    ("--pacing", .pacing),
    ("--language", .language),
    ("--port", .port),
    ("--no-reload", .noReload) ]

/-- Whether a flag has a value. -/
def Flag.takesValue : Flag → Bool
  | .help => false
  | .noReload => false
  | _ => true

/-- What was asked for. -/
structure Options where
  dataFolder : Option String
  pacing : Option Pacing
  language : Option Language
  port : Option String
  reload : Bool
deriving DecidableEq, Repr

/-- Nothing in particular was asked for. -/
def Options.none : Options :=
  { dataFolder := .none, pacing := .none, language := .none, port := .none, reload := true }

/-- What a list of arguments comes to. -/
inductive Reading where
  | options (options : Options)
  | help
  | rejected
deriving DecidableEq, Repr

/-! ## Kinds of argument -/

/-- An argument by its form. -/
inductive Argument where
  /-- A value, or something that nothing takes. -/
  | plain (text : String)
  /-- A mark after which everything is plain. -/
  | separator
  /-- A flag, with the value that stands behind an equals sign. -/
  | flag (flag : Flag) (attached : Option String)
  /-- The short spelling of the question for help, with more behind it. -/
  | shortHelp (tail : List Char)
  /-- Something that looks like a flag. -/
  | unknown
  /-- A beginning of several flags. -/
  | ambiguous
deriving DecidableEq, Repr

/-- The part before the first equals sign, and the part behind it if there is one. -/
def splitAtEquals (characters : List Char) : List Char × Option (List Char) :=
  match characters.dropWhile (· ≠ '=') with
  | [] => (characters, none)
  | _ :: value => (characters.takeWhile (· ≠ '='), some value)

/-- The flag of a full spelling. -/
def flagOf? (spelling : List Char) : Option Flag :=
  (spellings.find? fun known => known.1.toList == spelling).map Prod.snd

/-- The flags whose spelling begins so. -/
def flagsFrom (beginning : List Char) : List Flag :=
  (spellings.filter fun known => beginning.isPrefixOf known.1.toList).map Prod.snd

/-- Whether there are digits and nothing else. -/
def isDigits (characters : List Char) : Bool :=
  !characters.isEmpty && characters.all Text.isDecimalDigit

/-- Whether a text behind a minus sign makes a number, whole or with digits behind a point. A line
feed may end it. -/
def isNumeral (characters : List Char) : Bool :=
  let line := if characters.getLast? = some '\n' then characters.dropLast else characters
  isDigits line
    || match line.dropWhile Text.isDecimalDigit with
      | '.' :: rest => isDigits rest
      | _ => false

/-- The kind of an argument that starts with a minus sign and spells no flag in full. `rest` is what
stands behind the sign. -/
def kindOfDashed (rest : List Char) (text : String) : Argument :=
  if rest.head? = some 'h' then .shortHelp (rest.drop 1)
  else
    let (beginning, value) := splitAtEquals ('-' :: rest)
    let candidates := if rest.head? = some '-' then flagsFrom beginning else []
    match candidates with
    | [flag] => .flag flag (value.map String.ofList)
    | _ :: _ :: _ => .ambiguous
    | [] => if isNumeral rest ∨ ' ' ∈ rest then .plain text else .unknown

/-- The kind of an argument. -/
def kindOf (text : String) : Argument :=
  match text.toList with
  | [] => .plain text
  | ['-'] => .plain text
  | '-' :: rest =>
      let (spelling, value) := splitAtEquals ('-' :: rest)
      match flagOf? ('-' :: rest), flagOf? spelling with
      | some flag, _ => .flag flag none
      | none, some flag => .flag flag (value.map String.ofList)
      | none, none => kindOfDashed rest text
  | _ => .plain text

/-- The kinds of all arguments. -/
def kindsOf : List String → List Argument
  | [] => []
  | "--" :: rest => .separator :: rest.map Argument.plain
  | text :: rest => kindOf text :: kindsOf rest

/-! ## Reading -/

/-- Whether help is answered in spite of what stands behind its short spelling. -/
def helpDespite : List Char → Bool
  | [] => true
  | 'h' :: rest => helpDespite rest
  | '-' :: _ => false
  | '=' :: _ => false
  | _ => true

/-- The options with one more value, if it is one of those that the flag takes. -/
def Options.set? (options : Options) (flag : Flag) (value : String) : Option Options :=
  match flag with
  | .dataFolder => some { options with dataFolder := some value }
  | .pacing => (Pacing.ofName? value).map fun pacing => { options with pacing := some pacing }
  | .language =>
      (Language.ofName? value).map fun language => { options with language := some language }
  | .port => some { options with port := some value }
  | .help => .none
  | .noReload => .none

/-- Reads arguments, with the options read before them. `stray` tells whether something was left
that nothing takes. -/
def readFrom (options : Options) (stray : Bool) : List Argument → Reading
  | [] => if stray then .rejected else .options options
  | .plain _ :: rest => readFrom options true rest
  | .separator :: rest => readFrom options true rest
  | .unknown :: rest => readFrom options true rest
  | .ambiguous :: _ => .rejected
  | .shortHelp tail :: _ => if helpDespite tail then .help else .rejected
  | .flag .help .none :: _ => .help
  | .flag .noReload .none :: rest => readFrom { options with reload := false } stray rest
  | .flag flag (some value) :: rest =>
      match options.set? flag value with
      | some options => readFrom options stray rest
      | .none => .rejected
  | .flag flag .none :: .plain value :: rest =>
      match options.set? flag value with
      | some options => readFrom options stray rest
      | .none => .rejected
  | .flag _ .none :: _ => .rejected

/-- Reads the arguments of the launcher. -/
def read (arguments : List String) : Reading :=
  let kinds := kindsOf arguments
  if kinds.contains .ambiguous then .rejected else readFrom .none false kinds

end Playthrough.Launcher
