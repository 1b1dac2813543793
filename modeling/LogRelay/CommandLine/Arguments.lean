import LogRelay.CommandLine.Switch
import LogRelay.Mode
import LogRelay.Text.Quoted

/-!
# Arguments

Arguments are read from left to right.  A value stands behind its switch or is
attached to it; help, the version and the first fault end the reading.
-/

namespace LogRelay

/-- What is wrong with a command line. -/
inductive UsageFault where
  | unknownSwitch (text : String)
  | unexpectedArgument (text : String)
  | missingValue (switch : Switch)
  | unexpectedValue (switch : Switch)
  | repeated (switch : Switch)
  | emptyPath (switch : Switch)
  | invalidMode (text : String)
  deriving DecidableEq, Repr

namespace UsageFault

def message : UsageFault → String
  | unknownSwitch text => "unknown option " ++ Text.quote text
  | unexpectedArgument text => "unexpected argument " ++ Text.quote text
  | missingValue switch => "a value is required for --" ++ switch.longName
  | unexpectedValue switch => "no value is allowed for --" ++ switch.longName
  | repeated switch => "--" ++ switch.longName ++ " cannot be used multiple times"
  | emptyPath switch => "a file name is required for --" ++ switch.longName
  | invalidMode text => "invalid mode " ++ Text.quote text

end UsageFault

/-- Why the reading ends before the last argument. -/
inductive CommandStop where
  | help
  | version
  | fault (fault : UsageFault)
  deriving DecidableEq, Repr

/-- How far the reading has come. -/
structure Arguments where
  /-- The switches that have been given, each with its value; flags have an
  empty one. -/
  given : List (Switch × String)
  /-- The switch whose value is the next argument. -/
  expecting : Option Switch
  /-- Behind `--` there are no switches. -/
  onlyValues : Bool
  deriving DecidableEq, Repr

namespace Arguments

def empty : Arguments :=
  ⟨[], none, false⟩

def value? (arguments : Arguments) (switch : Switch) : Option String :=
  arguments.given.lookup switch

def isGiven (arguments : Arguments) (switch : Switch) : Bool :=
  (arguments.value? switch).isSome

def checkValue (switch : Switch) (value : String) : Except CommandStop Unit :=
  match switch.valueKind? with
  | some .path => if value = "" then .error (.fault (.emptyPath switch)) else .ok ()
  | some .mode =>
    if (Mode.ofName? value).isNone then .error (.fault (.invalidMode value)) else .ok ()
  | _ => .ok ()

/-- No switch is given twice. -/
def give (arguments : Arguments) (switch : Switch) (value : String) :
    Except CommandStop Arguments := do
  if arguments.isGiven switch then
    .error (.fault (.repeated switch))
  else
    checkValue switch value
    return { arguments with given := (switch, value) :: arguments.given, expecting := none }

def expectValue (arguments : Arguments) (switch : Switch) : Arguments :=
  { arguments with expecting := some switch }

def giveFlag (arguments : Arguments) : Switch → Except CommandStop Arguments
  | .help => .error .help
  | .version => .error .version
  | flag => arguments.give flag ""

/-- A long name, perhaps with a value behind an equals sign. -/
def readLong (arguments : Arguments) (text : List Char) : Except CommandStop Arguments :=
  let name := String.ofList (text.takeWhile (· ≠ '='))
  match Switch.ofLongName? name, text.dropWhile (· ≠ '=') with
  | none, _ => .error (.fault (.unknownSwitch ("--" ++ name)))
  | some switch, [] =>
    if switch.valueKind?.isSome then .ok (arguments.expectValue switch) else arguments.giveFlag switch
  | some switch, _ :: value =>
    if switch.valueKind?.isSome then arguments.give switch (String.ofList value)
    else .error (.fault (.unexpectedValue switch))

/-- Letters behind one hyphen.  What follows a letter that takes a value is the
value, perhaps behind an equals sign. -/
def readLetters (arguments : Arguments) : List Char → Except CommandStop Arguments
  | [] => .ok arguments
  | letter :: rest =>
    match Switch.ofLetter? letter with
    | none => .error (.fault (.unknownSwitch (String.ofList ['-', letter])))
    | some switch =>
      if switch.valueKind?.isSome then
        match rest with
        | [] => .ok (arguments.expectValue switch)
        | '=' :: value => arguments.give switch (String.ofList value)
        | value => arguments.give switch (String.ofList value)
      else do
        let arguments ← arguments.giveFlag switch
        arguments.readLetters rest

/-- A hyphen with something behind it; a hyphen alone is a value. -/
def looksLikeSwitch : List Char → Bool
  | '-' :: _ :: _ => true
  | _ => false

def readNext (arguments : Arguments) (text : String) : Except CommandStop Arguments :=
  match arguments.expecting with
  | some switch =>
    if looksLikeSwitch text.toList then .error (.fault (.missingValue switch))
    else arguments.give switch text
  | none =>
    if arguments.onlyValues then .error (.fault (.unexpectedArgument text))
    else
      match text.toList with
      | ['-', '-'] => .ok { arguments with onlyValues := true }
      | '-' :: '-' :: long => arguments.readLong long
      | '-' :: letter :: letters => arguments.readLetters (letter :: letters)
      | _ => .error (.fault (.unexpectedArgument text))

/-- All arguments. -/
def read (texts : List String) : Except CommandStop Arguments := do
  let arguments ← texts.foldlM readNext empty
  match arguments.expecting with
  | some switch => .error (.fault (.missingValue switch))
  | none => return arguments

end Arguments

end LogRelay
