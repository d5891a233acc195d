import Switchboard.CommandLine.Setting

/-
This file reads the arguments and the environment of a process into its configuration.
-/

namespace Switchboard.CommandLine

/-- A setting that was given keeps its value. -/
abbrev Given : Type := List (Setting × Value)

def isGiven (given : Given) (setting : Setting) : Bool :=
  given.any fun entry => entry.1 = setting

/-- A setting is given once at most, and its value is looked at after that. -/
def give (given : Given) (setting : Setting) (raw : String) : Except Stop Given :=
  if isGiven given setting then .error .repeated
  else
    match setting.read raw with
    | .ok value => .ok (given ++ [(setting, value)])
    | .error stop => .error stop

/-- An option waits for its value, and its value waits for the next option or the end. -/
inductive Pending where
  | nothing
  | option (setting : Setting)
  | value (setting : Setting) (raw : String)
  deriving DecidableEq, Repr

def conclude (given : Given) : Pending → Except Stop Given
  | .nothing => .ok given
  | .option _ => .error .missingValue
  | .value setting raw => give given setting raw

/-- An argument is an option with or without a value, a group of letters, or neither. -/
inductive Argument where
  | separator
  | long (name : String) (value : Option String)
  | short (letters : List Char)
  | plain (text : String)
  deriving DecidableEq, Repr

/-- The first equals sign ends the name of an option. -/
def splitOption (characters : List Char) : Argument :=
  let name := String.ofList (characters.takeWhile (· ≠ '='))
  match characters.dropWhile (· ≠ '=') with
  | _ :: value => .long name (some (String.ofList value))
  | [] => .long name none

def Argument.read (text : String) : Argument :=
  match text.toList with
  | ['-', '-'] => .separator
  | '-' :: '-' :: rest => splitOption rest
  | '-' :: letter :: letters => .short (letter :: letters)
  | _ => .plain text

/-- A question is answered after the option before it is concluded. -/
def ask (given : Given) (pending : Pending) (question : Stop) : Stop :=
  match conclude given pending with
  | .ok _ => question
  | .error stop => stop

/--
An argument that no option explains is reported even if the option before it has a wrong value or
none. In every other case the option before an argument is concluded first.
-/
def scan (given : Given) (pending : Pending) : List Argument → Except Stop Given
  | [] => conclude given pending
  | .separator :: rest => if rest = [] then conclude given pending else .error .unknownArgument
  | .plain text :: rest =>
    match pending with
    | .option setting => scan given (.value setting text) rest
    | _ => .error .unknownArgument
  | .short letters :: _ =>
    match letters with
    | 'h' :: _ => .error (ask given pending .help)
    | 'V' :: _ => .error (ask given pending .version)
    | _ => .error .unknownArgument
  | .long name value :: rest =>
    match Setting.ofOption? name with
    | none =>
      if name = "help" ∨ name = "version" then
        if value.isSome then .error .surplusValue
        else .error (ask given pending (if name = "help" then .help else .version))
      else .error .unknownArgument
    | some setting =>
      if setting.kind = .flag ∧ value.isSome then .error .surplusValue
      else do
        let given ← conclude given pending
        if setting.kind = .flag then
          let given ← give given setting "true"
          scan given .nothing rest
        else
          match value with
          | some raw => do
            let given ← give given setting raw
            scan given .nothing rest
          | none => scan given (.option setting) rest

/-- A variable of the environment counts only for a setting that the arguments leave open. -/
def addVariable (environment : List (String × String)) (given : Given) (setting : Setting) :
    Except Stop Given :=
  if isGiven given setting then .ok given
  else
    match environment.lookup setting.environmentName with
    | none => .ok given
    | some raw => give given setting raw

def resolve (given : Given) : Config :=
  given.foldl (fun config entry => entry.1.apply entry.2 config) {}

/-- The arguments win over the environment and the environment over the defaults. -/
def read (arguments : List String) (environment : List (String × String)) : Except Stop Config := do
  let given ← scan [] .nothing (arguments.map Argument.read)
  let given ← Setting.all.foldlM (addVariable environment) given
  return resolve given

end Switchboard.CommandLine
