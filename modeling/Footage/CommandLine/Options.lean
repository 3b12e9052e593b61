/-!
# Options on a command line

An option has a long name after two hyphens and mostly a short one after a single hyphen. Its value
is attached to it or is the next argument, which then must not look like an option. After two
hyphens alone no argument is an option.
-/

namespace Footage.CommandLine

/-- The names of an option. -/
structure OptionName where
  long : String
  short : Option Char := none

/-- The parts of a command line. -/
inductive Part where
  /-- An option, by its long name, with its value. -/
  | option (name value : String)
  | positional (value : String)

/-- Whether an argument looks like an option. -/
def looksLikeOption (argument : String) : Bool :=
  match argument.toList with
  | '-' :: _ :: _ => true
  | _ => false

/-- The option that an argument names, with the value attached to it. -/
def named? (options : List OptionName) (argument : List Char) :
    Option (OptionName × Option String) :=
  match argument with
  | '-' :: '-' :: text => do
    let name := String.ofList (text.takeWhile (· ≠ '='))
    let option ← options.find? fun option => option.long == name
    return (option, match text.dropWhile (· ≠ '=') with
      | _ :: value => some (String.ofList value)
      | [] => none)
  | '-' :: letter :: text => do
    let option ← options.find? fun option => option.short == some letter
    return (option, match text with
      | [] => none
      | '=' :: value => some (String.ofList value)
      | value => some (String.ofList value))
  | _ => none

/-- Divides arguments into options with values and positional arguments, after an option that
still lacks its value, if there is one. -/
def partsAfter? (options : List OptionName) : Option String → List String → Option (List Part)
  | none, [] => some []
  | some _, [] => none
  | some name, value :: rest =>
    if looksLikeOption value then none
    else (partsAfter? options none rest).map (.option name value :: ·)
  | none, argument :: rest =>
    if argument = "--" then some (rest.map .positional)
    else if looksLikeOption argument then
      match named? options argument.toList with
      | some (option, some value) =>
        (partsAfter? options none rest).map (.option option.long value :: ·)
      | some (option, none) => partsAfter? options (some option.long) rest
      | none => none
    else (partsAfter? options none rest).map (.positional argument :: ·)

/-- Divides arguments into options with values and positional arguments. -/
def parts? (options : List OptionName) (arguments : List String) : Option (List Part) :=
  partsAfter? options none arguments

/-- The values of an option, in order. -/
def values (name : String) (parts : List Part) : List String :=
  parts.filterMap fun part =>
    match part with
    | .option other value => if other = name then some value else none
    | .positional _ => none

/-- The positional arguments, in order. -/
def positionals (parts : List Part) : List String :=
  parts.filterMap fun part =>
    match part with
    | .option _ _ => none
    | .positional value => some value

/-- The value of an option that may be given once. -/
def atMostOne? (name : String) (parts : List Part) : Option (Option String) :=
  match values name parts with
  | [] => some none
  | [value] => some (some value)
  | _ => none

end Footage.CommandLine
