set_option autoImplicit false

namespace Reckon.CommandLine

structure Opt where
  name : String
  letter : Option Char := none
  takesValue : Bool := false
deriving DecidableEq

inductive Misuse where
  | noSuchOption
  | missingValue
  | unwantedValue
  | missingArgument
  | surplusArgument
deriving DecidableEq

structure Given where
  name : String
  value : String := ""
deriving DecidableEq

structure Arguments where
  options : List Given
  others : List String
deriving DecidableEq

-- The options in one argument; the last one may still want a value.
abbrev Spelled := List Given × Option Opt

def longOption (known : List Opt) (text : List Char) : Except Misuse Spelled :=
  let name := String.ofList (text.takeWhile (· != '='))
  let value := text.dropWhile (· != '=')
  match known.find? (·.name == name) with
  | none => .error .noSuchOption
  | some option =>
      if option.takesValue then
        match value with
        | _ :: value => .ok ([⟨name, String.ofList value⟩], none)
        | [] => .ok ([], some option)
      else if value.isEmpty then .ok ([⟨name, ""⟩], none)
      else .error .unwantedValue

def letters (known : List Opt) : List Char → List Given → Except Misuse Spelled
  | [], done => .ok (done.reverse, none)
  | letter :: rest, done =>
      match known.find? (·.letter == some letter) with
      | none => .error .noSuchOption
      | some option =>
          if option.takesValue then
            if rest.isEmpty then .ok (done.reverse, some option)
            else .ok ((⟨option.name, String.ofList rest⟩ :: done).reverse, none)
          else letters known rest (⟨option.name, ""⟩ :: done)

def spelled? (known : List Opt) (argument : String) : Option (Except Misuse Spelled) :=
  match argument.toList with
  | '-' :: '-' :: text => some (longOption known text)
  | '-' :: letter :: more => some (letters known (letter :: more) [])
  | _ => none

-- Without `mixed`, options end at the first argument that is none.
def readArguments (known : List Opt) (mixed : Bool) :
    Option Opt → List String → Arguments → Except Misuse Arguments
  | some _, [], _ => .error .missingValue
  | none, [], found => .ok found
  | some option, value :: rest, found =>
      readArguments known mixed none rest
        ⟨found.options ++ [⟨option.name, value⟩], found.others⟩
  | none, argument :: rest, found =>
      if argument = "--" then .ok ⟨found.options, found.others ++ rest⟩
      else match spelled? known argument with
      | some (.error misuse) => .error misuse
      | some (.ok (options, open?)) =>
          readArguments known mixed open? rest ⟨found.options ++ options, found.others⟩
      | none =>
          if mixed then
            readArguments known mixed none rest ⟨found.options, found.others ++ [argument]⟩
          else .ok ⟨found.options, found.others ++ argument :: rest⟩

def Arguments.read (known : List Opt) (mixed : Bool) (arguments : List String) :
    Except Misuse Arguments :=
  readArguments known mixed none arguments ⟨[], []⟩

def Arguments.has (arguments : Arguments) (option : Opt) : Bool :=
  arguments.options.any (·.name == option.name)

-- Of several values, the last.
def Arguments.value? (arguments : Arguments) (option : Opt) : Option String :=
  (arguments.options.reverse.find? (·.name == option.name)).map (·.value)

end Reckon.CommandLine
