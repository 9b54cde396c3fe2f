/-!
# Command lines

A command line names one of four commands, with operands and options in any order.  An
option's value follows it, behind an equals sign, directly behind its letter, or as the
next argument; letters of options without values may be joined.  Two hyphens end the options.
No option may be given twice.  A command line that breaks these rules is wrong as a whole.
-/

namespace GameConfig
namespace Command

inductive Input where
  | standard
  | text (json : String)
  | file (path : String)
deriving DecidableEq, Repr

inductive Request where
  | version
  | query (json : String) (input : Input) (pretty : Bool)
  | eval (json : String) (statePath? : Option String) (asTruth : Bool)
  | docs
  | doc (name : String)
deriving DecidableEq, Repr

/-!
# Arguments in general
-/

inductive OptionName where
  | input
  | file
  | pretty
  | state
  | bool
deriving DecidableEq, Repr

namespace OptionName

def letter : OptionName → Char
  | .input => 'i'
  | .file => 'f'
  | .pretty => 'p'
  | .state => 's'
  | .bool => 'b'

def long : OptionName → String
  | .input => "input"
  | .file => "file"
  | .pretty => "pretty"
  | .state => "state"
  | .bool => "bool"

def takesValue : OptionName → Bool
  | .input | .file | .state => true
  | .pretty | .bool => false

/-- Paths may not be empty. -/
def admits : OptionName → String → Bool
  | .file, value | .state, value => value != ""
  | _, _ => true

end OptionName

structure Arguments where
  operands : List String
  options : List (OptionName × String)

namespace Arguments

def has (arguments : Arguments) (name : OptionName) : Bool :=
  arguments.options.any fun entry => entry.1 == name

def value? (arguments : Arguments) (name : OptionName) : Option String :=
  (arguments.options.find? fun entry => entry.1 == name).map Prod.snd

def addOperand (arguments : Arguments) (operand : String) : Arguments :=
  { arguments with operands := arguments.operands ++ [operand] }

def addOption? (arguments : Arguments) (name : OptionName) (value : String) :
    Option Arguments :=
  if arguments.has name ∨ !name.admits value then none
  else some { arguments with options := (name, value) :: arguments.options }

end Arguments

inductive Shape where
  | operand
  | endOfOptions
  | long (name : String) (value? : Option String)
  | letters (text : List Char)

def Shape.of (argument : String) : Shape :=
  match argument.toList with
  | ['-', '-'] => .endOfOptions
  | '-' :: '-' :: rest =>
      let name := String.ofList (rest.takeWhile (· != '='))
      match rest.dropWhile (· != '=') with
      | [] => .long name none
      | _ :: value => .long name (some (String.ofList value))
  | '-' :: c :: rest => .letters (c :: rest)
  | _ => .operand

/-- Joined letters: options without values, and at most one with a value, whose value is all
that stands behind it.  The option that still waits for its value is given as well. -/
def enterLetters (known : List OptionName) (arguments : Arguments) :
    List Char → Option (Arguments × Option OptionName)
  | [] => some (arguments, none)
  | c :: rest => do
      let name ← known.find? fun name => name.letter == c
      if name.takesValue then
        match rest with
        | [] => some (arguments, some name)
        | '=' :: value => do
            let arguments ← arguments.addOption? name (String.ofList value)
            some (arguments, none)
        | value => do
            let arguments ← arguments.addOption? name (String.ofList value)
            some (arguments, none)
      else do
        let arguments ← arguments.addOption? name ""
        enterLetters known arguments rest

def enterLong (known : List OptionName) (arguments : Arguments) (long : String)
    (value? : Option String) : Option (Arguments × Option OptionName) := do
  let name ← known.find? fun name => name.long == long
  match name.takesValue, value? with
  | true, some value => do
      let arguments ← arguments.addOption? name value
      some (arguments, none)
  | true, none => some (arguments, some name)
  | false, none => do
      let arguments ← arguments.addOption? name ""
      some (arguments, none)
  | false, some _ => none

/-- Sorts arguments.  An option that waits for its value takes the next argument, unless that
looks like an option itself. -/
def sort (known : List OptionName) (arguments : Arguments) (waiting? : Option OptionName) :
    List String → Option Arguments
  | [] => if waiting?.isNone then some arguments else none
  | argument :: rest =>
      match Shape.of argument, waiting? with
      | .operand, some name => do
          let arguments ← arguments.addOption? name argument
          sort known arguments none rest
      | _, some _ => none
      | .operand, none => sort known (arguments.addOperand argument) none rest
      | .endOfOptions, none => some (rest.foldl Arguments.addOperand arguments)
      | .long name value?, none => do
          let (arguments, waiting?) ← enterLong known arguments name value?
          sort known arguments waiting? rest
      | .letters text, none => do
          let (arguments, waiting?) ← enterLetters known arguments text
          sort known arguments waiting? rest

/-!
# The four commands
-/

def sorted (known : List OptionName) (arguments : List String) : Option Arguments :=
  sort known ⟨[], []⟩ none arguments

def queryRequest? (arguments : List String) : Option Request := do
  let arguments ← sorted [.input, .file, .pretty] arguments
  match arguments.operands with
  | [json] =>
      match arguments.value? .input, arguments.value? .file with
      | some _, some _ => none
      | some text, none => some (.query json (.text text) (arguments.has .pretty))
      | none, some path => some (.query json (.file path) (arguments.has .pretty))
      | none, none => some (.query json .standard (arguments.has .pretty))
  | _ => none

def evalRequest? (arguments : List String) : Option Request := do
  let arguments ← sorted [.state, .bool] arguments
  match arguments.operands with
  | [json] => some (.eval json (arguments.value? .state) (arguments.has .bool))
  | _ => none

def docsRequest? (arguments : List String) : Option Request := do
  let arguments ← sorted [] arguments
  match arguments.operands with
  | [] => some .docs
  | _ => none

def docRequest? (arguments : List String) : Option Request := do
  let arguments ← sorted [] arguments
  match arguments.operands with
  | [name] => some (.doc name)
  | _ => none

/-- What a command line asks for, if it is right.  The version is asked for in place of a
command, and then nothing behind it is looked at. -/
def Request.ofArguments? : List String → Option Request
  | [] => none
  | first :: rest =>
      match Shape.of first with
      | .long "version" none => some .version
      | .letters ('V' :: _) => some .version
      | .operand =>
          match first with
          | "query" => queryRequest? rest
          | "eval" => evalRequest? rest
          | "docs" => docsRequest? rest
          | "doc" => docRequest? rest
          | _ => none
      | _ => none

end Command
end GameConfig
