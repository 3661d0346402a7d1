/-
The arguments of the program: options that stand anywhere, then a command with
options and values of its own.  What cannot be read is a usage error; a
request for the version or for help is honoured if nothing wrong precedes it.
-/
import LayeredConfig.CommandLine.Options

namespace LayeredConfig.CommandLine

inductive CommandName where
  | string
  | hash
  | list
  | field
  | index
  | loadDefaults
  | check
deriving DecidableEq, Repr

inductive ValueKind where
  | text
  | number
  | path
deriving DecidableEq, Repr

/-- Can bytes be a value of this kind? -/
def ValueKind.admits (kind : ValueKind) (value : ByteArray) : Bool :=
  match kind with
  | text => (String.fromUTF8? value).isSome
  | number => ((String.fromUTF8? value).bind fun text => Text.signedWord? text.toList).isSome
  | path => value.size != 0

namespace CommandName

def all : List CommandName := [string, hash, list, field, index, loadDefaults, check]

def name : CommandName → String
  | string => "string"
  | hash => "hash"
  | list => "list"
  | field => "field"
  | index => "index"
  | loadDefaults => "load-defaults"
  | check => "check"

def ofName? (name : ByteArray) : Option CommandName :=
  all.find? fun command => command.name.toUTF8 = name

def values : CommandName → List ValueKind
  | string | hash | list => [.text]
  | field => [.text, .text]
  | index => [.text, .number]
  | loadDefaults => [.path]
  | check => []

/-- Does a command look something up? -/
def isLookup : CommandName → Bool
  | loadDefaults | check => false
  | _ => true

/-- The options that may stand behind a command. -/
def options (command : CommandName) : List OptionName :=
  if command.isLookup then .scope :: OptionName.everywhere else OptionName.everywhere

end CommandName

inductive Request where
  | string (key : String)
  | hash (key : String)
  | list (key : String)
  | field (key field : String)
  | index (key : String) (index : Int)
  | loadDefaults (directory : ByteArray)
  | check
deriving DecidableEq

/-- The request that a command makes with its values. -/
def Request.ofValues? : CommandName → List ByteArray → Option Request
  | .string, [key] => (String.fromUTF8? key).map .string
  | .hash, [key] => (String.fromUTF8? key).map .hash
  | .list, [key] => (String.fromUTF8? key).map .list
  | .field, [key, name] => do return .field (← String.fromUTF8? key) (← String.fromUTF8? name)
  | .index, [key, place] => do
      return .index (← String.fromUTF8? key)
        (← Text.signedWord? (← String.fromUTF8? place).toList)
  | .loadDefaults, [directory] => some (.loadDefaults directory)
  | .check, [] => some .check
  | _, _ => none

inductive Arguments where
  | run (options : Options) (request : Request)
  | version
  | help
  | unusable
deriving DecidableEq

/-- How one argument reads, if it is not the value of an option. -/
inductive Reading where
  | option (name : OptionName) (value : Option ByteArray)
  | version
  | help
  | rest
  | value
  | unknown
deriving DecidableEq

namespace Reading

abbrev Bytes := List UInt8

/-- Pack a list of bytes. -/
def pack (bytes : Bytes) : ByteArray := ⟨bytes.toArray⟩

/-- The bytes of a text. -/
def bytesOf (text : String) : Bytes := text.toUTF8.toList

/-- Read what follows two hyphens.  A value may follow an equals sign. -/
def ofLong (known : List OptionName) (hasVersion : Bool) (body : Bytes) : Reading :=
  let name := body.takeWhile (· != 0x3D)
  let given := (body.dropWhile (· != 0x3D)).tail?.map pack
  match known.find? fun wanted => bytesOf wanted.long == name, given with
  | some wanted, given => .option wanted given
  | none, some _ => .unknown
  | none, none =>
      if name = bytesOf "help" then .help
      else if hasVersion && name = bytesOf "version" then .version
      else .unknown

/-- Read what follows one hyphen: a letter, and perhaps a value, with or
without an equals sign in front. -/
def ofShort (known : List OptionName) (hasVersion : Bool) (letter : UInt8) (body : Bytes) :
    Reading :=
  let given := match body with
    | [] => none
    | 0x3D :: bytes => some (pack bytes)
    | bytes => some (pack bytes)
  match known.find? fun wanted => wanted.letter?.any (·.toNat == letter.toNat) with
  | some wanted => .option wanted given
  | none =>
      if letter.toNat = 'h'.toNat then .help
      else if hasVersion && letter.toNat = 'V'.toNat then .version
      else .unknown

/-- Is this written like a number: digits, with a point and an exponent in
proper places? -/
def isNumeric (body : Bytes) : Bool :=
  let isDigit := fun b : UInt8 => 0x30 ≤ b && b ≤ 0x39
  let mantissa := body.takeWhile (· != 0x65)
  let exponent := body.dropWhile (· != 0x65)
  let whole := mantissa.takeWhile isDigit
  let hasMantissa := match mantissa.dropWhile isDigit with
    | [] => true
    | 0x2E :: places => !whole.isEmpty && places.all isDigit
    | _ => false
  let hasExponent := match exponent with
    | [] => true
    | _ :: digits => !mantissa.isEmpty && !digits.isEmpty && digits.all isDigit
  hasMantissa && hasExponent

/-- Read one argument.  Where a number is wanted it may be a negative one. -/
def ofArgument (known : List OptionName) (hasVersion wantsNumber : Bool) (argument : ByteArray) :
    Reading :=
  match argument.toList with
  | [0x2D, 0x2D] => .rest
  | 0x2D :: 0x2D :: body => ofLong known hasVersion body
  | 0x2D :: letter :: body =>
      if wantsNumber && isNumeric (letter :: body) then .value
      else ofShort known hasVersion letter body
  | _ => .value

/-- Can an argument be the value of the option before it?  Where a number is
wanted next, a negative one can. -/
def isPlain (wantsNumber : Bool) (argument : ByteArray) : Bool :=
  match argument.toList with
  | 0x2D :: letter :: body => wantsNumber && isNumeric (letter :: body)
  | _ => true

end Reading

namespace Arguments

/-- Add a value to those of a command, if it may have one more. -/
def addValue? (command : CommandName) (values : List ByteArray) (value : ByteArray) :
    Option (List ByteArray) :=
  match command.values[values.length]? with
  | some kind => if kind.admits value then some (values ++ [value]) else none
  | none => none

/-- The end of the arguments: every value of the command has to be there. -/
def finish (outer : Options) (command : CommandName) (options : Options)
    (values : List ByteArray) : Arguments :=
  match Request.ofValues? command values with
  | some request => .run (options.laidOver outer) request
  | none => .unusable

def ofCommand (outer : Options) (command : CommandName) (options : Options)
    (values : List ByteArray) : List ByteArray → Arguments
  | [] => finish outer command options values
  | argument :: arguments =>
      let wantsNumber := command.values[values.length]? == some .number
      match Reading.ofArgument command.options false wantsNumber argument with
      | .option name (some value) =>
          match options.add? name value with
          | some options => ofCommand outer command options values arguments
          | none => .unusable
      | .option name none =>
          match arguments with
          | value :: arguments =>
              match if Reading.isPlain wantsNumber value then options.add? name value else none with
              | some options => ofCommand outer command options values arguments
              | none => .unusable
          | [] => .unusable
      | .value =>
          match addValue? command values argument with
          | some values => ofCommand outer command options values arguments
          | none => .unusable
      | .rest =>
          match arguments.foldlM (addValue? command) values with
          | some values => finish outer command options values
          | none => .unusable
      | .help => .help
      | .version | .unknown => .unusable

def ofHelp : List ByteArray → Arguments
  | [] => .help
  | [name] =>
      if name = "help".toUTF8 ∨ (CommandName.ofName? name).isSome then .help else .unusable
  | _ => .unusable

def ofOptions (options : Options) : List ByteArray → Arguments
  | [] => .unusable
  | argument :: arguments =>
      match CommandName.ofName? argument with
      | some command => ofCommand options command {} [] arguments
      | none =>
          if argument = "help".toUTF8 then ofHelp arguments
          else
            match Reading.ofArgument OptionName.everywhere true false argument with
            | .option name (some value) =>
                match options.add? name value with
                | some options => ofOptions options arguments
                | none => .unusable
            | .option name none =>
                match arguments with
                | value :: arguments =>
                    match if Reading.isPlain false value then options.add? name value else none with
                    | some options => ofOptions options arguments
                    | none => .unusable
                | [] => .unusable
            | .version => .version
            | .help => .help
            | .value | .rest | .unknown => .unusable

def parse (arguments : List ByteArray) : Arguments := ofOptions {} arguments

end Arguments

end LayeredConfig.CommandLine
