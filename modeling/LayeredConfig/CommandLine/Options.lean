/-
The options of the command line: their names, and what is gathered of them.
-/
import LayeredConfig.Bytes
import LayeredConfig.Scope
import LayeredConfig.Text.Numeral

namespace LayeredConfig.CommandLine

inductive OptionName where
  | config
  | logLevel
  | redisUrl
  | keyPrefix
  | keyPath
  | format
  | scope
deriving DecidableEq, Repr

namespace OptionName

/-- The options that stand anywhere; the scope belongs to lookups alone. -/
def everywhere : List OptionName := [config, logLevel, redisUrl, keyPrefix, keyPath, format]

/-- The name behind two hyphens. -/
def long : OptionName → String
  | config => "config"
  | logLevel => "log-level"
  | redisUrl => "redis-url"
  | keyPrefix => "key-prefix"
  | keyPath => "key-path"
  | format => "format"
  | scope => "scope"

/-- The letter behind one hyphen, if there is one. -/
def letter? : OptionName → Option Char
  | logLevel => some 'd'
  | scope => some 's'
  | _ => none

end OptionName

/-- How an answer is written. -/
inductive Format where
  | json
  | text
deriving DecidableEq, Repr

def Format.ofName? (name : String) : Option Format :=
  if name = "json" then some .json else if name = "text" then some .text else none

/-- How much is logged. -/
inductive LogLevel where
  | error
  | warn
  | info
  | debug
  | trace
deriving DecidableEq, Repr

namespace LogLevel

/-- The levels from the least to the most talkative. -/
def inOrder : List LogLevel := [error, warn, info, debug, trace]

def name : LogLevel → String
  | error => "error"
  | warn => "warn"
  | info => "info"
  | debug => "debug"
  | trace => "trace"

/-- The level of a name in upper or lower case, or of a number from one to
five. -/
def ofText? (text : String) : Option LogLevel :=
  let lower := text.toList.map Char.toLower
  match inOrder.find? fun level => level.name.toList == lower, Text.word? text.toList with
  | some level, _ => some level
  | none, some n => if n = 0 then none else inOrder[n - 1]?
  | none, none => none

end LogLevel

/-- A variable of the scope, written with an equals sign behind its name.
Name and value are taken in lower case. -/
def scopeVariable? (text : String) : Option (String × String) :=
  let name := text.toList.takeWhile (· != '=')
  match text.toList.dropWhile (· != '=') with
  | _ :: value =>
      if name.isEmpty then none
      else some (Text.lowercase (String.ofList name), Text.lowercase (String.ofList value))
  | [] => none

/-- What has been gathered of the options. -/
structure Options where
  config : Option ByteArray := none
  logLevel : Option LogLevel := none
  redisUrl : Option String := none
  keyPrefix : Option String := none
  keyPaths : List String := []
  format : Option Format := none
  scope : List (String × String) := []
deriving DecidableEq

namespace Options

/-- Give a value to an option that may have one only. -/
def once? {α : Type} (present value : Option α) : Option (Option α) :=
  match present, value with
  | none, some value => some (some value)
  | _, _ => none

/-- Add an option, if it may stand here and its value can be read.  Search
paths and scope variables may be given more than once. -/
def add? (options : Options) (name : OptionName) (value : ByteArray) : Option Options :=
  let text := String.fromUTF8? value
  match name with
  | .config =>
      (once? options.config (if value.size = 0 then none else some value)).map
        fun v => { options with config := v }
  | .logLevel =>
      (once? options.logLevel (text.bind LogLevel.ofText?)).map
        fun v => { options with logLevel := v }
  | .redisUrl => (once? options.redisUrl text).map fun v => { options with redisUrl := v }
  | .keyPrefix => (once? options.keyPrefix text).map fun v => { options with keyPrefix := v }
  | .keyPath => text.map fun v => { options with keyPaths := options.keyPaths ++ [v] }
  | .format =>
      (once? options.format (text.bind Format.ofName?)).map fun v => { options with format := v }
  | .scope =>
      (text.bind scopeVariable?).map fun v => { options with scope := options.scope ++ [v] }

/-- Options given before a command and with it.  Those given with it count
more. -/
def laidOver (inner outer : Options) : Options where
  config := inner.config <|> outer.config
  logLevel := inner.logLevel <|> outer.logLevel
  redisUrl := inner.redisUrl <|> outer.redisUrl
  keyPrefix := inner.keyPrefix <|> outer.keyPrefix
  keyPaths := if inner.keyPaths.isEmpty then outer.keyPaths else inner.keyPaths
  format := inner.format <|> outer.format
  scope := inner.scope ++ outer.scope

end Options

end LayeredConfig.CommandLine
