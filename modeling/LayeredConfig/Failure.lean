/-
Everything that can go wrong while configuration is looked up, stored or
loaded, with its wording.
-/
namespace LayeredConfig

/-- Why an operation failed.  A `cause` is the text of the error underneath;
it is empty where a library words that error. -/
inductive Failure where
  | keyNotFound (key : String)
  | hashFieldNotFound (key field : String)
  | listIndexOutOfRange (key : String) (index : Int) (length : Nat)
  | negativeListIndex (key : String) (index : Int)
  | substitutionCycle (reference : String) (depth : Nat)
  | backendUnavailable (backend message : String) (cause : Option String)
  | backend (backend message : String) (cause : Option String)
  | unsupportedKeyType (key kind : String)
  | poolExhausted (maxActive : Nat)
  | invalidSettings (message : String)
  | unparsable (message : String) (cause : Option String)
  | io (cause : String)
deriving DecidableEq, Repr

namespace Failure

/-- The text of a failure. -/
def message : Failure → String
  | keyNotFound key => "Key " ++ key ++ " not found"
  | hashFieldNotFound key field => "Hash field '" ++ field ++ "' not found in key " ++ key
  | listIndexOutOfRange key index length =>
      "List index " ++ toString index ++ " out of range for key " ++ key ++
        " (length " ++ toString length ++ ")"
  | negativeListIndex key index =>
      "Invalid negative list index " ++ toString index ++ " for key " ++ key
  | substitutionCycle reference depth =>
      "Substitution cycle detected while expanding '" ++ reference ++
        "' (depth " ++ toString depth ++ ")"
  | backendUnavailable store message _ =>
      "Backend '" ++ store ++ "' unavailable: " ++ message
  | backend store message _ => "Backend '" ++ store ++ "' error: " ++ message
  | unsupportedKeyType key kind => "Unsupported type '" ++ kind ++ "' stored at key " ++ key
  | poolExhausted maxActive =>
      "Connection pool exhausted (" ++ toString maxActive ++ " active connections)"
  | invalidSettings message => "Invalid settings: " ++ message
  | unparsable message _ => "Failed to parse: " ++ message
  | io cause => "I/O error: " ++ cause

/-- The text of the error underneath. -/
def cause? : Failure → Option String
  | backendUnavailable _ _ cause => cause
  | backend _ _ cause => cause
  | unparsable _ cause => cause
  | io cause => some cause
  | _ => none

/-- Was a key looked up and not found? -/
def isNotFound : Failure → Bool
  | keyNotFound _ => true
  | _ => false

/-- Could the store not be reached at all? -/
def isConnectivity : Failure → Bool
  | backendUnavailable .. => true
  | poolExhausted _ => true
  | _ => false

end Failure

end LayeredConfig
