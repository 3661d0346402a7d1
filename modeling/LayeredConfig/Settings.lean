/-
The settings that a lookup runs under, their defaults, the names of keys that
they give, and the conditions that they have to meet.
-/
import LayeredConfig.Failure

namespace LayeredConfig

/-- How the key-value server is reached, and how many connections to it are
kept and opened. -/
structure RedisSettings where
  url : String := "redis://127.0.0.1:6379"
  maxIdle : Nat := 5
  maxActive : Nat := 20
  wait : Bool := true
  waitTimeoutMs : Option Nat := none
  idleTimeoutSecs : Nat := 240
  connectTimeoutMs : Nat := 5000
deriving DecidableEq, Repr

/-- Settings; every field has a default. -/
structure Settings where
  keyPaths : List String := ["default"]
  keyPrefix : String := "cfg:"
  hdrPrefix : String := "x-cfg-"
  maxSubstitutionDepth : Nat := 16
  redis : RedisSettings := {}
deriving DecidableEq, Repr

namespace Settings

instance : Inhabited Settings := ⟨{}⟩

def absoluteKey (settings : Settings) (path key : String) : String :=
  settings.keyPrefix ++ path ++ ":" ++ key

/-- A name with the key prefix in front, which is not put there twice. -/
def prefixed (settings : Settings) (name : String) : String :=
  if settings.keyPrefix.toList.isPrefixOf name.toList then name
  else settings.keyPrefix ++ name

/-- What is wrong with settings that cannot be used. -/
inductive Defect where
  | noDepth
  | noConnections
  | idleExceedsActive (maxIdle maxActive : Nat)
deriving DecidableEq, Repr

/-- The wording of a defect. -/
def Defect.message : Defect → String
  | noDepth => "max_substitution_depth must be at least 1"
  | noConnections => "redis.max_active must be at least 1"
  | idleExceedsActive maxIdle maxActive =>
      "redis.max_idle (" ++ toString maxIdle ++ ") exceeds redis.max_active (" ++
        toString maxActive ++ ")"

def defect? (settings : Settings) : Option Defect :=
  if settings.maxSubstitutionDepth = 0 then some .noDepth
  else if settings.redis.maxActive = 0 then some .noConnections
  else if settings.redis.maxIdle > settings.redis.maxActive then
    some (.idleExceedsActive settings.redis.maxIdle settings.redis.maxActive)
  else none

def validate (settings : Settings) : Except Failure Unit :=
  match settings.defect? with
  | some defect => .error (.invalidSettings defect.message)
  | none => .ok ()

/-- Settings can be used exactly if all three bounds hold. -/
theorem defect?_eq_none_iff (settings : Settings) :
    settings.defect? = none ↔ 0 < settings.maxSubstitutionDepth ∧
      0 < settings.redis.maxActive ∧ settings.redis.maxIdle ≤ settings.redis.maxActive := by
  unfold defect?
  split
  · simp; omega
  · split
    · simp; omega
    · split
      · simp; omega
      · simp; omega

end Settings

end LayeredConfig
