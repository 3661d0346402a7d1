/-
Many uses of one pool at the same time.  A use begins with the call that asks
for a connection; it ends when that call has failed, or when the connection has
been given back and nothing more is to be done about it.  A use goes from stage
to stage, and between two of its moves any others may move.  What is one move is
what nothing can come between: a stay at the locked slots, waking a waiting use,
or the opening or closing of a connection.
-/
import LayeredConfig.Failure
import LayeredConfig.Pool.Slots

namespace LayeredConfig.Pool

variable {κ : Type}

/-- What is left for a use that has given its slot back and has not yet woken
anyone. -/
inductive Rest (κ : Type) where
  | retry
  | fail (failure : Failure)
  | dispose (connection : κ)
  | finish
deriving DecidableEq, Repr

/-- Where a use stands.  Its slot is taken when it looks at the slots and finds
one, and is given back after a connection turned out unfit (`rejected`), could
not be opened (`opening`) or is not needed any more (`holding`). -/
inductive Stage (κ : Type) where
  | asking
  | waiting
  | woken
  | reviving (connection : κ)
  | rejected
  | opening
  | holding (connection : κ)
  | released (rest : Rest κ)
  | closing (connection : κ)
  | failed (failure : Failure)
  | finished
deriving DecidableEq, Repr

def Rest.stage : Rest κ → Stage κ
  | retry => .asking
  | fail failure => .failed failure
  | dispose connection => .closing connection
  | finish => .finished

/-- What a use can do on its own.  What the world decides comes with the move:
whether the deadline has passed, whether a connection is fit or can be used
again, and what an attempt to connect gives. -/
inductive Move (κ : Type) where
  | look (late : Bool)
  | wake
  | revive (fit : Bool)
  | forgo
  | connect (result : Except Failure κ)
  | giveBack (usable : Bool)
  | close

/-- Is a connection that is given back kept? -/
def Slots.keeps (maxIdle : Nat) (usable : Bool) (slots : Slots κ) : Bool :=
  usable && slots.idle.length < maxIdle

namespace Stage

/-- What a look at the slots leads to.  A use that finds none waits, as long as
the settings and the deadline let it. -/
def ofClaim (settings : RedisSettings) (late : Bool) : Claim κ → Stage κ
  | .kept connection => reviving connection
  | .fresh => opening
  | .full =>
      if settings.wait && !(late && settings.waitTimeoutMs.isSome) then waiting
      else failed (.poolExhausted settings.maxActive)

def look (settings : RedisSettings) (late : Bool) (slots : Slots κ) : Slots κ × Stage κ :=
  let (claim, next) := slots.claim settings.maxActive
  (next, ofClaim settings late claim)

/-- What a move makes of the slots and the stage, if it can be made there. -/
def go? (settings : RedisSettings) (slots : Slots κ) : Stage κ → Move κ → Option (Slots κ × Stage κ)
  | asking, .look late => some (look settings late slots)
  | woken, .look late => some (look settings late slots)
  | waiting, .wake => some (slots, woken)
  | reviving connection, .revive fit =>
      some (slots, if fit then holding connection else rejected)
  | rejected, .forgo => some (slots.release, released .retry)
  | opening, .connect (.ok connection) => some (slots, holding connection)
  | opening, .connect (.error failure) => some (slots.release, released (.fail failure))
  | holding connection, .giveBack usable =>
      some (slots.giveBack settings.maxIdle connection usable,
        released (if slots.keeps settings.maxIdle usable then .finish else .dispose connection))
  | closing _, .close => some (slots, finished)
  | _, _ => none

def isWaiting : Stage κ → Bool
  | waiting => true
  | _ => false

def isWoken : Stage κ → Bool
  | woken => true
  | _ => false

/-- Has the slot been given back without waking anyone yet? -/
def isReleased : Stage κ → Bool
  | released _ => true
  | _ => false

def isHolding : Stage κ → Bool
  | holding _ => true
  | _ => false

/-- Is a connection being revived or opened for this use? -/
def isTaking : Stage κ → Bool
  | reviving _ => true
  | rejected => true
  | opening => true
  | _ => false

/-- Is there a connection that is given up but not closed yet? -/
def isDisposing : Stage κ → Bool
  | released (.dispose _) => true
  | closing _ => true
  | _ => false

/-- Is there a connection that is open outside the slots for this use? -/
def hasConnection : Stage κ → Bool
  | reviving _ => true
  | holding _ => true
  | released (.dispose _) => true
  | closing _ => true
  | _ => false

end Stage

/-- Everything that can happen.  One that gave its slot back wakes one of those
who wait; a use that has been woken already does not count among them. -/
inductive Event (κ : Type) where
  | call
  | move (use : Nat) (move : Move κ)
  | announce (use : Nat) (waiter : Option Nat)

/-- The use to which an event belongs.  A call makes a new one. -/
def Event.actor? : Event κ → Option Nat
  | call => none
  | move use _ => some use
  | announce use _ => some use

/-- A pool with all uses of it, in the order of their calls. -/
structure Traffic (κ : Type) where
  slots : Slots κ := {}
  uses : List (Stage κ) := []
deriving DecidableEq, Repr

namespace Traffic

/-- Wake a use that waits, or nobody if none does. -/
def wake? (uses : List (Stage κ)) : Option Nat → Option (List (Stage κ))
  | some waiter => if uses[waiter]?.any Stage.isWaiting then some (uses.set waiter .woken) else none
  | none => if uses.any Stage.isWaiting then none else some uses

def step? (settings : RedisSettings) (traffic : Traffic κ) : Event κ → Option (Traffic κ)
  | .call => some { traffic with uses := traffic.uses ++ [.asking] }
  | .move use move =>
      match traffic.uses[use]? with
      | some stage => (stage.go? settings traffic.slots move).map fun (slots, next) =>
          ⟨slots, traffic.uses.set use next⟩
      | none => none
  | .announce use waiter =>
      match traffic.uses[use]? with
      | some (.released rest) => (wake? (traffic.uses.set use rest.stage) waiter).map fun uses =>
          { traffic with uses := uses }
      | _ => none

/-- Let things happen one after another, as far as they can. -/
def run? (settings : RedisSettings) : Traffic κ → List (Event κ) → Option (Traffic κ)
  | traffic, [] => some traffic
  | traffic, event :: rest => (traffic.step? settings event).bind fun next => run? settings next rest

/-- The traffic can come about at a new pool. -/
def Reachable (settings : RedisSettings) (traffic : Traffic κ) : Prop :=
  ∃ events, run? settings {} events = some traffic

def count (traffic : Traffic κ) (p : Stage κ → Bool) : Nat :=
  traffic.uses.countP p

/-- How many connections are open: those that are kept, and those of uses. -/
def openConnections (traffic : Traffic κ) : Nat :=
  traffic.slots.idle.length + traffic.count Stage.hasConnection

end Traffic

end LayeredConfig.Pool
