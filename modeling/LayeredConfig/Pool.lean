/-
A bounded pool of connections.  Connections are opened when they are needed,
up to a limit, and some of them are kept for reuse.
-/
import LayeredConfig.Pool.Connection
import LayeredConfig.Text.Quoted

namespace LayeredConfig

/-- A pool: its settings, and where they say that the server is. -/
structure Pool where
  settings : RedisSettings
  locator : Server.Locator
deriving DecidableEq

namespace Pool

/-- The pool for settings whose URL can be read.  No connection is opened. -/
def new (settings : RedisSettings) : Except Failure Pool :=
  match Server.Locator.parse? settings.url with
  | some locator => .ok ⟨settings, locator⟩
  | none => .error (.backend Connection.backendName "Failed to create Redis client: " (some ""))

/-- The pool in words. -/
def describe (pool : Pool) : String :=
  "RedisPool \x7b url: " ++ Text.quoted pool.settings.url ++
    ", max_active: " ++ toString pool.settings.maxActive ++
    ", max_idle: " ++ toString pool.settings.maxIdle ++ " \x7d"

/-- How many connections are kept for reuse. -/
def idleCount (state : PoolState) : Nat := state.slots.idle.length

/-- Is a kept connection fit for use?  Time does not pass here, so only an
idle time of nothing at all is ever over. -/
def isFit (pool : Pool) (state : PoolState) (connection : Connection) : Bool :=
  pool.settings.idleTimeoutSecs != 0 && connection.isOpen state

def connect (pool : Pool) : Action PoolState Connection := do
  let state ← get
  match state.server.accept? pool.locator.address with
  | none => throw (Connection.lost "CONNECT" pool.settings.url)
  | some (connection, server) =>
      set { state with server := server }
      if Server.admits pool.locator then return connection
      throw (Connection.refused "CONNECT" pool.settings.url)

/-- Give a slot back without a connection. -/
def release (state : PoolState) : PoolState :=
  { state with slots := state.slots.release }

/-- The failure of a checkout that finds no slot. -/
def exhausted (pool : Pool) : Failure := .poolExhausted pool.settings.maxActive

/-- Check a connection out, if there is a slot for it. -/
def checkout (pool : Pool) : Action PoolState Connection := do
  let state ← get
  match state.slots.acquire pool.settings.maxActive (pool.isFit state) with
  | (.kept connection, slots) => do
      set { state with slots := slots }
      return connection
  | (.fresh, slots) => do
      set { state with slots := slots }
      match ← Action.observe pool.connect with
      | .ok connection => return connection
      | .error failure => do
          modify release
          throw failure
  | (.full, slots) => do
      set { state with slots := slots }
      throw pool.exhausted

/-- Give a connection back. -/
def giveBack (pool : Pool) (connection : Connection) : StateM PoolState Unit :=
  modify fun state =>
    { state with
      slots := state.slots.giveBack pool.settings.maxIdle connection (connection.isOpen state) }

/-- Does a checkout that finds no slot wait so many milliseconds for one? -/
def waitsFor (pool : Pool) (delay : Nat) : Bool :=
  pool.settings.wait && pool.settings.waitTimeoutMs.all (delay < ·)

/-- Check a connection out while another one is given back after a delay. -/
def checkoutWhile (pool : Pool) (delay : Nat) (other : Option Connection) :
    Action PoolState Connection := do
  let giveBackOther : StateM PoolState Unit := (other.forM pool.giveBack : StateM PoolState Unit)
  match ← Action.observe pool.checkout with
  | .error (.poolExhausted limit) => do
      ExceptT.lift giveBackOther
      if pool.waitsFor delay then pool.checkout else throw (.poolExhausted limit)
  | result => do
      ExceptT.lift giveBackOther
      Action.ofExcept result

def check (pool : Pool) : Action PoolState Unit := do
  let connection ← pool.checkout
  let result ← Action.observe connection.ping
  ExceptT.lift (pool.giveBack connection)
  Action.ofExcept result

def provider (pool : Pool) : StoreProvider PoolState Connection where
  checkout := pool.checkout
  store := Connection.store
  giveBack := pool.giveBack

end Pool

end LayeredConfig
