/-
The key-value server as its clients meet it: it listens at an address, takes
connections as long as it is up, and may cut those that are open.
-/
import LayeredConfig.Server.Data
import LayeredConfig.Server.Locator

namespace LayeredConfig

/-- A connection to the server, known by its number. -/
structure Connection where
  number : Nat
deriving DecidableEq, Repr

/-- A server.  Connections are numbered in the order in which they were
accepted; those with numbers below `cut` have been cut. -/
structure Server where
  address : Server.Address
  data : Server.Data := NameMap.empty
  accepting : Bool := true
  accepted : Nat := 0
  cut : Nat := 0
deriving DecidableEq

namespace Server

/-- Take no more connections; those that are open stay. -/
def goDown (server : Server) : Server := { server with accepting := false }

def goUp (server : Server) : Server := { server with accepting := true }

/-- Cut every connection that is open. -/
def cutAll (server : Server) : Server := { server with cut := server.accepted }

/-- Does a connection still reach the server? -/
def reaches (server : Server) (connection : Connection) : Bool :=
  server.cut ≤ connection.number

/-- Accept a connection at an address, if the server is up and listens there. -/
def accept? (server : Server) (address : Address) : Option (Connection × Server) :=
  if server.accepting && server.address = address then
    some (⟨server.accepted⟩, { server with accepted := server.accepted + 1 })
  else none

/-- Would the server let a client in that logs in like this?  It knows one
database and no users. -/
def admits (locator : Locator) : Bool :=
  locator.password.isNone && locator.database == 0

end Server

end LayeredConfig
