/-
Where a server is and how to log in there, as a URL says it.  There are two
forms: a host with a port, and the path of a local socket.
-/
import LayeredConfig.Bytes
import LayeredConfig.Server.Ipv6
import LayeredConfig.Text.HexDigit
import LayeredConfig.Text.Lossy
import LayeredConfig.Text.Numeral
import LayeredConfig.Text.Pieces

namespace LayeredConfig.Server

inductive Address where
  | tcp (host : String) (port : Nat)
  | socket (path : ByteArray)
deriving DecidableEq

structure Locator where
  address : Address
  database : Int := 0
  username : Option String := none
  password : Option String := none
deriving DecidableEq

namespace Locator

/-- The bytes of a text with its percent escapes undone. -/
def percentDecode : List Char → List UInt8
  | '%' :: a :: b :: rest =>
      match Text.hexValue? a, Text.hexValue? b with
      | some high, some low => (high * 16 + low).toUInt8 :: percentDecode rest
      | _, _ => 0x25 :: percentDecode (a :: b :: rest)
  | c :: rest => (String.singleton c).toUTF8.toList ++ percentDecode rest
  | [] => []

/-- The text that stands under percent escapes, if it is one. -/
def decodedText? (cs : List Char) : Option String :=
  String.fromUTF8? ⟨(percentDecode cs).toArray⟩

/-- A control character or a space. -/
def isOuterBlank (c : Char) : Bool := c.toNat ≤ 0x20

/-- A URL's text without what may surround it, and without line breaks and
tabs. -/
def tidy (text : String) : List Char :=
  let inner := ((text.toList.dropWhile isOuterBlank).reverse.dropWhile isOuterBlank).reverse
  inner.filter fun c => c ≠ '\t' ∧ c ≠ '\n' ∧ c ≠ '\r'

/-- The scheme in lower case, and what follows its colon. -/
def scheme? (cs : List Char) : Option (List Char × List Char) :=
  let isPart := fun c : Char => c.isAlphanum || c == '+' || c == '-' || c == '.'
  match cs.takeWhile isPart, cs.dropWhile isPart with
  | c :: rest, ':' :: after =>
      if c.isAlpha then some ((c :: rest).map Char.toLower, after) else none
  | _, _ => none

/-- The parts of a URL behind its scheme.  Without an authority there is no
host. -/
structure Parts where
  authority : Option (List Char)
  path : List Char
  query : List Char

/-- Cut a text in front of the first of some characters. -/
def cutBefore (marks : List Char) (cs : List Char) : List Char × List Char :=
  (cs.takeWhile fun c => !marks.contains c, cs.dropWhile fun c => !marks.contains c)

/-- The parts of what follows a scheme.  The fragment at the end is left out. -/
def Parts.ofText (cs : List Char) : Parts :=
  let (body, _) := cutBefore ['#'] cs
  let (hierarchy, question) := cutBefore ['?'] body
  match hierarchy with
  | '/' :: '/' :: rest =>
      let (authority, path) := cutBefore ['/'] rest
      ⟨some authority, path, question.drop 1⟩
  | _ => ⟨none, hierarchy, question.drop 1⟩

/-- The user, the password and the host with its port. -/
structure Authority where
  username : List Char := []
  password : List Char := []
  host : List Char := []
  port : Option Nat := none

/-- Characters that cannot be part of a host's name. -/
def isForbiddenInHost (c : Char) : Bool :=
  "\x00\t\n\r #/:<>?@[\\]^|".toList.contains c

def isHost (host : List Char) : Bool :=
  match host with
  | '[' :: rest => rest.getLast? == some ']' && isIpv6 rest.dropLast
  | _ => !host.any isForbiddenInHost

/-- The host, and the colon and port behind it.  Colons between brackets
belong to the host. -/
def cutHost : (inBrackets : Bool) → List Char → List Char × List Char
  | _, [] => ([], [])
  | false, ':' :: rest => ([], ':' :: rest)
  | inBrackets, c :: rest =>
      let (host, port) := cutHost (c == '[' || (inBrackets && c != ']')) rest
      (c :: host, port)

/-- The port behind a host; it may be left out. -/
def port? : List Char → Option (Option Nat)
  | [] => some none
  | [_] => some none
  | _ :: digits =>
      match Text.natural? digits with
      | some n => if n ≤ 65535 then some (some n) else none
      | none => none

/-- A text cut at the last occurrence of a character. -/
def cutAtLast? (mark : Char) (cs : List Char) : Option (List Char × List Char) :=
  if cs.contains mark then
    let back := cs.reverse
    some ((back.dropWhile (· != mark)).tail.reverse, (back.takeWhile (· != mark)).reverse)
  else none

/-- Read an authority.  A user needs a host. -/
def Authority.ofText? (cs : List Char) : Option Authority := do
  if cs = ['@'] then none
  let (user, rest) := (cutAtLast? '@' cs).getD ([], cs)
  let (username, password) := cutBefore [':'] user
  let (host, portText) := cutHost false rest
  if !isHost host then none
  let port ← port? portText
  let isAnonymous := user.isEmpty || user = [':']
  if host.isEmpty && !(portText.isEmpty && isAnonymous) then none
  return ⟨username, password.drop 1, host, port⟩

/-- The names on a path, with those for the directory itself and for the one
above it worked off. -/
def pathNames (path : List Char) : List (List Char) :=
  let isDot := fun name : List Char =>
    name == ['.'] || name.map Char.toLower == "%2e".toList
  let isDots := fun name : List Char =>
    let plain := name.map Char.toLower
    ["..", ".%2e", "%2e.", "%2e%2e"].any fun spelled => plain == spelled.toList
  let names := Text.pieces '/' (path.drop 1)
  let (kept, last) := names.foldl (fun (acc : List (List Char) × List (List Char)) name =>
    if isDots name then (acc.1.drop 1, [[]])
    else if isDot name then (acc.1, [[]])
    else (name :: acc.1, [])) ([], [])
  (last ++ kept).reverse

def databaseOfPath? (path : List Char) : Option Int :=
  match (pathNames path).dropWhile List.isEmpty with
  | [] => some 0
  | name :: rest => if rest.all List.isEmpty then Text.signedWord? name else none

/-- The values of a query, names and values with their escapes undone. -/
def queryPairs (query : List Char) : List (String × String) :=
  let decode := fun cs : List Char =>
    Text.lossy ⟨(percentDecode (cs.map fun c => if c = '+' then ' ' else c)).toArray⟩
  ((Text.pieces '&' query).filter fun pair => !pair.isEmpty).map fun pair =>
    let (name, value) := cutBefore ['='] pair
    (decode name, decode (value.drop 1))

/-- The last value of a name in a query. -/
def queryValue? (query : List Char) (name : String) : Option String :=
  (queryPairs query).reverse.lookup name

def defaultPort : Nat := 6379

def ofHost? (parts : Parts) : Option Locator := do
  let authority ← Authority.ofText? (← parts.authority)
  if authority.host.isEmpty then none
  let database ← databaseOfPath? parts.path
  let username ← decodedText? authority.username
  let password ← decodedText? authority.password
  return {
    address := .tcp (String.ofList authority.host) (authority.port.getD defaultPort)
    database := database
    username := if username.isEmpty then none else some username
    password := if password.isEmpty then none else some password }

/-- The locator of a server on a local socket. -/
def ofSocket? (parts : Parts) : Option Locator := do
  if let some text := parts.authority then
    let authority ← Authority.ofText? text
    if !(authority.host.isEmpty || authority.host == "localhost".toList) then none
  if parts.path.head? != some '/' then none
  let path := (pathNames parts.path).flatMap fun name => 0x2F :: percentDecode name
  let database ← match queryValue? parts.query "db" with
    | some value => Text.signedWord? value.toList
    | none => some 0
  return {
    address := .socket ⟨path.toArray⟩
    database := database
    username := queryValue? parts.query "user"
    password := queryValue? parts.query "pass" }

def parse? (url : String) : Option Locator := do
  let (scheme, rest) ← scheme? (tidy url)
  let parts := Parts.ofText rest
  if scheme = "redis".toList then ofHost? parts
  else if scheme = "redis+unix".toList ∨ scheme = "unix".toList then ofSocket? parts
  else none

end Locator

end LayeredConfig.Server
