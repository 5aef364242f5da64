import FlowNet.Text.Letter

/-!
# Addresses

An absolute address is a scheme and either an opaque path or an authority with a path in segments. The
web schemes need a host, take backslashes for slashes, and drop their default port; file addresses may
have an empty host. What may not stand in a part is written as percent signs and hexadecimal bytes.
-/

namespace FlowNet.Http

inductive UrlError where
  | relative
  | emptyHost
  | invalidPort
  | invalidHost
deriving DecidableEq

def UrlError.message : UrlError → String
  | relative => "relative URL without a base"
  | emptyHost => "empty host"
  | invalidPort => "invalid port number"
  | invalidHost => "invalid domain character"

structure Authority where
  user : String
  password : Option String
  host : String
  port : Option Nat

structure Url where
  scheme : String
  authority : Option Authority
  path : String
  query : Option String
  fragment : Option String

/-- The schemes with segments and, except for files, a host and a default port. -/
inductive SchemeKind where
  | web (defaultPort : Nat)
  | file
  | other

def schemeKind (scheme : String) : SchemeKind :=
  match scheme with
  | "http" => .web 80
  | "https" => .web 443
  | "ws" => .web 80
  | "wss" => .web 443
  | "ftp" => .web 21
  | "file" => .file
  | _ => .other

def SchemeKind.isSpecial : SchemeKind → Bool
  | other => false
  | _ => true

/-! ## Percent encoding -/

def upperHex (n : Nat) : Char := (Nat.digitChar n).toUpper

def encodeByte (b : UInt8) : List Char := ['%', upperHex (b.toNat / 16), upperHex (b.toNat % 16)]

/-- Control characters, everything outside ASCII, and what `also` names. -/
def encodeWith (also : List Char) (cs : List Char) : String :=
  String.ofList (cs.flatMap fun c =>
    if c.toNat < 32 || 126 < c.toNat || also.contains c then c.toString.toUTF8.toList.flatMap encodeByte else [c])

def fragmentSet : List Char := [' ', '"', '<', '>', '\x60']

def pathSet : List Char := fragmentSet ++ ['#', '?', '{', '}']

def userSet : List Char := pathSet ++ ['/', ':', ';', '=', '@', '[', '\\', ']', '^', '|']

def querySet (special : Bool) : List Char :=
  [' ', '"', '#', '<', '>'] ++ if special then ['\''] else []

/-! ## Parts -/

def isEdge (c : Char) : Bool := c.toNat ≤ 32

def trimmed (s : String) : List Char :=
  let cs := s.toList.dropWhile isEdge
  (cs.reverse.dropWhile isEdge).reverse.filter fun c => c ≠ '\t' && c ≠ '\n' && c ≠ '\r'

def isSchemePart (c : Char) : Bool := c.isAlphanum || c = '+' || c = '-' || c = '.'

/-- The scheme in lower case and what follows its colon. -/
def splitScheme (cs : List Char) : Option (String × List Char) :=
  let name := cs.takeWhile isSchemePart
  match name, cs.drop name.length with
  | c :: _, ':' :: rest => if c.isAlpha then some (String.ofList (name.map Char.toLower), rest) else none
  | _, _ => none

def isSlash (special : Bool) (c : Char) : Bool := c = '/' || special && c = '\\'

def endsAuthority (special : Bool) (c : Char) : Bool := isSlash special c || c = '?' || c = '#'

def splitUser (cs : List Char) : Option (List Char) × List Char :=
  if '@' ∈ cs then
    let host := (cs.reverse.takeWhile (· ≠ '@')).reverse
    (some (cs.take (cs.length - host.length - 1)), host)
  else (none, cs)

/-- The host, and the port text after its colon. A colon in brackets belongs to the host. -/
def splitPort (bracketed : Bool) : List Char → List Char × Option (List Char)
  | [] => ([], none)
  | c :: rest =>
    if c = ':' ∧ !bracketed then ([], some rest)
    else
      let (host, port) := splitPort (if c = '[' then true else if c = ']' then false else bracketed) rest
      (c :: host, port)

def portOf (cs : List Char) (kind : SchemeKind) : Except UrlError (Option Nat) :=
  if cs.any (fun c => !c.isDigit) then .error .invalidPort
  else
    let n := cs.foldl (fun n c => n * 10 + (c.toNat - 48)) 0
    if 65535 < n then .error .invalidPort
    else
      match kind with
      | .web d => .ok (if cs.isEmpty || n = d then none else some n)
      | _ => .ok (if cs.isEmpty then none else some n)

def forbiddenInHost : List Char := ['\x00', ' ', '#', '/', '<', '>', '?', '@', '[', '\\', ']', '^', '|']

def hostOf (cs : List Char) (special : Bool) : Except UrlError String :=
  if cs.head? = some '[' then
    if cs.getLast? = some ']' then .ok (String.ofList (cs.map Char.toLower)) else .error .invalidHost
  else if cs.any forbiddenInHost.contains then .error .invalidHost
  else if special then
    if cs.any (fun c => c = '%' || c.toNat < 32 || c.toNat = 127) then .error .invalidHost
    else .ok (String.ofList (cs.map Char.toLower))
  else .ok (encodeWith [] cs)

def authorityOf (cs : List Char) (kind : SchemeKind) : Except UrlError Authority := do
  let special := kind.isSpecial
  let (user, hostPort) := splitUser cs
  if user.isSome && hostPort.isEmpty then .error .emptyHost
  else
    let (host, port) := splitPort false hostPort
    let mustHaveHost := match kind with
      | .web _ => true
      | _ => port.isSome
    if host.isEmpty && mustHaveHost then .error .emptyHost
    else
      let host ← hostOf host special
      let port ← portOf (port.getD []) kind
      let credentials := user.getD []
      let name := credentials.takeWhile (· ≠ ':')
      let secret := credentials.drop (name.length + 1)
      return {
        user := encodeWith userSet name
        password := if secret.isEmpty then none else some (encodeWith userSet secret)
        host := match kind with
          | .file => if host = "localhost" then "" else host
          | _ => host
        port := port }

/-! ## Paths -/

def splitSegments (special : Bool) : List Char → List (List Char)
  | [] => [[]]
  | c :: rest =>
    match splitSegments special rest with
    | s :: more => if isSlash special c then [] :: s :: more else (c :: s) :: more
    | [] => [[c]]

def isDot (s : String) : Bool := s = "." || s.toLower = "%2e"

def isDoubleDot (s : String) : Bool := ["..", ".%2e", "%2e.", "%2e%2e"].contains s.toLower

/-- Walks the segments; `done` holds those before, last first. A dot segment at the end leaves an empty
one. -/
def resolveDots (done : List String) : List String → List String
  | [] => done.reverse
  | s :: rest =>
    if isDoubleDot s then resolveDots (if rest.isEmpty then "" :: done.drop 1 else done.drop 1) rest
    else if isDot s then resolveDots (if rest.isEmpty then "" :: done else done) rest
    else resolveDots (s :: done) rest

def rootedPath (special : Bool) (cs : List Char) : String :=
  let segments := (splitSegments special cs).map (encodeWith pathSet)
  "/" ++ "/".intercalate (resolveDots [] segments)

def splitTail (special : Bool) (cs : List Char) : List Char × Option String × Option String :=
  let body := cs.takeWhile (· ≠ '#')
  let fragment := if '#' ∈ cs then some (encodeWith fragmentSet (cs.drop (body.length + 1))) else none
  let path := body.takeWhile (· ≠ '?')
  let query := if '?' ∈ body then some (encodeWith (querySet special) (body.drop (path.length + 1))) else none
  (path, query, fragment)

def pathAfterAuthority (special : Bool) (cs : List Char) : String :=
  match cs with
  | [] => if special then "/" else ""
  | c :: rest => rootedPath special (if isSlash special c then rest else c :: rest)

def withAuthority (scheme : String) (kind : SchemeKind) (cs : List Char) : Except UrlError Url := do
  let special := kind.isSpecial
  let head := cs.takeWhile (fun c => !endsAuthority special c)
  let authority ← authorityOf head kind
  let (path, query, fragment) := splitTail special (cs.drop head.length)
  return ⟨scheme, some authority, pathAfterAuthority special path, query, fragment⟩

def Url.parse (s : String) : Except UrlError Url :=
  match splitScheme (trimmed s) with
  | none => .error .relative
  | some (scheme, rest) =>
    let kind := schemeKind scheme
    match kind with
    | .web _ => withAuthority scheme kind (rest.dropWhile (isSlash true))
    | .file =>
      match rest with
      | a :: b :: more =>
        if isSlash true a && isSlash true b then withAuthority scheme kind more
        else withAuthority scheme kind ('/' :: if isSlash true a then b :: more else a :: b :: more)
      | more => withAuthority scheme kind ('/' :: more.dropWhile (isSlash true))
    | .other =>
      match rest with
      | '/' :: '/' :: more => withAuthority scheme kind more
      | '/' :: more =>
        let (path, query, fragment) := splitTail false more
        .ok ⟨scheme, none, rootedPath false path, query, fragment⟩
      | more =>
        let (path, query, fragment) := splitTail false more
        .ok ⟨scheme, none, encodeWith [] path, query, fragment⟩

namespace Url

def hasHost (u : Url) : Bool :=
  match u.authority with
  | some a => !a.host.isEmpty
  | none => false

def isWeb (u : Url) : Bool := u.scheme = "http" || u.scheme = "https"

def Authority.text (a : Authority) : String :=
  let secret := match a.password with
    | some p => ":" ++ p
    | none => ""
  let credentials := if a.user.isEmpty && secret.isEmpty then "" else a.user ++ secret ++ "@"
  let port := match a.port with
    | some n => ":" ++ toString n
    | none => ""
  credentials ++ a.host ++ port

def text (u : Url) : String :=
  let authority := match u.authority with
    | some a => "//" ++ Authority.text a
    | none => if u.path.startsWith "//" then "/." else ""
  let tail (mark : String) (part : Option String) := match part with
    | some s => mark ++ s
    | none => ""
  u.scheme ++ ":" ++ authority ++ u.path ++ tail "?" u.query ++ tail "#" u.fragment

/-- A request carries user name and password in a header, not in the address. -/
def withoutCredentials (u : Url) : Url :=
  { u with authority := u.authority.map fun a => { a with user := "", password := none } }

end Url

end FlowNet.Http
