import NameRoles.Url.Host
import NameRoles.Url.Path

/-!
# URLs

Absolute URLs, read with the leniency of browsers and written in one canonical form.
-/

namespace NameRoles

open Text

namespace Url

/-- The server of a URL. -/
structure Authority where
  /-- User name and password, as they are written. -/
  userInfo : String
  host : Host
  /-- The port, if it is not the scheme's own. -/
  port : Option Nat
deriving DecidableEq, Repr

end Url

structure Url where
  scheme : String
  authority : Option Url.Authority
  /-- The path as it is written; it starts with a slash unless it is empty or opaque. -/
  path : String
  query : Option String
  fragment : Option String
deriving DecidableEq, Repr

namespace Url

def Authority.text (authority : Authority) : String :=
  let userInfo := if authority.userInfo = "" then "" else authority.userInfo ++ "@"
  let port := (authority.port.map fun port => s!":{port}").getD ""
  s!"//{userInfo}{authority.host.text}{port}"

def text (url : Url) : String :=
  let server := match url.authority with
    | some authority => authority.text
    | none => if url.path.startsWith "//" then "/." else ""
  let query := (url.query.map ("?" ++ ·)).getD ""
  let fragment := (url.fragment.map ("#" ++ ·)).getD ""
  s!"{url.scheme}:{server}{url.path}{query}{fragment}"

/-- The path is not made of segments. -/
def hasOpaquePath (url : Url) : Bool := url.authority.isNone && !url.path.startsWith "/"

/-! ## Reading -/

/-- The user name and password in front of an at sign: the first colon divides them, and it is not
written when no password follows. -/
def readUserInfo (cs : List Char) : List Char :=
  let name := encode inUserInfo (cs.takeWhile (· ≠ ':'))
  match cs.dropWhile (· ≠ ':') with
  | _ :: password =>
    if password.isEmpty then name else name ++ ':' :: encode inUserInfo password
  | [] => name

/-- The texts in front of the last at sign, if there is one, and behind it. -/
def splitAtSign (cs : List Char) : Option (List Char) × List Char :=
  let parts := splitWhere (· = '@') cs
  match parts.getLast? with
  | some last =>
    if parts.length > 1 then (some (['@'].intercalate parts.dropLast), last) else (none, last)
  | none => (none, cs)

/-- The text of the host and that of the port behind its colon; brackets may hold colons. -/
def splitPort : Bool → List Char → List Char × Option (List Char)
  | _, [] => ([], none)
  | bracketed, c :: cs =>
    if c = ':' && !bracketed then ([], some cs)
    else
      let (host, port) := splitPort (c = '[' || (bracketed && c ≠ ']')) cs
      (c :: host, port)

/-- The port that digits spell, and what a backslash behind them starts. No port stands for that of
the scheme. -/
def readPort (kind : SchemeKind) (cs : List Char) : Except Error (Option Nat × List Char) :=
  let digits := cs.takeWhile Char.isDigit
  let rest := cs.dropWhile Char.isDigit
  let port := decimalNumber digits
  if port > 65535 || rest.head?.any (· ≠ '\\') then .error .badPort
  else if digits.isEmpty || kind = .special port then .ok (none, rest)
  else .ok (some port, rest)

/-- Reads the server of a URL, given without the slashes in front, and what of the path stands in
the same text. When the text is the URL's last, an at sign may stand by itself. -/
def readAuthority (kind : SchemeKind) (isLast : Bool) (cs : List Char) :
    Except Error (Authority × List Char) := do
  let (user, server) := splitAtSign cs
  let userInfo := String.ofList ((user.map readUserInfo).getD [])
  let (host, port) := splitPort false server
  if host.isEmpty &&
      (kind ≠ .other || port.isSome || userInfo ≠ "" || (cs = ['@'] && !isLast)) then
    throw .emptyHost
  let host ← if kind = .other then Host.parseOpaque host else Host.parse host
  let (port, rest) ← readPort kind (port.getD [])
  return (⟨userInfo, host, port⟩, rest)

/-- Reads the host of a file, which may be empty; the local host is. -/
def readFileHost (cs : List Char) : Except Error Host :=
  if cs.isEmpty then .ok (.domain "")
  else match Host.parse cs with
    | .ok (.domain "localhost") => .ok (.domain "")
    | host => host

/-- Reads server and path of a file, behind the scheme's colon. A drive takes the place of a
host. -/
def readFile (cs : List Char) : Except Error (Authority × String) := do
  let slashes := (cs.take 2).takeWhile (isSlash true)
  let server := (cs.drop 2).takeWhile fun c => !isSlash true c
  let (host, path) ←
    if slashes.length = 0 then pure (.domain "", Path.follow .file ['/'] cs)
    else if slashes.length = 1 then pure (.domain "", Path.follow .file [] cs)
    else if Path.isDrive server then pure (.domain "", Path.follow .file ['/'] (cs.drop 2))
    else do
      let host ← readFileHost server
      let path := Path.readBehind .file (host.text ≠ "") (cs.drop (2 + server.length))
      pure (if Path.startsWithDrive (path.drop 1) then .domain "" else host, path)
  return (⟨"", host, none⟩, Path.text .file path)

/-- Reads server and path, the text between the scheme's colon and query or fragment, of which one
may follow. -/
def readHierarchy (kind : SchemeKind) (followed : Bool) (cs : List Char) :
    Except Error (Option Authority × String) := do
  let readServer (cs : List Char) : Except Error (Option Authority × String) := do
    let isServer (c : Char) : Bool := !isSlash kind.isSpecial c
    let behind := cs.dropWhile isServer
    let isLast := behind.isEmpty && !followed
    let (authority, rest) ← readAuthority kind isLast (cs.takeWhile isServer)
    return (some authority, Path.text kind (Path.readBehind kind true (rest ++ behind)))
  match kind, cs with
  | .special _, cs => readServer (cs.dropWhile (isSlash true))
  | .file, cs => do
    let (authority, path) ← readFile cs
    return (some authority, path)
  | .other, '/' :: '/' :: cs => readServer cs
  | .other, '/' :: _ => return (none, Path.text kind (Path.readBehind kind false cs))
  | .other, cs => return (none, String.ofList (encode isControl cs))

/-- The text in front of a character and the text behind it, if it occurs. -/
def cutAt (c : Char) (cs : List Char) : List Char × Option (List Char) :=
  match cs.dropWhile (· ≠ c) with
  | [] => (cs, none)
  | _ :: behind => (cs.takeWhile (· ≠ c), some behind)

/-- A character that is trimmed from both ends. -/
def isTrimmed (c : Char) : Bool := c.toNat ≤ 0x20

/-- The text without what is passed over in a URL. -/
def clean (cs : List Char) : List Char :=
  let trimmed := (((cs.dropWhile isTrimmed).reverse).dropWhile isTrimmed).reverse
  trimmed.filter fun c => c ≠ '\t' && c ≠ '\n' && c ≠ '\r'

/-- Reads an absolute URL. -/
def parse (text : String) : Except Error Url := do
  match readScheme? (clean text.toList) with
  | none => .error .noBase
  | some (scheme, rest) =>
    let kind := schemeKind scheme
    let (rest, fragment) := cutAt '#' rest
    let (rest, query) := cutAt '?' rest
    let (authority, path) ← readHierarchy kind (query.isSome || fragment.isSome) rest
    return {
      scheme, authority, path
      query := query.map fun cs => String.ofList (encode (inQuery kind.isSpecial) cs)
      fragment := fragment.map fun cs => String.ofList (encode inFragment cs) }

/-! ## Bases of other URLs -/

/-- A host is written in the URL. -/
def hasHost (url : Url) : Bool := url.authority.any (·.host.text ≠ "")

/-- The URL with a path that ends in a slash. -/
def asDirectory (url : Url) : Url :=
  if url.path.endsWith "/" then url
  else if url.hasOpaquePath then
    { url with path := if url.path = "" then "%2F" else url.path ++ "/" }
  else
    let kind := schemeKind url.scheme
    { url with path := Path.text kind (Path.readBehind kind url.hasHost (url.path ++ "/").toList) }

/-- The URL that a relative path leads to. -/
def join (base : Url) (path : String) : Except Error Url :=
  if base.hasOpaquePath then .error .opaqueBase
  else
    let kind := schemeKind base.scheme
    let start := Path.withSlash (Path.directory base.path.toList)
    .ok { base with
      path := Path.text kind (Path.follow kind start path.toList)
      query := none
      fragment := none }

end Url

end NameRoles
