import PackOpening.Json.Reader
import PackOpening.Service.Authority
import PackOpening.Text.Utf8

/-!
Request targets. A target has a scheme, an authority, a path, a query, and a fragment that is not
sent. A target with a scheme and a host names its path outright. In front of any other
target stands the service itself, and its path starts with one slash. Steps along the path are
carried out before its escapes are decoded, and what the decoding yields is decoded once more.
-/
namespace PackOpening.Service

open PackOpening.Text

/-- The bytes of a path, its escapes decoded. -/
def unescape : List UInt8 → List UInt8
  | 0x25 :: high :: low :: rest =>
    match Json.hexValue? high.toNat, Json.hexValue? low.toNat with
    | some h, some l => (h * 16 + l).toUInt8 :: unescape rest
    | _, _ => 0x25 :: unescape (high :: low :: rest)
  | b :: rest => b :: unescape rest
  | [] => []

/-- The text of bytes, each stretch at fault read as one replacement character. -/
def readLeniently : (steps : Nat) → List UInt8 → List Char
  | 0, _ => []
  | steps + 1, bytes =>
    match Utf8.decode bytes with
    | .ok text => text
    | .error fault =>
      let start := bytes.length - fault.left
      ((Utf8.decode (bytes.take start)).toOption.getD []) ++
        Char.ofNat 0xFFFD :: readLeniently steps (bytes.drop (start + fault.size))

/-- The text with its escaped bytes decoded; bytes that are no text then read as the replacement
character. -/
def decodeEscapes (text : List Char) : List Char :=
  let bytes := unescape (String.ofList text).toUTF8.toList
  readLeniently (bytes.length + 1) bytes

structure Target where
  scheme : List Char
  authority : Authority
  path : List Char
  query : List Char
  fragment : List Char
  deriving DecidableEq, Repr

namespace Target

def isSchemeChar (c : Char) : Bool := c.isAlphanum || c == '+' || c == '-' || c == '.'

/-- Splits a scheme off, which starts with a letter and ends with a colon, or is empty in front of
one. -/
def splitScheme (target : List Char) : List Char × List Char :=
  let scheme := target.takeWhile isSchemeChar
  match target.dropWhile isSchemeChar with
  | ':' :: rest =>
    if (scheme.head?.map Char.isAlpha).getD true then (scheme, rest) else ([], target)
  | _ => ([], target)

/-- Splits an authority off, which stands behind two slashes. -/
def splitAuthority : List Char → List Char × List Char
  | '/' :: '/' :: rest => (rest.takeWhile (· != '/'), rest.dropWhile (· != '/'))
  | path => ([], path)

def ofText (written : String) : Target :=
  let (sent, fragment) := cut '#' written.toList
  let (place, query) := cut '?' sent
  let (scheme, rest) := splitScheme place
  let (authority, path) := splitAuthority rest
  ⟨scheme, .ofText (ofChars authority), path, query.getD [], fragment.getD []⟩

/-- Whether nothing stands in front of the path of a target. -/
def isPath (target : Target) : Bool := target.scheme.isEmpty && target.authority.isEmpty

/-- Whether a target names its path outright. -/
def isAbsolute (target : Target) : Bool :=
  !target.scheme.isEmpty && !target.authority.host.isEmpty

end Target

/-- Carries out the steps along a path: a point stays, and two points lead back, but not beyond the
start. -/
def carryOutSteps (path : List Char) : List Char :=
  let segments := (pieces '/' path).foldl (fun (above : List (List Char)) segment =>
    if segment = ['.'] then above
    else if segment = ['.', '.'] then (if above = [[]] then above else above.drop 1)
    else segment :: above) []
  List.intercalate ['/'] segments.reverse

/-- The path of a target by itself. A scheme or an authority has the steps along it carried out. -/
def Target.ownPath (target : Target) : List Char :=
  if target.isPath then target.path else carryOutSteps target.path

/-- The path of a target behind the service. -/
def Target.pathBehind (target : Target) : List Char := '/' :: target.ownPath.dropWhile (· == '/')

/-- The path that a target leads to, its escapes not yet decoded. -/
def Target.resolved (target : Target) : List Char :=
  let path := if target.isAbsolute then target.ownPath else carryOutSteps target.pathBehind
  if path.isEmpty then ['/'] else path

/-- The path that a written target names. -/
def pathOf (target : String) : List Char :=
  decodeEscapes (decodeEscapes (Target.ofText target).resolved)

/-- The path as it is reported: without line ends and tabs, and with backslashes and the marks of a
query and of a fragment escaped. -/
def reportedPath (path : List Char) : String :=
  String.ofList (path.flatMap fun c =>
    if c = '\t' ∨ c = '\n' ∨ c = '\r' then []
    else if c = '?' then ['%', '3', 'F']
    else if c = '#' then ['%', '2', '3']
    else if c = '\\' then ['%', '5', 'C']
    else [c])

example : pathOf "//host//a/./b/../c%2f?q" = "/a/c/".toList ∧ pathOf "/.." = ['/'] ∧
    pathOf "http://host//a" = "//a".toList ∧ pathOf "//host/..//" = ['/'] ∧
    pathOf "/a:b" = "/a:b".toList ∧ pathOf "/%253f" = "/?".toList ∧
    reportedPath "/a?b".toList = "/a%3Fb" := by decide +kernel

/-- The places of the service. At the last four it describes itself. -/
inductive Route where
  | root | validate | generate | openPack
  | outline | manual | manualSignIn | reference
  deriving DecidableEq, Repr

namespace Route

def all : List Route :=
  [outline, manual, manualSignIn, reference, root, validate, generate, openPack]

def path : Route → String
  | root => "/"
  | validate => "/admin/booster_templates/validate"
  | generate => "/admin/booster_templates/test_generate"
  | openPack => "/open_pack"
  | outline => "/openapi.json"
  | manual => "/docs"
  | manualSignIn => "/docs/oauth2-redirect"
  | reference => "/redoc"

/-- The methods that a place answers to. -/
def methods : Route → List String
  | root => ["GET"]
  | validate | generate | openPack => ["POST"]
  | outline | manual | manualSignIn | reference => ["GET", "HEAD"]

/-- The place at a path; a line feed at the end of the path does not count. -/
def at? (path : List Char) : Option Route :=
  all.find? fun route => path == route.path.toList || path == route.path.toList ++ ['\n']

/-- The path with its slashes at the end removed, or with one added if it has none. -/
def otherEnding (path : List Char) : List Char :=
  if path.getLast? = some '/' then (path.reverse.dropWhile (· == '/')).reverse else path ++ ['/']

end Route
end PackOpening.Service
