import PackOpening.Service.AuthorityFault
import PackOpening.Service.Request
import PackOpening.Text.Charset

/-!
What keeps a client from sending a request: a target that is too long, holds a control character,
names no host or port, or is ambiguous; a header that ASCII does not hold; a host that cannot be
read; and a scheme that is not known.
-/
namespace PackOpening.Service

/-- The parts of a target that have a size of their own. -/
inductive TargetPart where
  | path | query
  deriving DecidableEq, Repr

def TargetPart.name : TargetPart → String
  | path => "path"
  | query => "query"

/-- Why a request is not sent. -/
inductive Unsent where
  | longTarget
  | controlCharacter (c : Char) (position : Nat)
  | authority (fault : Authority.Fault)
  | twoSlashes
  | colon
  | longPart (part : TargetPart)
  | header (fault : Text.Charset.Fault)
  | zone (fault : Text.Charset.Fault)
  | hostName (fault : Host.NameFault)
  | unknownScheme (scheme : List Char)
  deriving DecidableEq, Repr

namespace Target

/-- The most characters of a written target, and of its path and its query as they are sent. -/
def sizeLimit : Nat := 65536

def isControl (c : Char) : Bool := c.toNat < 0x20 || c.toNat == 0x7F

/-- Whether a character stands for itself in a part that is sent. -/
def keeps (part : TargetPart) (c : Char) : Bool :=
  let escaped : List Char := match part with
    | .path => "\"#<>?`\x7b\x7d".toList
    | .query => "\"#<>".toList
  0x20 < c.toNat && c.toNat < 0x7F && !escaped.contains c

/-- The size of a text where each byte of a character that does not stand for itself takes three
characters. -/
def escapedSize (keeps : Char → Bool) (text : List Char) : Nat :=
  text.foldr (fun c size => (if keeps c then 1 else 3 * c.utf8Size) + size) 0

/-- The part that is too long behind the service. -/
def longPart? (target : Target) : Option TargetPart :=
  if target.isAbsolute then none
  else if sizeLimit < escapedSize (keeps .path) target.pathBehind then some .path
  else if sizeLimit < escapedSize (keeps .query) target.query then some .query
  else none

/-- Why a written target is not sent. A path alone must not look as if something stood before it. -/
def unsent? (written : String) : Option Unsent :=
  let target := ofText written
  if sizeLimit < written.length then some .longTarget
  else match written.toList.find? isControl, target.authority.fault? with
    | some c, _ => some (.controlCharacter c (written.toList.idxOf c))
    | none, some fault => some (.authority fault)
    | none, none =>
      if target.isPath && ['/', '/'].isPrefixOf target.path then some .twoSlashes
      else if target.isPath && [':'].isPrefixOf target.path then some .colon
      else target.longPart?.map .longPart

/-- Why the host of a target that names its path outright cannot be told to the service. The client
names it in a header, with its brackets and as a name that it has read, unless the request has such
a header of its own. Then only the text without brackets has to be ASCII. -/
def untold? (target : Target) (hasHeader : Bool) : Option Unsent :=
  let host := target.authority.host
  if !target.isAbsolute then none
  else if Authority.isBracketed host then
    (Text.Charset.ascii.fault? (if hasHeader then Authority.unbracketed host else host)).map .zone
  else if hasHeader then none
  else target.authority.nameFault?.map .hostName

def knownSchemes : List (List Char) := ["http", "https", "ws", "wss"].map String.toList

/-- The scheme of a target that names its path outright, if no such scheme is known. -/
def unknownScheme? (target : Target) : Option (List Char) :=
  let scheme := target.scheme.map Char.toLower
  if target.isAbsolute && !knownSchemes.contains scheme then some scheme else none

end Target

/-- Why a request is not sent: its target is looked at first, then the names and values of its
headers in their order, then its host, and then its scheme. -/
def Request.unsent? (request : Request) : Option Unsent :=
  let target := Target.ofText request.target
  let parts := request.headers.flatMap fun (name, value) => [name, value]
  (Target.unsent? request.target).or
    (((parts.findSome? fun part => Text.Charset.ascii.fault? part).map .header).or
      ((target.untold? (request.header? "host").isSome).or
        (target.unknownScheme?.map .unknownScheme)))

def Unsent.message : Unsent → Text
  | .longTarget => "URL too long"
  | .controlCharacter c position =>
    "Invalid non-printable ASCII character in URL, " ++ Text.quoted [.char c] ++ " at position " ++
      Text.ofChars (Numeric.digitsOf position) ++ "."
  | .authority fault => fault.message
  | .twoSlashes => "Relative URLs cannot have a path starting with '//'"
  | .colon => "Relative URLs cannot have a path starting with ':'"
  | .longPart part => "URL component '" ++ part.name ++ "' too long"
  | .header fault | .zone fault => fault.message
  | .hostName fault => fault.message
  | .unknownScheme scheme => Text.quoted (Text.ofChars scheme)

example : Target.unsent? "////a" = some .twoSlashes ∧ Target.unsent? "::a" = some .colon ∧
    Target.unsent? "//host//a" = none ∧ Target.unsent? "//h:x" = some (.authority (.port "x")) ∧
    Target.unsent? "/a\nb" = some (.controlCharacter '\n' 2) := by decide +kernel

end PackOpening.Service
