import PackOpening.Service.History
import PackOpening.Service.Unsent

/-!
Addresses that a client reads once it has an answer, and gives the answer up if it cannot.

First comes the address that the request was sent to: its brackets must close where they first can.
Then, if the request is redirected, comes the new address that the answer names: the path of the
place behind the host under which the request says that it reached the service. A header that does
not hold a host is passed over, and the new address then has the host that the request was sent to.
-/
namespace PackOpening.Service

open PackOpening.Text

/-- The greatest number of a port. -/
def portLimit : Nat := 65535

/-- Whether a text is empty, or a colon with the number of a port, or with none, behind it. -/
def isPortPart : Text → Bool
  | [] => true
  | colon :: number =>
    colon == .char ':' && number.all CodePoint.isAsciiDigit &&
      Numeric.ofAsciiDigits number ≤ portLimit

/-- Whether a character stands for itself in the name of a host that a header holds. -/
def isNameChar (c : Char) : Bool := c.isAlphanum || "-._~!$&'()*+,;=".toList.contains c

/-- Whether a text consists of characters that stand for themselves and of escapes. -/
def isNamePart : Text → Bool
  | .char '%' :: high :: low :: rest =>
    Host.isHexDigit high && Host.isHexDigit low && isNamePart rest
  | c :: rest => c.satisfies isNameChar && isNamePart rest
  | [] => true

/-- Whether a text is an address of a kind that is yet to come: a version in hexadecimal digits
behind the letter, a dot, and the address. -/
def isFutureAddress : Text → Bool
  | .char 'v' :: rest =>
    let (version, address) := cut (.char '.') rest
    !version.isEmpty && version.all Host.isHexDigit &&
      address.any fun address =>
        !address.isEmpty && address.all fun c => c == .char ':' || c.satisfies isNameChar
  | _ => false

/-- Whether a header holds a host: a name, or an address in brackets, perhaps with a port behind
it. An address in brackets has groups that fit, but a name may look like an address that is none. -/
def holdsHost : Text → Bool
  | .char '[' :: rest =>
    let (inside, behind) := cut (.char ']') rest
    (Host.isGrouped inside || isFutureAddress inside) && behind.any isPortPart
  | header =>
    let name := header.takeWhile (· != .char ':')
    !name.isEmpty && isNamePart name && isPortPart (header.dropWhile (· != .char ':'))

/-- Why a client gives up an answer: it cannot read the address that the request was sent to, or the
one that the answer names, or it cannot put the fragment of the former behind the latter. -/
inductive AddressFault where
  | strayBracket
  | noAddress (text : Text)
  | tooLong
  | authority (fault : Authority.Fault)
  | hostName (fault : Host.NameFault)
  | fragment (c : Char) (position : Nat)
  deriving DecidableEq, Repr

/-- What is wrong with the brackets of a host. Only a port may stand behind the first one that
closes, and an address before it. -/
def bracketFault? (host : Text) : Option AddressFault :=
  if Authority.isBracketed host then
    match cut (.char ']') (host.drop 1) with
    | (address, some (c :: _)) =>
      if c != .char ':' then some .strayBracket
      else if Host.isGrouped address then none
      else some (.noAddress address)
    | _ => none
  else none

/-- The host that a header of a request holds. -/
def Request.heldHost? (request : Request) : Option Text :=
  ((request.header? "host").map Text.ofString).filter holdsHost

/-- The host of the service behind which a target that does not name its path outright is put. -/
def ownHost : Text := "testserver"

/-- The size of the address that the answer to a redirected request names. -/
def Request.newAddressSize (request : Request) : Nat :=
  let target := Target.ofText request.target
  let scheme := if target.isAbsolute then target.scheme.map Char.toLower else "http".toList
  let usualPort : Int := if scheme = "https".toList then 443 else 80
  let sentTo :=
    if target.isAbsolute then
      Authority.sentHost target.authority.host ++
        Authority.sentPort usualPort target.authority.port
    else ownHost
  let keeps (c : Char) : Bool := isNameChar c || ":/%#?=@[]".toList.contains c
  let path := Target.escapedSize keeps (Route.otherEnding (pathOf request.target))
  let query := Target.escapedSize (fun c => Target.keeps .query c && keeps c) target.query
  scheme.length + "://".length + (request.heldHost?.getD sentTo).length + path +
    (if target.query.isEmpty then 0 else query + 1)

/-- The first control character in the fragment that a client puts behind a new address. -/
def fragmentFault? (target : Target) : Option AddressFault :=
  let fragment := if target.isAbsolute then decodeEscapes target.fragment else []
  (fragment.find? Target.isControl).map fun c => .fragment c (fragment.idxOf c)

/-- What keeps a client from reading the address that the answer to a redirected request names, or
from comparing it with the one that the request was sent to. That the host of the latter was not
read before is due to a header that named another one. -/
def Request.newAddressFault? (request : Request) : Option AddressFault :=
  let target := Target.ofText request.target
  let named := request.heldHost?.map Authority.ofText
  if Target.sizeLimit < request.newAddressSize then some .tooLong
  else ((named.bind Authority.fault?).map .authority).or
    (((named.bind Authority.nameFault?).map .hostName).or
      ((fragmentFault? target).or
        ((if target.isAbsolute then target.authority.nameFault? else none).map .hostName)))

/-- What keeps a client from reading the addresses that come with an answer. -/
def Request.addressFault? (request : Request) (isRedirected : Bool) : Option AddressFault :=
  let target := Target.ofText request.target
  (if target.isAbsolute then bracketFault? target.authority.host else none).or
    (if isRedirected then request.newAddressFault? else none)

def AddressFault.message : AddressFault → Text
  | strayBracket => "Invalid IPv6 URL"
  | noAddress text => quoted text ++ " does not appear to be an IPv4 or IPv6 address"
  | tooLong => "Invalid URL in location header: URL too long."
  | authority fault => "Invalid URL in location header: " ++ fault.message ++ "."
  | hostName fault => fault.message
  | fragment c position =>
    "Invalid non-printable ASCII character in URL fragment component, " ++ quoted [.char c] ++
      " at position " ++ ofChars (Numeric.digitsOf position) ++ "."

/-- Why a client does not send a request, or gives its answer up. -/
inductive ClientFault where
  | unsent (why : Unsent)
  | address (why : AddressFault)
  deriving DecidableEq, Repr

/-- A client that checks targets, headers and addresses in this way. -/
def Client.usual : Client ClientFault where
  unsent? request := request.unsent?.map .unsent
  givenUp? request isRedirected := (request.addressFault? isRedirected).map .address

example : holdsHost "h_1.example:80" = true ∧ holdsHost "[::1]:80" = true ∧
    holdsHost "h:65536" = false ∧ holdsHost "a/b" = false ∧ holdsHost "[1.2.3.4]" = false ∧
    holdsHost "[v1.a]" = true ∧ holdsHost "%4" = false := by decide +kernel

example : bracketFault? "[::1%a[b]" = none ∧ bracketFault? "[::1%a]b]" = some .strayBracket ∧
    bracketFault? "[::1%]:b]" = some (.noAddress "::1%") := by decide +kernel

end PackOpening.Service
