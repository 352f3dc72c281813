import PackOpening.Host.Address
import PackOpening.Host.Name
import PackOpening.Numeric.Written
import PackOpening.Service.Authority
import PackOpening.Text.Lowercase

/-!
What is wrong with an authority. Only names with code points outside ASCII are checked against the
rules for labels here; a plain name is checked when it is read, and only if it starts with punycode.
-/
namespace PackOpening.Service

open PackOpening.Text

namespace Authority

/-- What is wrong with an authority. -/
inductive Fault where
  | dotted (host : Text)
  | bracketed (host : Text)
  | name (host : Text)
  | port (text : Text)
  deriving DecidableEq, Repr

def isBracketed (host : Text) : Bool :=
  2 ≤ host.length && host.head? == some (.char '[') && host.getLast? == some (.char ']')

/-- What stands between the brackets of a host. -/
def unbracketed (host : Text) : Text := (host.drop 1).dropLast

def isPlain (host : Text) : Bool := host.all (·.code < 0x80)

/-- The most digits of a port. -/
def portSizeLimit : Nat := 4300

/-- Whether a text can be read as a port; which integers are ports does not matter. -/
def isPort (text : Text) : Bool :=
  (text.filter fun c => (digitValue? c).isSome).length ≤ portSizeLimit &&
    (Numeric.readInt? text).isSome

def hostFault? (host : Text) : Option Fault :=
  if Host.looksDotted host then if Host.isDotted host then none else some (.dotted host)
  else if isBracketed host then
    if Host.isGrouped (unbracketed host) then none else some (.bracketed host)
  else if isPlain host then none
  else (Host.writtenNameFault? (lowercase host)).map fun _ => .name host

def fault? (authority : Authority) : Option Fault :=
  (hostFault? authority.host).or
    (if authority.port.isEmpty || isPort authority.port then none
      else some (.port authority.port))

def Fault.message : Fault → Text
  | .dotted host => "Invalid IPv4 address: " ++ quoted host
  | .bracketed host => "Invalid IPv6 address: " ++ quoted host
  | .name host => "Invalid IDNA hostname: " ++ quoted host
  | .port text => "Invalid port: " ++ quoted text

/-- Whether a character stands for itself in the name of a host. -/
def isHostChar (c : Char) : Bool :=
  c.isAlphanum || "-._~!$&'()*+,;=\"`\x7b\x7d%|\\".toList.contains c

/-- A plain name as it is sent. -/
def sentName (host : Text) : Text :=
  (lowercase host).flatMap fun c =>
    if c.satisfies isHostChar then [c] else "%" ++ (hexDigits c.code 2).map (·.map Char.toUpper)

/-- A host as it is sent. -/
def sentHost (host : Text) : Text :=
  if Host.looksDotted host || isBracketed host then host
  else if isPlain host then sentName host
  else (Host.writeName (lowercase host)).toOption.getD []

/-- A port as it is sent behind a host, with a colon in front; the usual one is left out. -/
def sentPort (usual : Int) (port : Text) : Text :=
  match Numeric.readInt? port with
  | some n =>
    if n = usual then []
    else ofChars (':' :: (if n < 0 then ['-'] else []) ++ Numeric.digitsOf n.natAbs)
  | none => []

/-- What keeps the host from being read as a name, if it starts with punycode. -/
def nameFault? (authority : Authority) : Option Host.NameFault :=
  let name := sentName authority.host
  if isPlain authority.host && Host.punycodeMark.isPrefixOf name then Host.readNameFault? name
  else none

example : ofText "u@v@h:80" = ⟨"u@v", "h", "80"⟩ ∧ ofText "[::1]:x" = ⟨[], "[::1]", "x"⟩ ∧
    ofText "[::1" = ⟨[], "[", ":1"⟩ ∧ fault? ⟨[], "1.2.3.256", "x"⟩ = some (.dotted "1.2.3.256") ∧
    fault? ⟨[], "h", "8a"⟩ = some (.port "8a") := by decide +kernel

end Authority
end PackOpening.Service
