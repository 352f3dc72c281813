import PackOpening.Text.Blank

/-!
Authorities: a host, the user whose name may stand in front of it behind an at sign, and the port
that may stand behind it after a colon. A host is an address of four numbers, an address in
brackets, or a name.
-/
namespace PackOpening.Service

open PackOpening.Text

structure Authority where
  user : Text
  host : Text
  port : Text
  deriving DecidableEq, Repr

namespace Authority

/-- Takes an authority apart. Brackets hold colons together, up to the last bracket. -/
def ofText (written : Text) : Authority :=
  let (user, place) := cutLast (.char '@') written
  let (host, behind) := match place, cutLast (.char ']') place with
    | .char '[' :: _, (some inside, behind) => (inside ++ "]", behind)
    | _, _ => (place.takeWhile (· != ':'), place.dropWhile (· != ':'))
  ⟨user.getD [], host, if behind.head? == some (.char ':') then behind.drop 1 else behind⟩

/-- Whether nothing but the marks between its parts is given. -/
def isEmpty (authority : Authority) : Bool :=
  authority.user.isEmpty && authority.host.isEmpty && authority.port.isEmpty

end Authority
end PackOpening.Service
