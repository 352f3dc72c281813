import PackOpening.Named
import PackOpening.Service.Target
import PackOpening.Text.Lowercase
import PackOpening.Text.Uppercase

/-!
Requests, and how a client forms them.
-/
namespace PackOpening.Service

structure Request where
  method : String
  target : String
  headers : List (String × String)
  body : List UInt8
  deriving Repr

/-- The request that a client forms. Its method stands in capitals and the names of its headers in
small letters; a name given again takes the later value. Other headers stand behind the given ones
unless their names are among those. -/
def Request.formed (method : Text) (target : String) (others headers : List (Text × String))
    (body : List UInt8) : Request :=
  let given := Named.update [] (headers.map fun (name, value) => (Text.lowercase name, value))
  let added := others.filter fun (name, _) => (given.lookup name).isNone
  ⟨(Text.uppercase method).plain, target,
    (given ++ added).map fun (name, value) => (name.plain, value), body⟩

/-- The first header of a name, given in lower case. -/
def Request.header? (request : Request) (name : String) : Option String :=
  (request.headers.find? fun (n, _) => n.map Char.toLower == name).map Prod.snd

end PackOpening.Service
