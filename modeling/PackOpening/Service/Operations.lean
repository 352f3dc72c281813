import PackOpening.Chance.Twister
import PackOpening.Definition.Compile
import PackOpening.Pack.Builtin
import PackOpening.Pack.Custom
import PackOpening.Service.Body
import PackOpening.Service.Registry

/-!
The operations of the service: validating a definition, trying one out, and opening a pack. Each
takes the registry as it is and answers with a status, data, and what it reports. Where a request
gives no seed, the seed at hand is used.
-/
namespace PackOpening.Service

/-- The data of an answer with its status, and the records written on the way. -/
structure Reply where
  status : Nat
  body : Json
  log : List Record
  deriving Repr

def drawnData (drawn : DrawnCard) : Json :=
  .obj [("card", drawn.card.toData), ("is_foil", .bool drawn.foil),
    ("is_alt_art", .bool drawn.altArt)]

def cardsData (cards : List DrawnCard) : Json := .arr (cards.map drawnData)

def errorData (message : Text) : Json := .obj [("error", .str message)]

def validate (body : DefinitionBody) : Reply :=
  let d := Definition.compile body.definition
  ⟨200,
    .obj [("valid", .bool d.isValid), ("errors", .ofTexts d.errors),
      ("slots", .ofNat d.slots.length)],
    [.service (.templateValidated d.isValid d.slots.length d.errors.length)]⟩

/-- The enabled cards of each set, or the first set that has none. -/
def stockedPools (registry : Registry) (supplied : SetPools) :
    (codes : List Text) → Except Text SetPools
  | [] => .ok []
  | code :: rest =>
    match Pool.enabled (registry.poolFor supplied code) with
    | [] => .error code
    | cards =>
      match stockedPools registry supplied rest with
      | .error missing => .error missing
      | .ok pools => .ok ((code, cards) :: pools)

/-- The cards of a custom pack with a seeded source, and the records of its assembly. -/
def openCustom (pools : SetPools) (slots : List Slot) (setCode : Text) (seed : Int) :
    List DrawnCard × List Record :=
  let assembly := ((CustomPack.assemble pools slots setCode).run (Twister.seeded seed)).1
  (assembly.cards, (assembly.events slots setCode).map .pack)

/-- Opens one pack from a definition on the pools of the sets that it refers to. Sets are looked up
in the order of their codes. -/
def generate (registry : Registry) (seed : Int) (body : GenerateBody) : Reply :=
  let d := Definition.compile body.definition
  if !d.isValid then
    ⟨400, errorData (List.intercalate "; " d.errors),
      [.service (.generateInvalidDefinition body.setCode d.errors)]⟩
  else
    match stockedPools registry body.pools
        (Text.sorted (referencedSets d.slots body.setCode)) with
    | .error code =>
      ⟨400, errorData ("Set \"" ++ code ++ "\" has no cards or doesn't exist."),
        [.service (.generateMissingSet code)]⟩
    | .ok pools =>
      let (cards, records) := openCustom pools d.slots body.setCode (body.seed.getD seed)
      ⟨200, .obj [("cards", cardsData cards)],
        records ++ [.service (.generateSuccess body.setCode d.slots.length cards.length)]⟩

def opened (body : OpenBody) (cards : List DrawnCard) (records : List Record) : Reply :=
  ⟨201,
    .obj [("message", .str "Opened Pack Successfully"), ("pack_type", .str body.packType),
      ("cards", cardsData cards)],
    records ++ [.service (.openSuccess body.setCode body.packType cards.length)]⟩

/-- The cards of the pack's own set: those sent with the request if there are any. -/
def ownCards (registry : Registry) (body : OpenBody) : List Card :=
  match body.cards with
  | [] => SetPools.of registry body.setCode
  | cards => cards

/-- The pools for a custom pack: the cards of its own set, and those of every other set that the
slots refer to. -/
def openPools (registry : Registry) (body : OpenBody) (slots : List Slot) : SetPools :=
  (referencedSets slots body.setCode).map fun code =>
    (code, if code = body.setCode then ownCards registry body
      else registry.poolFor body.extraPools code)

/-- What opening a pack comes to, after the attempt has been reported. -/
def openNow (registry : Registry) (seed : Int) (body : OpenBody) : Reply :=
  let cards := ownCards registry body
  let seed := body.seed.getD seed
  match body.definition with
  | some definition =>
    let d := Definition.compile definition
    if !d.isValid then
      ⟨500, errorData "Invalid booster template definition.",
        [.service (.openInvalidTemplate body.setCode d.errors)]⟩
    else
      let (drawn, records) :=
        openCustom (openPools registry body d.slots) d.slots body.setCode seed
      opened body drawn records
  | none =>
    if (Pool.enabled cards).isEmpty then
      ⟨500, errorData "Set data not found. Contact admin to sync set.",
        [.service (.openEmptySet body.setCode)]⟩
    else
      let policy := Policy.select body.packType body.releaseDate
      let outcomes := ((BuiltinPack.assemble cards policy).run (Twister.seeded seed)).1
      opened body (BuiltinPack.cardsOf outcomes)
        ((BuiltinPack.eventsOf policy body.packType outcomes).map .pack)

def openPack (registry : Registry) (seed : Int) (body : OpenBody) : Reply :=
  let reply := openNow registry seed body
  { reply with
    log := .service (.openAttempt body.setCode body.packType body.definition.isSome) ::
      reply.log }

end PackOpening.Service
