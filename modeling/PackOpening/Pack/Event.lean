import PackOpening.Card.Basic
import PackOpening.Json.Basic
import PackOpening.Policy.Basic

/-!
What the assembly of a pack reports: slots that could not be filled, and the finished pack.
-/
namespace PackOpening

inductive PackEvent where
  | customSlotSkipped (slot : Nat) (setCode : Text) (rarity : Rarity)
  | customPackAssembled (setCode : Text) (slots cards : Nat)
  | builtinSlotSkipped (policy : Policy) (pools : List Partition)
  | builtinPackAssembled (policy : Policy) (requested : Text) (cards : Nat)
  deriving DecidableEq, Repr

namespace PackEvent

def name : PackEvent → Text
  | customSlotSkipped .. => "custom_slot_skipped"
  | customPackAssembled .. => "custom_pack_assembled"
  | builtinSlotSkipped .. => "builtin_slot_skipped"
  | builtinPackAssembled .. => "builtin_pack_assembled"

def data : PackEvent → List (Text × Json)
  | customSlotSkipped slot setCode rarity =>
    [("slot", .ofNat slot), ("set_code", .str setCode), ("rarity", .str rarity.name)]
  | customPackAssembled setCode slots cards =>
    [("set_code", .str setCode), ("slots", .ofNat slots), ("cards", .ofNat cards)]
  | builtinSlotSkipped policy pools =>
    [("policy", .str policy.name), ("pools", .ofTexts (pools.map Partition.name))]
  | builtinPackAssembled policy requested cards =>
    [("policy", .str policy.name), ("requested", .str requested), ("cards", .ofNat cards)]

end PackEvent
end PackOpening
