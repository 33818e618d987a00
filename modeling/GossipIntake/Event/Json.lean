import GossipIntake.Event.Basic
import GossipIntake.Json.Problem
import GossipIntake.Json.Render

namespace GossipIntake

open Json (Problem)

def NodeId.toJson (node : NodeId) : Json := .ofNat node.index.toNat

def NodeId.ofJson (value : Json) : Except Problem NodeId := (Json.word value).map NodeId.mk

def Json.ofBytes (bytes : List UInt8) : Json := .array (bytes.map fun byte => .ofNat byte.toNat)

namespace Descriptor

def toJson (descriptor : Descriptor) : Json :=
  .ofMembers
    [("creator", descriptor.creator.toJson),
     ("hash", .ofBytes descriptor.hash.toList),
     ("generation", .ofNat descriptor.generation.toNat)]

structure Draft where
  creator : Option NodeId := none
  hash : Option Digest := none
  generation : Option UInt64 := none

def Draft.read (draft : Draft) : Json.Member → Except Problem Draft
  | (none, _) => .error .malformed
  | (some name, value) =>
    match name with
    | "creator" => do
      return { draft with creator := ← Json.field draft.creator name value NodeId.ofJson }
    | "hash" => do
      return { draft with hash := ← Json.field draft.hash name value (Json.byteVector 32) }
    | "generation" => do
      return { draft with generation := ← Json.field draft.generation name value Json.word }
    | _ => do
      Json.skip value
      return draft

def Draft.finish (draft : Draft) : Except Problem Descriptor := do
  return {
    creator := ← Json.required draft.creator "creator"
    hash := ← Json.required draft.hash "hash"
    generation := ← Json.required draft.generation "generation" }

def ofJson (value : Json) : Except Problem Descriptor :=
  match value with
  | .object members => do (← members.foldlM Draft.read {}).finish
  | .array elements => do
    let whole := .fields "EventDescriptor" 3
    let creator ← Json.element elements 0 whole NodeId.ofJson
    let hash ← Json.element elements 1 whole (Json.byteVector 32)
    let generation ← Json.element elements 2 whole Json.word
    if elements.length = 3 then return { creator, hash, generation } else throw .malformed
  | _ => .error (Json.mismatch (.record "EventDescriptor") value)

end Descriptor

namespace GossipEvent

/-- The generation beside the descriptor is not written. A reader takes it from the descriptor. -/
def toJson (event : GossipEvent) : Json :=
  .ofMembers
    [("descriptor", event.descriptor.toJson),
     ("signature", .ofBytes event.signature),
     ("sender_id", event.sender.toJson),
     ("payload", .ofBytes event.payload)]

structure Draft where
  descriptor : Option Descriptor := none
  signature : Option Signature := none
  sender : Option NodeId := none
  payload : Option (List UInt8) := none

def Draft.read (draft : Draft) : Json.Member → Except Problem Draft
  | (none, _) => .error .malformed
  | (some name, value) =>
    match name with
    | "descriptor" => do
      return { draft with
        descriptor := ← Json.field draft.descriptor name value Descriptor.ofJson }
    | "signature" => do
      return { draft with signature := ← Json.field draft.signature name value Json.byteList }
    | "sender_id" => do
      return { draft with sender := ← Json.field draft.sender name value NodeId.ofJson }
    | "payload" => do
      return { draft with payload := ← Json.field draft.payload name value Json.byteList }
    | _ => do
      Json.skip value
      return draft

def ofFields (descriptor : Descriptor) (signature : Signature) (sender : NodeId)
    (payload : List UInt8) : GossipEvent where
  descriptor
  generation := descriptor.generation
  signature
  sender
  payload

def Draft.finish (draft : Draft) : Except Problem GossipEvent := do
  return ofFields
    (← Json.required draft.descriptor "descriptor")
    (← Json.required draft.signature "signature")
    (← Json.required draft.sender "sender_id")
    (← Json.required draft.payload "payload")

def ofJson (value : Json) : Except Problem GossipEvent :=
  match value with
  | .object members => do (← members.foldlM Draft.read {}).finish
  | .array elements => do
    let whole := .fields "GossipEventFields" 4
    let descriptor ← Json.element elements 0 whole Descriptor.ofJson
    let signature ← Json.element elements 1 whole Json.byteList
    let sender ← Json.element elements 2 whole NodeId.ofJson
    let payload ← Json.element elements 3 whole Json.byteList
    if elements.length = 4 then return ofFields descriptor signature sender payload
    else throw .malformed
  | _ => .error (Json.mismatch (.record "GossipEventFields") value)

end GossipEvent

def NodeId.parse (text : String) : Except Problem NodeId := Json.readText NodeId.ofJson text

def Descriptor.parse (text : String) : Except Problem Descriptor :=
  Json.readText Descriptor.ofJson text

def GossipEvent.parse (text : String) : Except Problem GossipEvent :=
  Json.readText GossipEvent.ofJson text

end GossipIntake
