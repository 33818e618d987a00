import GossipIntake.Proofs.Event
import GossipIntake.Proofs.Json.RoundTrip

namespace GossipIntake

open Json (Spells spells_render valuesAt)

@[simp] theorem NodeId.printable_toJson (node : NodeId) : node.toJson.Printable :=
  Json.printable_ofNat node.index.toNat

@[simp] theorem Json.printable_ofBytes (bytes : List UInt8) : (Json.ofBytes bytes).Printable := by
  rw [ofBytes, printable_array, List.forall_mem_map]
  exact fun byte _ => printable_ofNat byte.toNat

theorem NodeId.render_toJson (node : NodeId) : node.toJson.render = toString node.index.toNat := by
  rw [Nat.toString_eq_ofList_toDigits]
  simp [toJson, Json.ofNat, Json.render, Json.chars, Json.Render.numeral, Numeral.ofNat]

theorem NodeId.parse_render (node : NodeId) : parse node.toJson.render = .ok node :=
  Json.readText_eq_ok_iff.mpr ⟨_, spells_render node.printable_toJson, ofJson_eq_ok_iff.mpr rfl⟩

namespace Descriptor

@[simp] theorem printable_toJson (descriptor : Descriptor) : descriptor.toJson.Printable := by
  simp [toJson]

theorem form_toJson (descriptor : Descriptor) : descriptor.Form descriptor.toJson :=
  .object (by simp) (by simp [valuesAt]) (by simp [valuesAt]) (by simp [valuesAt])

theorem parse_render (descriptor : Descriptor) : parse descriptor.toJson.render = .ok descriptor :=
  parse_eq_ok_iff.mpr ⟨_, spells_render descriptor.printable_toJson, descriptor.form_toJson⟩

end Descriptor

namespace GossipEvent

@[simp] theorem printable_toJson (event : GossipEvent) : event.toJson.Printable := by
  simp [toJson]

theorem form_toJson {event : GossipEvent} (coherent : event.Coherent) : event.Form event.toJson :=
  .object coherent (by simp) (by simp [valuesAt]) event.descriptor.form_toJson
    (by simp [valuesAt]) (by simp [valuesAt]) (by simp [valuesAt])

theorem parse_render {event : GossipEvent} (coherent : event.Coherent) :
    parse event.toJson.render = .ok event :=
  parse_eq_ok_iff.mpr ⟨_, spells_render event.printable_toJson, form_toJson coherent⟩

theorem parse_render_iff {event : GossipEvent} :
    parse event.toJson.render = .ok event ↔ event.Coherent :=
  ⟨coherent_of_parse, parse_render⟩

def ReadsBack {α : Type} (write : α → Json) (read : String → Except Json.Problem α) (value : α) :
    Prop :=
  ∃ copy, read (write value).render = .ok copy ∧ copy = value ∧
    (write copy).render = (write value).render

theorem readsBack_of_ok {α : Type} {write : α → Json} {read : String → Except Json.Problem α}
    {value : α} (same : read (write value).render = .ok value) : ReadsBack write read value :=
  ⟨value, same, rfl, rfl⟩

/-- The members of an event's text do not include its generation, and still every event that can be
    made is read back. So is every descriptor, and every node from its bare number. -/
theorem round_trips :
    (∀ node : NodeId, node.toJson.render = toString node.index.toNat ∧
      ReadsBack NodeId.toJson NodeId.parse node) ∧
    (∀ descriptor : Descriptor, ReadsBack Descriptor.toJson Descriptor.parse descriptor) ∧
    ∀ event : GossipEvent, event.Built →
      event.generation = event.descriptor.generation ∧
      (∃ members, Spells event.toJson.render (.object members) ∧
        valuesAt "generation" members = []) ∧
      ReadsBack toJson parse event := by
  refine ⟨fun node => ⟨node.render_toJson, readsBack_of_ok node.parse_render⟩,
    fun descriptor => readsBack_of_ok descriptor.parse_render, fun event built => ?_⟩
  have coherent : event.Coherent := built.coherent
  have spells : Spells event.toJson.render event.toJson := spells_render event.printable_toJson
  exact ⟨coherent, ⟨_, spells, by simp [valuesAt]⟩, readsBack_of_ok (parse_render_iff.mpr coherent)⟩

theorem round_trips_relayed_copy :
    let original := new ⟨3⟩ 18446744073709551615 [0, 255] [9] ⟨4⟩
    let relayed := (original.relayedBy ⟨18446744073709551615⟩).withSignature []
    original.Built ∧ parse original.toJson.render = .ok original ∧ relayed.Built ∧
      relayed.generation = relayed.descriptor.generation ∧ ReadsBack toJson parse relayed := by
  intro original relayed
  have built : original.Built := .new _ _ _ _ _
  obtain ⟨_, read, rfl, -⟩ := (round_trips.2.2 original built).2.2
  have relayedBuilt : relayed.Built := ((Built.parsed read).relayedBy _).withSignature _
  obtain ⟨coherent, -, again⟩ := round_trips.2.2 relayed relayedBuilt
  exact ⟨built, read, relayedBuilt, coherent, again⟩

example :
    let last := 18446744073709551615
    (ofDescriptor ⟨⟨last⟩, Vector.replicate 32 0, last⟩ [] ⟨0⟩).toJson.render =
      "\x7b\"descriptor\":\x7b\"creator\":18446744073709551615,\"hash\":" ++
      "[0,0,0,0,0,0,0,0,0,0,0,0,0,0,0,0,0,0,0,0,0,0,0,0,0,0,0,0,0,0,0,0]," ++
      "\"generation\":18446744073709551615\x7d,\"signature\":[],\"sender_id\":0,\"payload\":[]\x7d" := by
  cbv

end GossipEvent

end GossipIntake
