import GossipIntake.Proofs.Json.RoundTrip
import GossipIntake.Proofs.Json.Typed
import Mathlib.Data.List.Basic
import Mathlib.Tactic.MkIffOfInductiveProp
import Mathlib.Tactic.Tauto

namespace GossipIntake

open Json (Fills Spells valuesAt)

theorem NodeId.ofJson_eq_ok_iff {value : Json} {node : NodeId} :
    ofJson value = .ok node ↔ value = node.toJson := by
  rw [toJson, ← Json.word_eq_ok_iff, ofJson]
  cases node
  cases Json.word value <;> simp [Except.map]

namespace Descriptor

/-- What the members do to a draft: each is named, and each field is filled from the one member that
    has its name. -/
@[mk_iff]
structure Draft.Reads (draft : Draft) (members : List Json.Member) (next : Draft) : Prop where
  named : ∀ member ∈ members, member.1.isSome = true
  creator : Fills NodeId.ofJson "creator" members draft.creator next.creator
  hash : Fills (Json.byteVector 32) "hash" members draft.hash next.hash
  generation : Fills Json.word "generation" members draft.generation next.generation

theorem Draft.reads_nil (draft next : Draft) : draft.Reads [] next ↔ draft = next := by
  cases draft
  cases next
  simp [reads_iff, Json.fills_nil]

theorem Draft.reads_cons {draft next : Draft} {member : Json.Member} {rest : List Json.Member} :
    draft.Reads (member :: rest) next ↔
      ∃ between : Draft, draft.Reads [member] between ∧ between.Reads rest next := by
  constructor
  · rintro ⟨named, creator, hash, generation⟩
    rw [List.forall_mem_cons] at named
    obtain ⟨creator', first, creator⟩ := Json.fills_cons.mp creator
    obtain ⟨hash', second, hash⟩ := Json.fills_cons.mp hash
    obtain ⟨generation', third, generation⟩ := Json.fills_cons.mp generation
    exact ⟨⟨creator', hash', generation'⟩, ⟨by simpa using named.1, first, second, third⟩,
      ⟨named.2, creator, hash, generation⟩⟩
  · rintro ⟨between, first, later⟩
    refine ⟨?_, Json.fills_cons.mpr ⟨_, first.creator, later.creator⟩,
      Json.fills_cons.mpr ⟨_, first.hash, later.hash⟩,
      Json.fills_cons.mpr ⟨_, first.generation, later.generation⟩⟩
    rw [List.forall_mem_cons]
    exact ⟨first.named member (by simp), later.named⟩

theorem Draft.read_eq_ok_iff (draft : Draft) (member : Json.Member) (next : Draft)
    (whole : member.2.unbroken = true) :
    draft.read member = .ok next ↔ draft.Reads [member] next := by
  obtain ⟨name, value⟩ := member
  have skipped : value.skip = .ok () := Json.skip_eq_ok_iff.mpr whole
  cases name with
  | none =>
    constructor
    · rintro ⟨⟩
    · intro reads
      exact absurd (reads.named (none, value) (by simp)) Bool.false_ne_true
  | some name =>
    -- A member that has the name of a field leaves the other fields alone.
    have other {α : Type} {field : String} (apart : name ≠ field) {read before} {after : Option α} :
        Fills read field [(some name, value)] before after ↔ before = after :=
      Json.fills_other fun same => apart (Option.some.inj same)
    rw [Draft.reads_iff]
    simp only [Draft.read]
    cases next
    split
    · simp [Json.bind_eq_ok_iff, Json.fills_field, Json.fills_other, pure, Except.pure]
    · simp [Json.bind_eq_ok_iff, Json.fills_field, Json.fills_other, pure, Except.pure]
      tauto
    · simp [Json.bind_eq_ok_iff, Json.fills_field, Json.fills_other, pure, Except.pure]
      tauto
    · rename_i notCreator notHash notGeneration
      cases draft
      simp [Json.bind_eq_ok_iff, skipped, other notCreator, other notHash, other notGeneration, pure,
        Except.pure]

/-- The values that stand for the descriptor. Every member of an object has a name, and every field is
    the name of one member; what else the object holds is free. -/
inductive Form (descriptor : Descriptor) : Json → Prop where
  | object {members : List Json.Member} (named : ∀ member ∈ members, member.1.isSome = true)
      (creator : valuesAt "creator" members = [descriptor.creator.toJson])
      (hash : valuesAt "hash" members = [.ofBytes descriptor.hash.toList])
      (generation : valuesAt "generation" members = [.ofNat descriptor.generation.toNat]) :
      Form descriptor (.object members)
  | array :
      Form descriptor
        (.array [descriptor.creator.toJson, .ofBytes descriptor.hash.toList,
          .ofNat descriptor.generation.toNat])

theorem ofJson_eq_ok_iff {value : Json} (whole : value.unbroken = true) {descriptor : Descriptor} :
    ofJson value = .ok descriptor ↔ descriptor.Form value := by
  cases value with
  | object members =>
    rw [Json.unbroken, Json.unbrokenMembers_eq_all, List.all_eq_true] at whole
    simp only [ofJson, Json.bind_eq_ok_iff, Draft.finish, Json.required_eq_ok_iff,
      Json.foldlM_eq_ok_iff Draft.reads_nil Draft.read_eq_ok_iff (fun _ _ _ _ => Draft.reads_cons)
        whole]
    constructor
    · rintro ⟨draft, ⟨named, creator, hash, generation⟩, _, hasCreator, _, hasHash, _, hasGeneration,
        ⟨⟩⟩
      rw [hasCreator, Json.fills_none] at creator
      rw [hasHash, Json.fills_none] at hash
      rw [hasGeneration, Json.fills_none] at generation
      obtain ⟨_, onlyCreator, creator⟩ := creator
      obtain ⟨_, onlyHash, hash⟩ := hash
      obtain ⟨_, onlyGeneration, generation⟩ := generation
      rw [NodeId.ofJson_eq_ok_iff.mp creator] at onlyCreator
      rw [Json.byteVector_eq_ok_iff.mp hash] at onlyHash
      rw [Json.word_eq_ok_iff.mp generation] at onlyGeneration
      exact .object named onlyCreator onlyHash onlyGeneration
    · rintro ⟨named, creator, hash, generation⟩
      refine ⟨⟨some descriptor.creator, some descriptor.hash, some descriptor.generation⟩,
        ⟨named, ?_, ?_, ?_⟩, _, rfl, _, rfl, _, rfl, rfl⟩
      · exact Json.fills_none.mpr ⟨_, creator, NodeId.ofJson_eq_ok_iff.mpr rfl⟩
      · exact Json.fills_none.mpr ⟨_, hash, Json.byteVector_eq_ok_iff.mpr rfl⟩
      · exact Json.fills_none.mpr ⟨_, generation, Json.word_eq_ok_iff.mpr rfl⟩
  | array elements =>
    simp only [ofJson, Json.bind_eq_ok_iff, Json.element_eq_ok_iff, NodeId.ofJson_eq_ok_iff,
      Json.byteVector_eq_ok_iff, Json.word_eq_ok_iff]
    constructor
    · rintro ⟨creator, ⟨_, first, rfl⟩, hash, ⟨_, second, rfl⟩, generation, ⟨_, third, rfl⟩, done⟩
      split at done
      · rename_i exact
        obtain ⟨a, b, c, rfl⟩ := List.length_eq_three.mp exact
        cases first
        cases second
        cases third
        cases done
        exact .array
      · cases done
    · rintro ⟨⟩
      exact ⟨_, ⟨_, rfl, rfl⟩, _, ⟨_, rfl, rfl⟩, _, ⟨_, rfl, rfl⟩, rfl⟩
  | _ => exact ⟨fun read => (by cases read), fun form => (by cases form)⟩

theorem parse_eq_ok_iff {text : String} {descriptor : Descriptor} :
    parse text = .ok descriptor ↔ ∃ value, Spells text value ∧ descriptor.Form value := by
  rw [parse, Json.readText_eq_ok_iff]
  exact exists_congr fun value => and_congr_right fun spells => ofJson_eq_ok_iff spells.1

def fieldNames : List String := ["creator", "hash", "generation"]

theorem Form.of_perm {descriptor : Descriptor} {members other : List Json.Member}
    (form : descriptor.Form (.object members)) (named : ∀ member ∈ other, member.1.isSome = true)
    (same : (Json.among fieldNames members).Perm (Json.among fieldNames other)) :
    descriptor.Form (.object other) := by
  cases form with
  | object _ creator hash generation =>
    exact .object named (Json.valuesAt_of_perm (by decide) same creator)
      (Json.valuesAt_of_perm (by decide) same hash)
      (Json.valuesAt_of_perm (by decide) same generation)

end Descriptor

namespace GossipEvent

@[mk_iff]
structure Draft.Reads (draft : Draft) (members : List Json.Member) (next : Draft) : Prop where
  named : ∀ member ∈ members, member.1.isSome = true
  descriptor : Fills Descriptor.ofJson "descriptor" members draft.descriptor next.descriptor
  signature : Fills Json.byteList "signature" members draft.signature next.signature
  sender : Fills NodeId.ofJson "sender_id" members draft.sender next.sender
  payload : Fills Json.byteList "payload" members draft.payload next.payload

theorem Draft.reads_nil (draft next : Draft) : draft.Reads [] next ↔ draft = next := by
  cases draft
  cases next
  simp [reads_iff, Json.fills_nil]

theorem Draft.reads_cons {draft next : Draft} {member : Json.Member} {rest : List Json.Member} :
    draft.Reads (member :: rest) next ↔
      ∃ between : Draft, draft.Reads [member] between ∧ between.Reads rest next := by
  constructor
  · rintro ⟨named, descriptor, signature, sender, payload⟩
    rw [List.forall_mem_cons] at named
    obtain ⟨descriptor', first, descriptor⟩ := Json.fills_cons.mp descriptor
    obtain ⟨signature', second, signature⟩ := Json.fills_cons.mp signature
    obtain ⟨sender', third, sender⟩ := Json.fills_cons.mp sender
    obtain ⟨payload', fourth, payload⟩ := Json.fills_cons.mp payload
    exact ⟨⟨descriptor', signature', sender', payload'⟩,
      ⟨by simpa using named.1, first, second, third, fourth⟩,
      ⟨named.2, descriptor, signature, sender, payload⟩⟩
  · rintro ⟨between, first, later⟩
    refine ⟨?_, Json.fills_cons.mpr ⟨_, first.descriptor, later.descriptor⟩,
      Json.fills_cons.mpr ⟨_, first.signature, later.signature⟩,
      Json.fills_cons.mpr ⟨_, first.sender, later.sender⟩,
      Json.fills_cons.mpr ⟨_, first.payload, later.payload⟩⟩
    rw [List.forall_mem_cons]
    exact ⟨first.named member (by simp), later.named⟩

theorem Draft.read_eq_ok_iff (draft : Draft) (member : Json.Member) (next : Draft)
    (whole : member.2.unbroken = true) :
    draft.read member = .ok next ↔ draft.Reads [member] next := by
  obtain ⟨name, value⟩ := member
  have skipped : value.skip = .ok () := Json.skip_eq_ok_iff.mpr whole
  cases name with
  | none =>
    constructor
    · rintro ⟨⟩
    · intro reads
      exact absurd (reads.named (none, value) (by simp)) Bool.false_ne_true
  | some name =>
    have other {α : Type} {field : String} (apart : name ≠ field) {read before} {after : Option α} :
        Fills read field [(some name, value)] before after ↔ before = after :=
      Json.fills_other fun same => apart (Option.some.inj same)
    rw [Draft.reads_iff]
    simp only [Draft.read]
    cases next
    split
    · simp [Json.bind_eq_ok_iff, Json.fills_field, Json.fills_other, pure, Except.pure]
    · simp [Json.bind_eq_ok_iff, Json.fills_field, Json.fills_other, pure, Except.pure]
      tauto
    · simp [Json.bind_eq_ok_iff, Json.fills_field, Json.fills_other, pure, Except.pure]
      tauto
    · simp [Json.bind_eq_ok_iff, Json.fills_field, Json.fills_other, pure, Except.pure]
      tauto
    · rename_i notDescriptor notSignature notSender notPayload
      cases draft
      simp [Json.bind_eq_ok_iff, skipped, other notDescriptor, other notSignature, other notSender,
        other notPayload, pure, Except.pure]

/-- The values that stand for the event. A generation beside the descriptor is like any other unknown
    member: the event's own is its descriptor's. -/
inductive Form (event : GossipEvent) : Json → Prop where
  | object {members : List Json.Member} {described : Json} (coherent : event.Coherent)
      (named : ∀ member ∈ members, member.1.isSome = true)
      (descriptor : valuesAt "descriptor" members = [described])
      (form : event.descriptor.Form described)
      (signature : valuesAt "signature" members = [.ofBytes event.signature])
      (sender : valuesAt "sender_id" members = [event.sender.toJson])
      (payload : valuesAt "payload" members = [.ofBytes event.payload]) :
      Form event (.object members)
  | array {described : Json} (coherent : event.Coherent) (form : event.descriptor.Form described) :
      Form event
        (.array [described, .ofBytes event.signature, event.sender.toJson, .ofBytes event.payload])

theorem Form.coherent {event : GossipEvent} {value : Json} (form : event.Form value) :
    event.Coherent := by
  cases form <;> assumption

theorem ofJson_eq_ok_iff {value : Json} (whole : value.unbroken = true) {event : GossipEvent} :
    ofJson value = .ok event ↔ event.Form value := by
  have fields (event : GossipEvent) (coherent : event.Coherent) :
      ofFields event.descriptor event.signature event.sender event.payload = event := by
    rw [ofFields, ← coherent]
  cases value with
  | object members =>
    rw [Json.unbroken, Json.unbrokenMembers_eq_all, List.all_eq_true] at whole
    simp only [ofJson, Json.bind_eq_ok_iff, Draft.finish, Json.required_eq_ok_iff,
      Json.foldlM_eq_ok_iff Draft.reads_nil Draft.read_eq_ok_iff (fun _ _ _ _ => Draft.reads_cons)
        whole]
    have part {name : String} {described : Json} (only : valuesAt name members = [described]) :
        described.unbroken = true := by
      obtain ⟨member, held, rfl⟩ := Json.exists_of_valuesAt only
      exact whole member held
    constructor
    · rintro ⟨draft, ⟨named, descriptor, signature, sender, payload⟩, _, hasDescriptor, _,
        hasSignature, _, hasSender, _, hasPayload, ⟨⟩⟩
      rw [hasDescriptor, Json.fills_none] at descriptor
      rw [hasSignature, Json.fills_none] at signature
      rw [hasSender, Json.fills_none] at sender
      rw [hasPayload, Json.fills_none] at payload
      obtain ⟨_, onlyDescriptor, descriptor⟩ := descriptor
      obtain ⟨_, onlySignature, signature⟩ := signature
      obtain ⟨_, onlySender, sender⟩ := sender
      obtain ⟨_, onlyPayload, payload⟩ := payload
      rw [Json.byteList_eq_ok_iff.mp signature] at onlySignature
      rw [NodeId.ofJson_eq_ok_iff.mp sender] at onlySender
      rw [Json.byteList_eq_ok_iff.mp payload] at onlyPayload
      have form := (Descriptor.ofJson_eq_ok_iff (part onlyDescriptor)).mp descriptor
      exact .object rfl named onlyDescriptor form onlySignature onlySender onlyPayload
    · rintro ⟨coherent, named, descriptor, form, signature, sender, payload⟩
      have described := (Descriptor.ofJson_eq_ok_iff (part descriptor)).mpr form
      refine ⟨⟨some event.descriptor, some event.signature, some event.sender, some event.payload⟩,
        ⟨named, ?_, ?_, ?_, ?_⟩, _, rfl, _, rfl, _, rfl, _, rfl, congrArg _ (fields event coherent)⟩
      · exact Json.fills_none.mpr ⟨_, descriptor, described⟩
      · exact Json.fills_none.mpr ⟨_, signature, Json.byteList_eq_ok_iff.mpr rfl⟩
      · exact Json.fills_none.mpr ⟨_, sender, NodeId.ofJson_eq_ok_iff.mpr rfl⟩
      · exact Json.fills_none.mpr ⟨_, payload, Json.byteList_eq_ok_iff.mpr rfl⟩
  | array elements =>
    rw [Json.unbroken, Json.unbrokenElements_eq_all, List.all_eq_true] at whole
    simp only [ofJson, Json.bind_eq_ok_iff, Json.element_eq_ok_iff, NodeId.ofJson_eq_ok_iff,
      Json.byteList_eq_ok_iff]
    constructor
    · rintro ⟨descriptor, ⟨described, first, read⟩, signature, ⟨_, second, rfl⟩, sender,
        ⟨_, third, rfl⟩, payload, ⟨_, fourth, rfl⟩, done⟩
      have form := (Descriptor.ofJson_eq_ok_iff (whole _ (List.mem_of_getElem? first))).mp read
      split at done
      · rename_i exact
        obtain ⟨a, b, c, d, rfl⟩ := List.length_eq_four.mp exact
        cases first
        cases second
        cases third
        cases fourth
        cases done
        exact .array rfl form
      · cases done
    · rintro ⟨⟩
      rename_i described coherent form
      have read := (Descriptor.ofJson_eq_ok_iff (whole described (by simp))).mpr form
      refine ⟨_, ⟨_, rfl, read⟩, _, ⟨_, rfl, rfl⟩, _, ⟨_, rfl, rfl⟩, _, ⟨_, rfl, rfl⟩, ?_⟩
      exact congrArg _ (fields event coherent)
  | _ => exact ⟨fun read => (by cases read), fun form => (by cases form)⟩

theorem parse_eq_ok_iff {text : String} {event : GossipEvent} :
    parse text = .ok event ↔ ∃ value, Spells text value ∧ event.Form value := by
  rw [parse, Json.readText_eq_ok_iff]
  exact exists_congr fun value => and_congr_right fun spells => ofJson_eq_ok_iff spells.1

def fieldNames : List String := ["descriptor", "signature", "sender_id", "payload"]

theorem Form.of_perm {event : GossipEvent} {members other : List Json.Member}
    (form : event.Form (.object members)) (named : ∀ member ∈ other, member.1.isSome = true)
    (same : (Json.among fieldNames members).Perm (Json.among fieldNames other)) :
    event.Form (.object other) := by
  cases form with
  | object coherent _ descriptor form signature sender payload =>
    exact .object coherent named (Json.valuesAt_of_perm (by decide) same descriptor) form
      (Json.valuesAt_of_perm (by decide) same signature)
      (Json.valuesAt_of_perm (by decide) same sender)
      (Json.valuesAt_of_perm (by decide) same payload)

/-- A text is read as a record iff it spells a value that stands for the record, and objects that hold
    the same fields in any order, among any other members, are read alike. -/
theorem parsed_by_fields :
    (∀ text descriptor, Descriptor.parse text = .ok descriptor ↔
      ∃ value, Spells text value ∧ descriptor.Form value) ∧
    (∀ text event, parse text = .ok event ↔ ∃ value, Spells text value ∧ event.Form value) ∧
    ∀ text other members otherMembers, Spells text (.object members) →
      Spells other (.object otherMembers) → (∀ member ∈ otherMembers, member.1.isSome = true) →
      ((Json.among Descriptor.fieldNames members).Perm
          (Json.among Descriptor.fieldNames otherMembers) →
        ∀ descriptor, Descriptor.parse text = .ok descriptor →
          Descriptor.parse other = .ok descriptor) ∧
      ((Json.among fieldNames members).Perm (Json.among fieldNames otherMembers) →
        ∀ event, parse text = .ok event → parse other = .ok event) := by
  refine ⟨fun _ _ => Descriptor.parse_eq_ok_iff, fun _ _ => parse_eq_ok_iff, ?_⟩
  intro text other members otherMembers spells otherSpells named
  constructor
  · intro same descriptor read
    obtain ⟨value, alsoSpells, form⟩ := Descriptor.parse_eq_ok_iff.mp read
    rw [alsoSpells.unique spells] at form
    exact Descriptor.parse_eq_ok_iff.mpr ⟨_, otherSpells, form.of_perm named same⟩
  · intro same event read
    obtain ⟨value, alsoSpells, form⟩ := parse_eq_ok_iff.mp read
    rw [alsoSpells.unique spells] at form
    exact parse_eq_ok_iff.mpr ⟨_, otherSpells, form.of_perm named same⟩

theorem parsed_by_fields_forged_generation :
    let text := "\x7b \"payload\" : [1, 2],\n \"generation\": 999, \"sender_id\": 7," ++
      " \"x\": [\x7b\"payload\": \"\\ud800\"\x7d, -1.5e400], \"x\": null, \"signature\": []," ++
      " \"descr\\u0069ptor\": [3, [0,0,0,0,0,0,0,0,0,0,0,0,0,0,0,0,0,0,0,0,0,0,0,0,0,0,0,0,0,0,0,0], 42]\x7d"
    let descriptor : Descriptor := ⟨⟨3⟩, Vector.replicate 32 0, 42⟩
    let written : Json :=
      .array [descriptor.creator.toJson, .ofBytes descriptor.hash.toList, .ofNat 42]
    let members : List Json.Member :=
      [(some "payload", .ofBytes [1, 2]), (some "generation", .ofNat 999),
       (some "sender_id", .ofNat 7),
       (some "x", .array [.object [(some "payload", .string none)], .number ⟨true, 1, ['5'], some 400⟩]),
       (some "x", .null), (some "signature", .array []), (some "descriptor", written)]
    let otherMembers : List Json.Member :=
      [(some "descriptor", written), (some "signature", .array []), (some "sender_id", .ofNat 7),
       (some "payload", .ofBytes [1, 2])]
    let event : GossipEvent := ⟨descriptor, 42, [], ⟨7⟩, [1, 2]⟩
    Spells text (.object members) ∧ parse text = .ok event ∧
      parse (Json.object otherMembers).render = .ok event := by
  intro text descriptor written members otherMembers event
  have spells : Spells text (.object members) := by
    refine ⟨by decide, ?_⟩
    simp only [text, String.toList_append, String.reduceToList, List.cons_append, List.nil_append]
    decide +kernel
  have otherSpells : Spells (Json.object otherMembers).render (.object otherMembers) :=
    Json.spells_render (by simp [otherMembers, written, descriptor, NodeId.toJson, Json.ofBytes])
  have form : event.Form (.object members) :=
    .object rfl (by decide) rfl .array rfl rfl rfl
  have read : parse text = .ok event := (parsed_by_fields.2.1 text event).mpr ⟨_, spells, form⟩
  have named : ∀ member ∈ otherMembers, member.1.isSome = true := by decide
  -- The fields stand in the opposite order.
  have same : (Json.among fieldNames members).Perm (Json.among fieldNames otherMembers) :=
    (List.reverse_perm (Json.among fieldNames members)).symm
  exact ⟨spells, read, (parsed_by_fields.2.2 _ _ _ _ spells otherSpells named).2 same event read⟩

end GossipEvent

end GossipIntake
