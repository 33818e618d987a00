import GossipIntake.Event.Json
import GossipIntake.Proofs.Json.Grammar
import Mathlib.Data.List.Perm.Basic

namespace GossipIntake

theorem Numeral.reading_eq_word_iff {n : Numeral} {word : UInt64} :
    n.reading = .word word ↔ n = .ofNat word.toNat := by
  constructor
  · intro read
    unfold reading at read
    split at read
    · rename_i plain
      simp only [Bool.and_eq_true, List.isEmpty_iff, Option.isNone_iff_eq_none, Bool.not_eq_true',
        decide_eq_true_eq] at plain
      obtain ⟨⟨⟨fraction, exponent⟩, positive⟩, bound⟩ := plain
      cases read
      obtain ⟨negative, whole, _, _⟩ := n
      simp only at fraction exponent positive bound
      rw [ofNat, UInt64.toNat_ofNat_of_lt' bound, fraction, exponent, positive]
    · split at read
      · cases read
      · split at read <;> cases read
  · rintro rfl
    exact reading_ofNat word

namespace Json

theorem bind_eq_ok_iff {α β : Type} {attempt : Except Problem α} {next : α → Except Problem β}
    {result : β} :
    attempt >>= next = .ok result ↔ ∃ value, attempt = .ok value ∧ next value = .ok result := by
  cases attempt <;> simp [bind, Except.bind]

theorem word_eq_ok_iff {value : Json} {n : UInt64} : word value = .ok n ↔ value = .ofNat n.toNat := by
  constructor
  · intro read
    unfold word at read
    split at read
    · rename_i numeral
      split at read
      · rename_i found reading
        cases read
        rw [Numeral.reading_eq_word_iff.mp reading, ofNat]
      · cases read
      · cases read
    · cases read
  · rintro rfl
    rw [ofNat, word]
    simp only [Numeral.reading_ofNat]

theorem byte_eq_ok_iff {value : Json} {b : UInt8} : byte value = .ok b ↔ value = .ofNat b.toNat := by
  constructor
  · intro read
    unfold byte at read
    split at read
    · rename_i numeral
      split at read
      · rename_i found reading
        split at read
        · rename_i small
          cases read
          have bound : found.toNat < 256 := UInt64.lt_iff_toNat_lt.mp small
          have same : found.toUInt8.toNat = found.toNat := by
            rw [UInt64.toNat_toUInt8]
            exact Nat.mod_eq_of_lt bound
          rw [Numeral.reading_eq_word_iff.mp reading, ofNat, same]
        · cases read
      · cases read
      · cases read
    · cases read
  · rintro rfl
    have small : b.toUInt64 < 256 := UInt64.lt_iff_toNat_lt.mpr b.toNat_lt
    have reading : (Numeral.ofNat b.toNat).reading = .word b.toUInt64 := by
      rw [← UInt8.toNat_toUInt64]
      exact Numeral.reading_ofNat _
    rw [ofNat, byte]
    simp only [reading, if_pos small, UInt8.toUInt8_toUInt64]

theorem mapM_eq_ok_iff {α : Type} {read : Json → Except Problem α} {form : α → Json}
    (exact : ∀ value a, read value = .ok a ↔ value = form a) {elements : List Json}
    {results : List α} : elements.mapM read = .ok results ↔ elements = results.map form := by
  induction elements generalizing results with
  | nil => cases results <;> simp [pure, Except.pure]
  | cons element rest ih =>
    simp only [List.mapM_cons, bind_eq_ok_iff, exact, ih, pure, Except.pure, Except.ok.injEq]
    constructor
    · rintro ⟨first, rfl, others, rfl, rfl⟩
      rfl
    · intro split
      cases results with
      | nil => cases split
      | cons first others =>
        obtain ⟨head, tail⟩ := List.cons.inj split
        exact ⟨first, head, others, tail, rfl⟩

theorem byteList_eq_ok_iff {value : Json} {bytes : List UInt8} :
    byteList value = .ok bytes ↔ value = .ofBytes bytes := by
  cases value with
  | array elements =>
    rw [byteList, mapM_eq_ok_iff fun _ _ => byte_eq_ok_iff, ofBytes, Json.array.injEq]
  | _ => simp [byteList, ofBytes]

theorem byteVector_eq_ok_iff {count : Nat} {value : Json} {bytes : Vector UInt8 count} :
    byteVector count value = .ok bytes ↔ value = .ofBytes bytes.toList := by
  cases value with
  | array elements =>
    simp only [byteVector, bind_eq_ok_iff, mapM_eq_ok_iff fun _ _ => byte_eq_ok_iff, ofBytes,
      Json.array.injEq]
    constructor
    · rintro ⟨found, taken, done⟩
      split at done
      · split at done
        · rename_i exact
          have all : elements.take count = elements := List.take_of_length_le (Nat.le_of_eq exact)
          cases done
          rw [← all, taken]
          simp
        · cases done
      · cases done
    · rintro rfl
      refine ⟨bytes.toList, by simp [List.take_of_length_le], ?_⟩
      have kept : bytes.toList.toArray = bytes.toArray := Array.toArray_toList
      simp [pure, Except.pure, kept]
  | _ => simp [byteVector, ofBytes]

def valuesAt (name : String) (members : List Member) : List Json :=
  (members.filter fun member => member.1 = some name).map (·.2)

/-- Reading the members may fill a field that is empty, from the one member of its name. -/
def Fills {α : Type} (read : Json → Except Problem α) (name : String) (members : List Member)
    (before after : Option α) : Prop :=
  (valuesAt name members = [] ∧ before = after) ∨
    (before = none ∧ ∃ value result, valuesAt name members = [value] ∧ read value = .ok result ∧
      after = some result)

theorem valuesAt_cons_named (name : String) (value : Json) (rest : List Member) :
    valuesAt name ((some name, value) :: rest) = value :: valuesAt name rest := by
  simp [valuesAt]

theorem valuesAt_cons_other {name : String} {other : Option String} (apart : other ≠ some name)
    (value : Json) (rest : List Member) :
    valuesAt name ((other, value) :: rest) = valuesAt name rest := by
  simp [valuesAt, apart]

theorem exists_of_valuesAt {name : String} {members : List Member} {value : Json}
    (only : valuesAt name members = [value]) : ∃ member ∈ members, member.2 = value := by
  have found : value ∈ valuesAt name members := by rw [only]; exact List.mem_singleton.mpr rfl
  obtain ⟨member, chosen, same⟩ := List.mem_map.mp found
  exact ⟨member, (List.mem_filter.mp chosen).1, same⟩

def among (names : List String) (members : List Member) : List Member :=
  members.filter fun member => member.1 ∈ names.map some

theorem valuesAt_among {name : String} {names : List String} (known : name ∈ names)
    (members : List Member) : valuesAt name (among names members) = valuesAt name members := by
  rw [valuesAt, among, List.filter_filter, valuesAt]
  refine congrArg _ (List.filter_congr fun member _ => ?_)
  rw [Bool.and_eq_left_iff_imp]
  intro named
  simp [of_decide_eq_true named, known]

theorem valuesAt_of_perm {name : String} {names : List String} (known : name ∈ names)
    {members other : List Member} (same : (among names members).Perm (among names other))
    {value : Json} (only : valuesAt name members = [value]) : valuesAt name other = [value] := by
  rw [← valuesAt_among known] at only ⊢
  have moved : (valuesAt name (among names members)).Perm (valuesAt name (among names other)) :=
    (same.filter _).map _
  rw [only] at moved
  exact List.perm_singleton.mp moved.symm

section

variable {α : Type} {read : Json → Except Problem α} {name : String} {members : List Member}
  {before after : Option α}

theorem fills_nil : Fills read name [] before after ↔ before = after := by
  simp [Fills, valuesAt]

theorem fills_other {other : Option String} (apart : other ≠ some name) {value : Json} :
    Fills read name [(other, value)] before after ↔ before = after := by
  simp [Fills, valuesAt, apart]

theorem fills_named {value : Json} :
    Fills read name [(some name, value)] before after ↔
      before = none ∧ ∃ result, read value = .ok result ∧ after = some result := by
  simp [Fills, valuesAt]

theorem fills_field {value : Json} :
    Fills read name [(some name, value)] before after ↔ field before name value read = .ok after := by
  rw [fills_named]
  cases before with
  | none => cases result : read value <;> simp [field, result, Except.map, eq_comm]
  | some held => simp [field]

theorem fills_some {held : α} :
    Fills read name members (some held) after ↔ valuesAt name members = [] ∧ some held = after := by
  simp [Fills]

theorem fills_cons {member : Member} {rest : List Member} :
    Fills read name (member :: rest) before after ↔
      ∃ between, Fills read name [member] before between ∧ Fills read name rest between after := by
  obtain ⟨other, value⟩ := member
  by_cases named : other = some name
  · subst named
    simp only [fills_named]
    rw [Fills, valuesAt_cons_named]
    simp only [reduceCtorEq, false_and, false_or, List.cons.injEq]
    constructor
    · rintro ⟨rfl, _, result, ⟨rfl, only⟩, found, rfl⟩
      exact ⟨some result, ⟨rfl, result, found, rfl⟩, fills_some.mpr ⟨only, rfl⟩⟩
    · rintro ⟨_, ⟨rfl, result, found, rfl⟩, later⟩
      obtain ⟨only, rfl⟩ := fills_some.mp later
      exact ⟨rfl, value, result, ⟨rfl, only⟩, found, rfl⟩
  · simp only [fills_other named, exists_eq_left']
    rw [Fills, valuesAt_cons_other named, Fills]

theorem fills_none {result : α} :
    Fills read name members none (some result) ↔
      ∃ value, valuesAt name members = [value] ∧ read value = .ok result := by
  simp [Fills]

end

theorem foldlM_eq_ok_iff {D : Type} {step : D → Member → Except Problem D}
    {Reads : D → List Member → D → Prop} (none : ∀ draft next, Reads draft [] next ↔ draft = next)
    (one : ∀ draft member next, member.2.unbroken = true →
      (step draft member = .ok next ↔ Reads draft [member] next))
    (more : ∀ draft member rest next, Reads draft (member :: rest) next ↔
      ∃ between, Reads draft [member] between ∧ Reads between rest next)
    {members : List Member} (whole : ∀ member ∈ members, member.2.unbroken = true)
    {draft next : D} : members.foldlM step draft = .ok next ↔ Reads draft members next := by
  induction members generalizing draft with
  | nil => simp [none, pure, Except.pure]
  | cons member rest ih =>
    rw [List.foldlM_cons, bind_eq_ok_iff, more]
    refine exists_congr fun between => ?_
    rw [one draft member between (whole member (by simp)),
      ih fun other later => whole other (List.mem_cons_of_mem _ later)]

theorem required_eq_ok_iff {α : Type} {current : Option α} {name : String} {result : α} :
    required current name = .ok result ↔ current = some result := by
  cases current <;> simp [required]

theorem element_eq_ok_iff {α : Type} {elements : List Json} {index : Nat} {whole : Wanted}
    {read : Json → Except Problem α} {result : α} :
    element elements index whole read = .ok result ↔
      ∃ value, elements[index]? = some value ∧ read value = .ok result := by
  unfold element
  cases elements[index]? <;> simp

theorem skip_eq_ok_iff {value : Json} : skip value = .ok () ↔ value.unbroken = true := by
  unfold skip
  split <;> simp_all

/-- A record is read from a text iff the text spells a value that the record is read from. -/
theorem readText_eq_ok_iff {α : Type} {read : Json → Except Problem α} {text : String} {result : α} :
    readText read text = .ok result ↔ ∃ value, Spells text value ∧ read value = .ok result := by
  simp only [readText, bind_eq_ok_iff]
  constructor
  · rintro ⟨found, done, complete⟩
    split at complete
    · rename_i whole
      cases complete
      refine ⟨(Document.read text).root, read_eq_iff.mp ?_, done⟩
      rw [← whole]
    · cases complete
  · rintro ⟨value, spells, done⟩
    rw [read_eq_iff.mpr spells]
    exact ⟨result, done, rfl⟩

end Json

end GossipIntake
