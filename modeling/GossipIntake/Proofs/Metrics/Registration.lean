import GossipIntake.Metrics.Registry
import Mathlib.Data.List.Basic
import Mathlib.Data.Set.Insert

namespace GossipIntake

universe u v

/-- What can be seen of a registry: the collectors that it holds, and the names that each takes. -/
structure RegistryView (R : Type u) (C : Type v) where
  held : R → Set C
  names : C → Set String
  ofCounter : Counter → C

namespace RegistryView

variable {R : Type u} {C : Type v}

def Taken (view : RegistryView R C) (registry : R) (name : String) : Prop :=
  ∃ collector ∈ view.held registry, name ∈ view.names collector

def heldWith (view : RegistryView R C) (registry : R) (counters : List Counter) : Set C :=
  {collector | collector ∈ view.held registry ∨
    ∃ counter ∈ counters, view.ofCounter counter = collector}

/-- A counter is refused, without effect, iff its name is taken, and otherwise it is held from then
    on. -/
structure Describes (view : RegistryView R C)
    (register : R → Counter → Except MetricError Unit × R) : Prop where
  names_ofCounter : ∀ counter, view.names (view.ofCounter counter) = {counter.name}
  refused_iff : ∀ registry counter,
    (register registry counter).1 ≠ .ok () ↔ view.Taken registry counter.name
  held_of_refused : ∀ registry counter, (register registry counter).1 ≠ .ok () →
    view.held (register registry counter).2 = view.held registry
  held_of_ok : ∀ registry counter, (register registry counter).1 = .ok () →
    view.held (register registry counter).2 =
      insert (view.ofCounter counter) (view.held registry)

/-- Where the registration of a list stops: the counters in front of the first whose name is taken,
    and those from that one on. -/
structure Stops (view : RegistryView R C) (registry : R) (counters kept rest : List Counter) :
    Prop where
  split : counters = kept ++ rest
  free : ∀ counter ∈ kept, ¬ view.Taken registry counter.name
  taken : ∀ counter ∈ rest.head?, view.Taken registry counter.name

variable {view : RegistryView R C} {register : R → Counter → Except MetricError Unit × R}

theorem heldWith_nil (registry : R) : view.heldWith registry [] = view.held registry := by
  ext collector
  simp [heldWith]

theorem heldWith_cons {registry next : R} {counter : Counter}
    (held : view.held next = insert (view.ofCounter counter) (view.held registry))
    (counters : List Counter) :
    view.heldWith next counters = view.heldWith registry (counter :: counters) := by
  ext collector
  simp only [heldWith, held, Set.mem_ofPred_eq, Set.mem_insert_iff, List.mem_cons,
    exists_eq_or_imp, or_assoc, eq_comm (a := collector) (b := view.ofCounter counter)]
  exact or_left_comm

theorem Stops.rest_eq_nil_iff {registry : R} {counters kept rest : List Counter}
    (stops : view.Stops registry counters kept rest) :
    rest = [] ↔ ∀ counter ∈ counters, ¬ view.Taken registry counter.name := by
  constructor
  · rintro rfl
    rw [stops.split, List.append_nil]
    exact stops.free
  · intro free
    cases rest with
    | nil => rfl
    | cons counter others =>
      have member : counter ∈ counters := by simp [stops.split]
      exact absurd (stops.taken counter rfl) (free counter member)

namespace Describes

theorem taken_of_ok (describes : view.Describes register) {registry : R} {counter : Counter}
    (done : (register registry counter).1 = .ok ()) (name : String) :
    view.Taken (register registry counter).2 name ↔
      name = counter.name ∨ view.Taken registry name := by
  rw [Taken, describes.held_of_ok registry counter done]
  simp only [Set.mem_insert_iff, or_and_right, exists_or, exists_eq_left,
    describes.names_ofCounter, Set.mem_singleton_iff]
  rfl

theorem taken_name (describes : view.Describes register) {registry : R} {counter : Counter}
    (held : view.ofCounter counter ∈ view.held registry) : view.Taken registry counter.name :=
  ⟨_, held, by rw [describes.names_ofCounter]; rfl⟩

theorem exists_stops (describes : view.Describes register) (registry : R) {counters : List Counter}
    (distinct : (counters.map (·.name)).Nodup) :
    ∃ kept rest, view.Stops registry counters kept rest ∧
      view.held (registerAll register registry counters).2 = view.heldWith registry kept ∧
      ((registerAll register registry counters).1 = .ok () ↔ rest = []) := by
  induction counters generalizing registry with
  | nil =>
    exact ⟨[], [], ⟨rfl, by simp, by simp⟩, (heldWith_nil registry).symm, iff_of_true rfl rfl⟩
  | cons counter others ih =>
    obtain ⟨apart, later⟩ := List.nodup_cons.mp distinct
    have refused := describes.refused_iff registry counter
    cases offered : register registry counter with
    | mk result next =>
      rw [registerAll, offered]
      rw [offered] at refused
      cases result with
      | error error =>
        have taken : view.Taken registry counter.name := refused.mp nofun
        have held := describes.held_of_refused registry counter (by rw [offered]; exact nofun)
        rw [offered] at held
        refine ⟨[], counter :: others, ⟨rfl, by simp, by simpa using taken⟩, ?_, by simp⟩
        rw [held, heldWith_nil]
      | ok =>
        have free : ¬ view.Taken registry counter.name := fun taken => refused.mpr taken rfl
        have done : (register registry counter).1 = .ok () := by rw [offered]
        have names := describes.taken_of_ok done
        have held := describes.held_of_ok registry counter done
        rw [offered] at names held
        obtain ⟨kept, rest, stops, total, finished⟩ := ih next later
        refine ⟨counter :: kept, rest, ⟨by rw [stops.split]; rfl, ?_, ?_⟩, ?_, finished⟩
        · intro other member
          rcases List.mem_cons.mp member with rfl | behind
          · exact free
          · exact fun taken => stops.free other behind ((names other.name).mpr (.inr taken))
        · intro other head
          -- Later names differ from the one just added, so this one was taken before.
          have member : other ∈ others := by
            rw [stops.split]
            exact List.mem_append_right _ (List.mem_of_head? head)
          rcases (names other.name).mp (stops.taken other head) with same | taken
          · exact absurd (List.mem_map.mpr ⟨other, member, same⟩) apart
          · exact taken
        · rw [total, heldWith_cons held]

theorem taken_of_heldWith (describes : view.Describes register) {registry next : R}
    {counters : List Counter} (held : view.held next = view.heldWith registry counters)
    (name : String) :
    view.Taken next name ↔
      view.Taken registry name ∨ ∃ counter ∈ counters, counter.name = name := by
  simp only [Taken, held, heldWith, Set.mem_ofPred_eq, or_and_right, exists_or]
  refine or_congr_right ?_
  constructor
  · rintro ⟨collector, ⟨counter, member, rfl⟩, named⟩
    rw [describes.names_ofCounter] at named
    exact ⟨counter, member, named.symm⟩
  · rintro ⟨counter, member, rfl⟩
    exact ⟨view.ofCounter counter, ⟨counter, member, rfl⟩, by rw [describes.names_ofCounter]; rfl⟩

theorem heldWith_eq_held_iff (describes : view.Describes register) {registry : R}
    {counters : List Counter} (free : ∀ counter ∈ counters, ¬ view.Taken registry counter.name) :
    view.heldWith registry counters = view.held registry ↔ counters = [] := by
  constructor
  · intro same
    rw [List.eq_nil_iff_forall_not_mem]
    intro counter member
    have added : view.ofCounter counter ∈ view.heldWith registry counters :=
      .inr ⟨counter, member, rfl⟩
    rw [same] at added
    exact free counter member (describes.taken_name added)
  · rintro rfl
    exact heldWith_nil registry

end Describes

/-- The names are given back, and with them nothing else. -/
def Frees (view : RegistryView R C) (before after : R) (names : Set String) : Prop :=
  ∀ name, view.Taken after name ↔ view.Taken before name ∧ name ∉ names

end RegistryView

namespace Registry

def view : RegistryView Registry Counter where
  held registry := {counter | counter ∈ registry.counters}
  names counter := {counter.name}
  ofCounter := id

theorem view_taken_iff {registry : Registry} {name : String} :
    view.Taken registry name ↔ registry.holds name = true := by
  rw [holds, List.any_eq_true]
  constructor
  · rintro ⟨counter, member, rfl⟩
    exact ⟨counter, member, beq_self_eq_true _⟩
  · rintro ⟨counter, member, same⟩
    exact ⟨counter, member, (eq_of_beq same).symm⟩

theorem offer_of_taken {registry : Registry} {counter : Counter}
    (taken : registry.holds counter.name = true) :
    registry.offer counter = (.error .alreadyRegistered, registry) := by
  rw [offer, register, if_pos taken]

theorem offer_of_free {registry : Registry} {counter : Counter}
    (free : ¬ registry.holds counter.name = true) :
    registry.offer counter = (.ok (), ⟨registry.counters ++ [counter]⟩) := by
  rw [offer, register, if_neg free]

theorem view_describes : view.Describes offer where
  names_ofCounter counter := rfl
  refused_iff registry counter := by
    rw [view_taken_iff]
    by_cases taken : registry.holds counter.name = true
    · rw [offer_of_taken taken]
      exact iff_of_true nofun taken
    · rw [offer_of_free taken]
      exact iff_of_false (fun refused => refused rfl) taken
  held_of_refused registry counter refused := by
    by_cases taken : registry.holds counter.name = true
    · rw [offer_of_taken taken]
    · rw [offer_of_free taken] at refused
      exact absurd rfl refused
  held_of_ok registry counter done := by
    by_cases taken : registry.holds counter.name = true
    · rw [offer_of_taken taken] at done
      cases done
    · rw [offer_of_free taken]
      ext other
      simp [view, or_comm]

end Registry

namespace IntakeCounters

def names : List String :=
  ["hg_intake_duplicate_events_total", "hg_intake_non_duplicate_events_total",
    "hg_intake_disparate_signature_events_total", "hg_intake_ancient_events_total"]

theorem exists_new (cells : Cells) :
    ∃ counters next, new cells = .ok (counters, next) ∧ counters.all.map (·.name) = names :=
  ⟨_, _, rfl, rfl⟩

variable {R : Type u} {C : Type v} {view : RegistryView R C}
  {register : R → Counter → Except MetricError Unit × R}

theorem forall_mem_names {counters : IntakeCounters} (named : counters.all.map (·.name) = names)
    {P : String → Prop} : (∀ name ∈ names, P name) ↔ ∀ counter ∈ counters.all, P counter.name := by
  rw [← named, List.forall_mem_map]

theorem registerWith_of_new (register : R → Counter → Except MetricError Unit × R) (registry : R)
    {cells next : Cells} {counters : IntakeCounters} (made : new cells = .ok (counters, next)) :
    registerWith register registry cells =
      ((registerAll register registry counters.all).1.map fun _ => counters,
        (registerAll register registry counters.all).2, next) := by
  rw [registerWith, made]

theorem registerWith_cases (describes : view.Describes register) (registry : R) {cells next : Cells}
    {counters : IntakeCounters} (made : new cells = .ok (counters, next))
    (named : counters.all.map (·.name) = names) :
    ∃ kept rest, view.Stops registry counters.all kept rest ∧
      view.held (registerWith register registry cells).2.1 = view.heldWith registry kept ∧
      ((registerWith register registry cells).1 = .ok counters ∧ rest = [] ∨
        (∃ error, (registerWith register registry cells).1 = .error error) ∧ rest ≠ []) := by
  have distinct : (counters.all.map (·.name)).Nodup := by
    rw [named]
    decide
  obtain ⟨kept, rest, stops, held, finished⟩ := describes.exists_stops registry distinct
  rw [registerWith_of_new register registry made]
  refine ⟨kept, rest, stops, held, ?_⟩
  cases result : (registerAll register registry counters.all).1 with
  | ok => exact .inl ⟨rfl, finished.mp result⟩
  | error error =>
    refine .inr ⟨⟨error, rfl⟩, fun none => ?_⟩
    rw [finished.mpr none] at result
    cases result

theorem registerWith_ok_iff (describes : view.Describes register) (registry : R) (cells : Cells) :
    (∃ counters, (registerWith register registry cells).1 = .ok counters) ↔
      ∀ name ∈ names, ¬ view.Taken registry name := by
  obtain ⟨counters, next, made, named⟩ := exists_new cells
  obtain ⟨kept, rest, stops, -, outcome⟩ := registerWith_cases describes registry made named
  rw [forall_mem_names named, ← stops.rest_eq_nil_iff]
  rcases outcome with ⟨done, none⟩ | ⟨⟨error, failed⟩, some⟩
  · exact iff_of_true ⟨counters, done⟩ none
  · refine iff_of_false ?_ some
    rintro ⟨counters, done⟩
    rw [failed] at done
    cases done

theorem registerWith_ok_iff_freed (describes : view.Describes register) {registry failed after : R}
    {kept : List Counter} (held : view.held failed = view.heldWith registry kept)
    (ours : ∀ counter ∈ kept, counter.name ∈ names) {freed : Set String}
    (frees : view.Frees failed after freed) (cells : Cells) :
    (∃ counters, (registerWith register after cells).1 = .ok counters) ↔
      (∀ name ∈ names, view.Taken registry name → name ∈ freed) ∧
        ∀ counter ∈ kept, counter.name ∈ freed := by
  rw [registerWith_ok_iff describes]
  simp only [frees _, describes.taken_of_heldWith held, not_and, not_not]
  constructor
  · intro free
    refine ⟨fun name member taken => free name member (.inl taken), fun counter member => ?_⟩
    exact free counter.name (ours counter member) (.inr ⟨counter, member, rfl⟩)
  · rintro ⟨before, added⟩ name member (taken | ⟨counter, inside, rfl⟩)
    · exact before name member taken
    · exact added counter inside

/-- All four counters are registered iff none of their names is taken. Otherwise the registry keeps
    those in front of the first whose name is, so that it is unchanged only if that is the very first,
    and another attempt succeeds only if the names of those that it kept are given back too. -/
theorem registered_up_to_taken_name (describes : view.Describes register) (registry : R)
    (cells : Cells) :
    ∃ counters next, new cells = .ok (counters, next) ∧ counters.all.map (·.name) = names ∧
      let attempt := registerWith register registry cells
      ((∃ made, attempt.1 = .ok made) ↔ ∀ name ∈ names, ¬ view.Taken registry name) ∧
      (∀ made, attempt.1 = .ok made →
        made = counters ∧ view.held attempt.2.1 = view.heldWith registry counters.all) ∧
      ∀ error, attempt.1 = .error error →
        ∃ kept first rest, counters.all = kept ++ first :: rest ∧
          (∀ counter ∈ kept, ¬ view.Taken registry counter.name) ∧
          view.Taken registry first.name ∧
          view.held attempt.2.1 = view.heldWith registry kept ∧
          (view.held attempt.2.1 = view.held registry ↔ kept = []) ∧
          ∀ (after : R) (freed : Set String) (cells : Cells), view.Frees attempt.2.1 after freed →
            ((∃ made, (registerWith register after cells).1 = .ok made) ↔
              (∀ name ∈ names, view.Taken registry name → name ∈ freed) ∧
                ∀ counter ∈ kept, counter.name ∈ freed) := by
  obtain ⟨counters, next, made, named⟩ := exists_new cells
  obtain ⟨kept, rest, stops, held, outcome⟩ := registerWith_cases describes registry made named
  refine ⟨counters, next, made, named, registerWith_ok_iff describes registry cells, ?_, ?_⟩
  · intro other succeeded
    rcases outcome with ⟨done, rfl⟩ | ⟨⟨error, failed⟩, -⟩
    · rw [done] at succeeded
      cases succeeded
      have all : counters.all = kept := by rw [stops.split, List.append_nil]
      exact ⟨rfl, by rw [all, held]⟩
    · rw [failed] at succeeded
      cases succeeded
  · intro error failed
    rcases outcome with ⟨done, -⟩ | ⟨-, some⟩
    · rw [done] at failed
      cases failed
    · obtain ⟨first, others, rfl⟩ := List.exists_cons_of_ne_nil some
      have ours : ∀ counter ∈ kept, counter.name ∈ names := by
        intro counter member
        rw [← named, stops.split]
        exact List.mem_map_of_mem (List.mem_append_left _ member)
      refine ⟨kept, first, others, stops.split, stops.free, stops.taken first rfl, held, ?_, ?_⟩
      · rw [held]
        exact describes.heldWith_eq_held_iff stops.free
      · intro after freed cells frees
        exact registerWith_ok_iff_freed describes held ours frees cells

theorem registered_up_to_taken_name_last_taken :
    let registry : Registry := ⟨[⟨"hg_intake_ancient_events_total", "Another counter", 0⟩]⟩
    let attempt := registerWith Registry.offer registry ⟨[0]⟩
    Registry.view.Describes Registry.offer ∧ attempt.1 = .error .alreadyRegistered ∧
      ∃ kept, kept.map Counter.name = names.take 3 ∧
        Registry.view.held attempt.2.1 = Registry.view.heldWith registry kept := by
  intro registry attempt
  have refused : attempt.1 = .error .alreadyRegistered := by decide
  obtain ⟨counters, next, made, named, -, -, failed⟩ :=
    registered_up_to_taken_name Registry.view_describes registry ⟨[0]⟩
  obtain ⟨kept, first, rest, split, -, taken, held, -⟩ := failed .alreadyRegistered refused
  refine ⟨Registry.view_describes, refused, kept, ?_, held⟩
  have last : first.name = "hg_intake_ancient_events_total" := by
    obtain ⟨counter, member, same⟩ := taken
    rw [List.mem_singleton.mp member] at same
    exact same
  have all : names.take 3 ++ "hg_intake_ancient_events_total" :: [] =
      kept.map Counter.name ++ first.name :: rest.map Counter.name := by
    rw [← List.map_cons, ← List.map_append, ← split, named]
    rfl
  rw [last] at all
  exact ((List.append_cons_inj_of_notMem (by decide) (by decide)).mp all).1.symm

theorem registration_leaves_counters :
    let registry : Registry := ⟨[⟨"hg_intake_ancient_events_total", "Another counter", 0⟩]⟩
    let attempt := IntakeCounters.register registry ⟨[0]⟩
    let freed : Registry :=
      ⟨attempt.2.1.counters.filter (·.name != "hg_intake_ancient_events_total")⟩
    Registry.view.Describes Registry.offer ∧ attempt.1 = .error .alreadyRegistered ∧
      attempt.2.1 ≠ registry ∧ attempt.2.1.counters.map (·.name) =
        ["hg_intake_ancient_events_total", "hg_intake_duplicate_events_total",
          "hg_intake_non_duplicate_events_total", "hg_intake_disparate_signature_events_total"] ∧
      (IntakeCounters.register freed attempt.2.2).1 = .error .alreadyRegistered :=
  ⟨Registry.view_describes, by decide⟩

end IntakeCounters

end GossipIntake
