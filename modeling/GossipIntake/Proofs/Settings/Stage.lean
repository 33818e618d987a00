import GossipIntake.Proofs.Text.Word
import GossipIntake.Settings.Stage

namespace GossipIntake

namespace Environment

def ofTexts (texts : String → Option String) : Environment where
  value? name := (texts name).map String.toUTF8

theorem text?_ofTexts (texts : String → Option String) (name : String) :
    (ofTexts texts).text? name = texts name := by
  show ((texts name).map String.toUTF8).bind String.fromUTF8? = texts name
  cases texts name with
  | none => rfl
  | some text => exact dif_pos text.isValidUTF8

def Gives (env : Environment) (name : String) (number : Nat) : Prop :=
  ∃ text, env.text? name = some text ∧ Text.Denotes text.toList number

variable {env : Environment} {name : String}

theorem Gives.unique {number other : Nat} (gives : env.Gives name number)
    (also : env.Gives name other) : number = other := by
  obtain ⟨text, found, denotes⟩ := gives
  obtain ⟨again, same, denotesToo⟩ := also
  rw [found] at same
  cases same
  exact denotes.unique denotesToo

theorem Gives.not_word {number : Nat} (gives : env.Gives name number)
    (tooLarge : UInt64.size ≤ number) (word : UInt64) : ¬ env.Gives name word.toNat := by
  intro also
  have bound := word.toNat_lt_size
  rw [also.unique gives] at bound
  exact Nat.not_lt.mpr tooLarge bound

theorem wordOr_of_gives {word : UInt64} (gives : env.Gives name word.toNat) (default : UInt64) :
    env.wordOr name default = word := by
  obtain ⟨text, found, denotes⟩ := gives
  rw [wordOr, found, Option.bind_some, Text.word?_trim_eq_some_iff.mpr denotes, Option.getD_some]

theorem wordOr_of_not_gives (nothing : ∀ word : UInt64, ¬ env.Gives name word.toNat)
    (default : UInt64) : env.wordOr name default = default := by
  have none : ((env.text? name).bind fun text => Text.word? (Text.trim text.toList)) = none := by
    rw [Option.eq_none_iff_forall_ne_some]
    intro word read
    obtain ⟨text, found, denotes⟩ := Option.bind_eq_some_iff.mp read
    exact nothing word ⟨text, found, Text.word?_trim_eq_some_iff.mp denotes⟩
  rw [wordOr, none, Option.getD_none]

end Environment

inductive StageSetting where
  | initialCapacity
  | inputQueueCapacity
  | outputQueueCapacity
  | node
deriving DecidableEq

namespace StageSetting

def name : StageSetting → String
  | initialCapacity => "HG_DEDUP_INITIAL_CAPACITY"
  | inputQueueCapacity => "HG_DEDUP_INPUT_QUEUE"
  | outputQueueCapacity => "HG_DEDUP_OUTPUT_QUEUE"
  | node => "HG_NODE_ID"

def value (settings : StageSettings) : StageSetting → UInt64
  | initialCapacity => settings.initialCapacity
  | inputQueueCapacity => settings.inputQueueCapacity
  | outputQueueCapacity => settings.outputQueueCapacity
  | node => settings.node.index

def IsQueue (setting : StageSetting) : Prop :=
  setting = inputQueueCapacity ∨ setting = outputQueueCapacity

instance : DecidablePred IsQueue := fun setting =>
  inferInstanceAs (Decidable (setting = inputQueueCapacity ∨ setting = outputQueueCapacity))

def admitted (setting : StageSetting) (word : UInt64) : UInt64 :=
  if setting.IsQueue then max word 1 else word

def default (setting : StageSetting) : UInt64 := setting.value {}

theorem value_ofEnvironment (setting : StageSetting) (env : Environment) :
    setting.value (.ofEnvironment env) =
      setting.admitted (env.wordOr setting.name setting.default) := by
  cases setting <;> rfl

theorem admitted_default (setting : StageSetting) :
    setting.admitted setting.default = setting.default := by
  cases setting <;> decide

theorem one_le_admitted {setting : StageSetting} (queue : setting.IsQueue) (word : UInt64) :
    1 ≤ setting.admitted word := by
  rw [admitted, if_pos queue]
  show 1 ≤ if word ≤ 1 then 1 else word
  split
  · exact UInt64.le_refl 1
  · rename_i above
    exact UInt64.le_of_lt (UInt64.not_le.mp above)

/-- Each setting is the word that its own variable denotes, written in whatever way, and the default
    if that is no word. Both queues have room. -/
theorem configured_by_own_variable (setting : StageSetting) (env : Environment) :
    (∀ other : Environment, env.text? setting.name = other.text? setting.name →
      setting.value (.ofEnvironment env) = setting.value (.ofEnvironment other)) ∧
    (∀ number, env.Gives setting.name number → setting.value (.ofEnvironment env) =
      if number < UInt64.size then setting.admitted (.ofNat number) else setting.default) ∧
    ((¬ ∃ number, env.Gives setting.name number) →
      setting.value (.ofEnvironment env) = setting.default) ∧
    (∀ (word : UInt64) (zeros : Nat) (before sign after : List Char),
      (∀ c ∈ before ++ after, Text.isBlank c = true) → sign = [] ∨ sign = ['+'] →
      env.text? setting.name = some (String.ofList
        (before ++ sign ++ (List.replicate zeros '0' ++ Nat.toDigits 10 word.toNat) ++ after)) →
      setting.value (.ofEnvironment env) = setting.admitted word) ∧
    (setting.IsQueue → 1 ≤ setting.value (.ofEnvironment env)) := by
  simp only [value_ofEnvironment]
  refine ⟨?_, ?_, ?_, ?_, ?_⟩
  · intro other same
    simp only [Environment.wordOr, same]
  · intro number gives
    split
    · rename_i fits
      have word : (UInt64.ofNat number).toNat = number := UInt64.toNat_ofNat_of_lt' fits
      rw [Environment.wordOr_of_gives (word.symm ▸ gives)]
    · rename_i tooLarge
      have nothing := gives.not_word (Nat.not_lt.mp tooLarge)
      rw [Environment.wordOr_of_not_gives nothing, admitted_default]
  · intro nothing
    rw [Environment.wordOr_of_not_gives fun word gives => nothing ⟨word.toNat, gives⟩,
      admitted_default]
  · intro word zeros before sign after padding optional found
    have denotes := Text.denotes_rendering word.toNat zeros padding optional
    rw [Environment.wordOr_of_gives ⟨_, found, by rwa [String.toList_ofList]⟩]
  · intro queue
    exact one_le_admitted queue _

theorem configured_by_own_variable_at_the_bounds :
    let env := Environment.ofTexts fun
      | "HG_DEDUP_INITIAL_CAPACITY" => some "\u2003+0018446744073709551615\n"
      | "HG_DEDUP_INPUT_QUEUE" => some "000"
      | "HG_DEDUP_OUTPUT_QUEUE" => some " 18446744073709551616"
      | _ => none
    env.Gives "HG_DEDUP_INPUT_QUEUE" 0 ∧ env.Gives "HG_DEDUP_OUTPUT_QUEUE" UInt64.size ∧
      (StageSettings.ofEnvironment env).initialCapacity = 18446744073709551615 ∧
      (StageSettings.ofEnvironment env).inputQueueCapacity = 1 ∧
      (StageSettings.ofEnvironment env).outputQueueCapacity = 1000 ∧
      (StageSettings.ofEnvironment env).node = ⟨0⟩ := by
  intro env
  have zero : env.Gives "HG_DEDUP_INPUT_QUEUE" 0 :=
    ⟨_, Environment.text?_ofTexts _ _, by decide⟩
  have tooLarge : env.Gives "HG_DEDUP_OUTPUT_QUEUE" UInt64.size :=
    ⟨_, Environment.text?_ofTexts _ _, by decide⟩
  have unset : ¬ ∃ number, env.Gives "HG_NODE_ID" number := by
    rintro ⟨number, text, found, -⟩
    rw [Environment.text?_ofTexts] at found
    cases found
  obtain ⟨-, -, -, rendered, -⟩ := configured_by_own_variable initialCapacity env
  obtain ⟨-, queue, -⟩ := configured_by_own_variable inputQueueCapacity env
  obtain ⟨-, large, -⟩ := configured_by_own_variable outputQueueCapacity env
  obtain ⟨-, -, absent, -⟩ := configured_by_own_variable node env
  refine ⟨zero, tooLarge, ?_, queue 0 zero, large UInt64.size tooLarge,
    congrArg NodeId.mk (absent unset)⟩
  exact rendered 18446744073709551615 2 ['\u2003'] ['+'] ['\n'] (List.all_eq_true.mp rfl) (.inr rfl)
    (Environment.text?_ofTexts _ _)

end StageSetting

end GossipIntake
