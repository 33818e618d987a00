namespace GossipIntake

universe u v w x

def runAll {S : Type u} {A : Type v} {R : Type w} (step : S → A → R × S) (state : S) :
    List A → List R × S
  | [] => ([], state)
  | action :: rest =>
    let done := step state action
    let tail := runAll step done.2 rest
    (done.1 :: tail.1, tail.2)

variable {S : Type u} {A : Type v} {R : Type w} {T : Type x} {step : S → A → R × S}

theorem runAll_append (step : S → A → R × S) (state : S) (before after : List A) :
    runAll step state (before ++ after) =
      ((runAll step state before).1 ++ (runAll step (runAll step state before).2 after).1,
        (runAll step (runAll step state before).2 after).2) := by
  induction before generalizing state with
  | nil => rfl
  | cons action rest ih => simp only [List.cons_append, runAll, ih]

theorem runAll_related {other : T → A → R × T} (Related : S → T → Prop)
    (kept : ∀ s t action, Related s t →
      (step s action).1 = (other t action).1 ∧ Related (step s action).2 (other t action).2)
    {s : S} {t : T} (initial : Related s t) (actions : List A) :
    (runAll step s actions).1 = (runAll other t actions).1 ∧
      Related (runAll step s actions).2 (runAll other t actions).2 := by
  induction actions generalizing s t with
  | nil => exact ⟨rfl, initial⟩
  | cons action rest ih =>
    obtain ⟨result, next⟩ := kept s t action initial
    obtain ⟨results, last⟩ := ih next
    exact ⟨by rw [runAll, runAll, result, results], last⟩

end GossipIntake
