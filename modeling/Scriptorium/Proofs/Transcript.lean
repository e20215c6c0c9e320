set_option autoImplicit false

/-!
# Transcripts of runs

A run takes inputs one after the other.  Each of them changes a state and leaves an entry in the
transcript.  The main statement is `keeps_run`: an agreement between the state and the transcript
that every step keeps holds after every run, also where a step keeps it only if the state after it
is sound and soundness, once lost, does not come back.
-/

namespace Scriptorium.Transcript

variable {State Input Entry : Type} (step : State → Input → State × Entry)

/-- Takes inputs one after the other; gives the state after them and the transcript. -/
def run : List Input → State → State × List Entry
  | [], s => (s, [])
  | input :: rest, s =>
      let after := step s input
      let later := run rest after.1
      (later.1, after.2 :: later.2)

/-- A longer run goes on where the shorter one ended. -/
theorem run_append (inputs more : List Input) (s : State) :
    run step (inputs ++ more) s =
      ((run step more (run step inputs s).1).1,
        (run step inputs s).2 ++ (run step more (run step inputs s).1).2) := by
  induction inputs generalizing s with
  | nil => rfl
  | cons input rest ih => simp only [List.cons_append, run, ih]

variable {step}

/-- Entries that tell their inputs tell all of them, in order. -/
theorem map_run {told : Entry → Input} (htold : ∀ s input, told (step s input).2 = input)
    (inputs : List Input) (s : State) : (run step inputs s).2.map told = inputs := by
  induction inputs generalizing s with
  | nil => rfl
  | cons input rest ih => rw [run, List.map_cons, htold, ih]

/-- Every entry is that of some step. -/
theorem exists_step_of_mem_run {inputs : List Input} {s : State} {x : Entry}
    (h : x ∈ (run step inputs s).2) : ∃ before input, x = (step before input).2 := by
  induction inputs generalizing s with
  | nil => cases h
  | cons input rest ih =>
      rcases List.mem_cons.mp h with rfl | hlater
      · exact ⟨s, input, rfl⟩
      · exact ih hlater

section Keeping

variable (Sound : State → Prop) (hback : ∀ s input, Sound (step s input).1 → Sound s)
include hback

/-- A state from which a run ends soundly is sound. -/
theorem sound_of_run {inputs : List Input} {s : State} (h : Sound (run step inputs s).1) :
    Sound s := by
  induction inputs generalizing s with
  | nil => exact h
  | cons input rest ih => exact hback s input (ih h)

/-- An agreement that sound steps keep is kept by runs that end soundly. -/
theorem keeps_run (Agree : State → List Entry → Prop)
    (hstep : ∀ s t input, Agree s t → Sound (step s input).1 →
      Agree (step s input).1 (t ++ [(step s input).2]))
    (inputs : List Input) {s : State} {t : List Entry} (h : Agree s t)
    (hsound : Sound (run step inputs s).1) :
    Agree (run step inputs s).1 (t ++ (run step inputs s).2) := by
  induction inputs generalizing s t with
  | nil =>
      rw [run, List.append_nil]
      exact h
  | cons input rest ih =>
      have hafter := hstep s t input h (sound_of_run Sound hback hsound)
      have hrest := ih hafter hsound
      rwa [List.append_assoc] at hrest

end Keeping

end Scriptorium.Transcript
