import Mathlib.Data.List.Forall2

/-!
# Symbol-at-a-time transducers and chunked readers

A decoder for a byte stream is usually specified one symbol at a time, but
implemented by a reader that receives chunks of arbitrary size and keeps a
private buffer between them.  This file gives both notions and the rule that
relates them: a reader which tracks a transducer through an abstraction
relation produces the transducer's output on the concatenated stream, so its
output cannot depend on where the stream was cut.
-/

/-- A deterministic machine that reads one symbol and emits finitely many
outputs. -/
structure StreamTransducer (State Symbol Output : Type*) where
  step : State → Symbol → State × List Output

namespace StreamTransducer

variable {State Symbol Output Buffer : Type*}

/-- Read a whole word, collecting the outputs in order. -/
def run (machine : StreamTransducer State Symbol Output) :
    State → List Symbol → State × List Output
  | state, [] => (state, [])
  | state, symbol :: symbols =>
      let first := machine.step state symbol
      let rest := machine.run first.1 symbols
      (rest.1, first.2 ++ rest.2)

@[simp]
theorem run_nil (machine : StreamTransducer State Symbol Output)
    (state : State) : machine.run state [] = (state, []) :=
  rfl

@[simp]
theorem run_cons (machine : StreamTransducer State Symbol Output)
    (state : State) (symbol : Symbol) (symbols : List Symbol) :
    machine.run state (symbol :: symbols) =
      ((machine.run (machine.step state symbol).1 symbols).1,
        (machine.step state symbol).2 ++
          (machine.run (machine.step state symbol).1 symbols).2) :=
  rfl

/-- Reading a concatenation is reading its two halves in turn. -/
theorem run_append (machine : StreamTransducer State Symbol Output)
    (state : State) (first second : List Symbol) :
    machine.run state (first ++ second) =
      ((machine.run (machine.run state first).1 second).1,
        (machine.run state first).2 ++
          (machine.run (machine.run state first).1 second).2) := by
  induction first generalizing state with
  | nil => simp
  | cons symbol first ih =>
      simp only [List.cons_append, run_cons, ih, List.append_assoc]

/-- Related states which emit related outputs at every symbol do so over every
word. -/
theorem run_forall₂ {machine : StreamTransducer State Symbol Output}
    {related : State → State → Prop} {alike : Output → Output → Prop}
    (next : ∀ {first second}, related first second → ∀ symbol,
      related (machine.step first symbol).1 (machine.step second symbol).1 ∧
        List.Forall₂ alike (machine.step first symbol).2
          (machine.step second symbol).2)
    {first second : State} (start : related first second)
    (symbols : List Symbol) :
    related (machine.run first symbols).1 (machine.run second symbols).1 ∧
      List.Forall₂ alike (machine.run first symbols).2
        (machine.run second symbols).2 := by
  induction symbols generalizing first second with
  | nil => exact ⟨start, .nil⟩
  | cons symbol symbols ih =>
      obtain ⟨relatedNext, alikeNow⟩ := next start symbol
      obtain ⟨relatedAfter, alikeLater⟩ := ih relatedNext
      exact ⟨relatedAfter, List.rel_append alikeNow alikeLater⟩

/-- Machines that answer every symbol alike in related states give the same
output over every word. -/
theorem run_output_eq {Other : Type*}
    {machine : StreamTransducer State Symbol Output}
    {other : StreamTransducer Other Symbol Output}
    (related : State → Other → Prop)
    (next : ∀ {first second}, related first second → ∀ symbol,
      related (machine.step first symbol).1 (other.step second symbol).1 ∧
        (machine.step first symbol).2 = (other.step second symbol).2)
    {first : State} {second : Other} (start : related first second)
    (symbols : List Symbol) :
    (machine.run first symbols).2 = (other.run second symbols).2 := by
  induction symbols generalizing first second with
  | nil => rfl
  | cons symbol symbols ih =>
      obtain ⟨relatedNext, sameNow⟩ := next start symbol
      rw [run_cons, run_cons, sameNow, ih relatedNext]

/-- A machine that answers every symbol, and answers `true` once, at the first
symbol that fires it.  The state says whether this is still to come. -/
def latch (fires : Symbol → Bool) : StreamTransducer Bool Symbol Bool where
  step armed symbol := (armed && !fires symbol, [armed && fires symbol])

theorem latch_run_cons_of_fires {fires : Symbol → Bool} {symbol : Symbol}
    (fired : fires symbol = true) (symbols : List Symbol) :
    ((latch fires).run true (symbol :: symbols)).2 =
      true :: ((latch fires).run false symbols).2 := by
  simp [latch, fired]

theorem latch_run_cons_of_not_fires {fires : Symbol → Bool} {symbol : Symbol}
    (held : fires symbol = false) (symbols : List Symbol) :
    ((latch fires).run true (symbol :: symbols)).2 =
      false :: ((latch fires).run true symbols).2 := by
  simp [latch, held]

/-- A latch that has fired answers `false`. -/
theorem eq_false_of_mem_latch_run (fires : Symbol → Bool)
    (symbols : List Symbol) :
    ∀ answer ∈ ((latch fires).run false symbols).2, answer = false := by
  induction symbols with
  | nil => simp
  | cons symbol symbols ih => simpa [latch] using ih

/-- A latch answers `false` at every quiet symbol exactly when each quiet
symbol that could fire it stands behind one that is not quiet and could. -/
theorem latch_quiet_iff (fires : Symbol → Bool) (quiet : Symbol → Prop)
    (symbols : List Symbol) :
    (∀ answered ∈ symbols.zip ((latch fires).run true symbols).2,
        quiet answered.1 → answered.2 = false) ↔
      ∀ before symbol after, symbols = before ++ symbol :: after →
        fires symbol → quiet symbol →
        ∃ earlier ∈ before, fires earlier ∧ ¬ quiet earlier := by
  induction symbols with
  | nil => simp
  | cons head symbols ih =>
      cases fired : fires head with
      | true =>
          have later := eq_false_of_mem_latch_run fires symbols
          rw [latch_run_cons_of_fires fired, List.zip_cons_cons]
          constructor
          · intro silent before symbol after split fires isQuiet
            have loud := silent (head, true) List.mem_cons_self
            rcases List.cons_eq_append_iff.mp split with
              ⟨rfl, same⟩ | ⟨rest, rfl, -⟩
            · obtain ⟨rfl, -⟩ := List.cons.inj same
              cases loud isQuiet
            · exact ⟨head, List.mem_cons_self, fired,
                fun headQuiet => Bool.noConfusion (loud headQuiet)⟩
          · intro preceded answered member isQuiet
            rcases List.mem_cons.mp member with rfl | member
            · obtain ⟨earlier, none, -⟩ :=
                preceded [] head symbols rfl fired isQuiet
              cases none
            · exact later _ (List.of_mem_zip member).2
      | false =>
          rw [latch_run_cons_of_not_fires fired, List.zip_cons_cons,
            List.forall_mem_cons, ih]
          constructor
          · rintro ⟨-, preceded⟩ before symbol after split fires isQuiet
            rcases List.cons_eq_append_iff.mp split with
              ⟨rfl, same⟩ | ⟨rest, rfl, rfl⟩
            · obtain ⟨rfl, -⟩ := List.cons.inj same
              exact absurd fires (by simp [fired])
            · obtain ⟨earlier, member, first⟩ :=
                preceded rest symbol after rfl fires isQuiet
              exact ⟨earlier, List.mem_cons_of_mem head member, first⟩
          · intro preceded
            refine ⟨fun _ => rfl, fun before symbol after split fires
              isQuiet => ?_⟩
            obtain ⟨earlier, member, first, late⟩ :=
              preceded (head :: before) symbol after (by rw [split]; rfl)
                fires isQuiet
            rcases List.mem_cons.mp member with rfl | member
            · exact absurd first (by simp [fired])
            · exact ⟨earlier, member, first, late⟩

/-- Feed a list of chunks to a reader that keeps a buffer between them. -/
def runChunks (feed : Buffer → List Symbol → Buffer × List Output) :
    Buffer → List (List Symbol) → Buffer × List Output
  | buffer, [] => (buffer, [])
  | buffer, chunk :: chunks =>
      let first := feed buffer chunk
      let rest := runChunks feed first.1 chunks
      (rest.1, first.2 ++ rest.2)

/-- A chunk reader tracks a transducer when one chunk read from a related
buffer emits exactly what the transducer emits on the symbols of the chunk, and
leaves a related buffer. -/
structure Tracks (machine : StreamTransducer State Symbol Output)
    (feed : Buffer → List Symbol → Buffer × List Output)
    (related : Buffer → State → Prop) : Prop where
  emits : ∀ {buffer state}, related buffer state → ∀ chunk,
    (feed buffer chunk).2 = (machine.run state chunk).2
  keeps : ∀ {buffer state}, related buffer state → ∀ chunk,
    related (feed buffer chunk).1 (machine.run state chunk).1

variable {machine : StreamTransducer State Symbol Output}
  {feed : Buffer → List Symbol → Buffer × List Output}
  {related : Buffer → State → Prop}

/-- The output of a tracking reader is the transducer's output on the
concatenated stream. -/
theorem Tracks.runChunks_output (tracks : machine.Tracks feed related)
    {buffer : Buffer} {state : State} (start : related buffer state)
    (chunks : List (List Symbol)) :
    (runChunks feed buffer chunks).2 =
      (machine.run state chunks.flatten).2 := by
  induction chunks generalizing buffer state with
  | nil => rfl
  | cons chunk chunks ih =>
      rw [List.flatten_cons, run_append]
      simp only [runChunks]
      rw [tracks.emits start chunk, ih (tracks.keeps start chunk)]

/-- How a stream is cut into chunks does not influence the output of a
tracking reader. -/
theorem Tracks.output_eq_of_flatten_eq
    (tracks : machine.Tracks feed related)
    {buffer : Buffer} {state : State} (start : related buffer state)
    {first second : List (List Symbol)}
    (sameStream : first.flatten = second.flatten) :
    (runChunks feed buffer first).2 = (runChunks feed buffer second).2 := by
  rw [tracks.runChunks_output start, tracks.runChunks_output start,
    sameStream]

end StreamTransducer
