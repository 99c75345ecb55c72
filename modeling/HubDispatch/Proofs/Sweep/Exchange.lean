import HubDispatch.Sweep.Work
import HubDispatch.Proofs.Outcome

/-!
# What a sweep exchanges

The events of a piece of work say what the optimizer was asked and what the receiver was handed, not
what they answered. Both are machines on a common memory, so their answers follow: `exchanges` reads
the events off with the answers, starting from a memory, and `memoryAfter` is the memory that they
leave.

`Runs` says where a piece of work leads, in these terms. It holds of every primitive piece of work
and carries over to compositions, so that nothing but the exchanges ever changes the memory.
-/

namespace HubDispatch

/-- A question to the optimizer or a result for the receiver, with the answer. -/
inductive Exchange where
  | asked (problem : Problem) (answer : Except Failure (List Solution))
  | received (result : Iteration) (answer : Except Failure Unit)

section Reading

variable {σ : Type} (optimizer : Optimizer σ)
  (receive : Iteration → σ → Except Failure Unit × σ)

/-- The exchanges that some events stand for. -/
def exchanges : List Event → σ → List Exchange
  | [], _ => []
  | .noted _ :: rest, m => exchanges rest m
  | .asked problem :: rest, m =>
    .asked problem (optimizer.solve problem m).1.result ::
      exchanges rest (optimizer.solve problem m).2
  | .received result :: rest, m =>
    .received result (receive result m).1 :: exchanges rest (receive result m).2

/-- The memory that some events leave. -/
def memoryAfter : List Event → σ → σ
  | [], m => m
  | .noted _ :: rest, m => memoryAfter rest m
  | .asked problem :: rest, m => memoryAfter rest (optimizer.solve problem m).2
  | .received result :: rest, m => memoryAfter rest (receive result m).2

theorem exchanges_append (events later : List Event) (m : σ) :
    exchanges optimizer receive (events ++ later) m =
      exchanges optimizer receive events m ++
        exchanges optimizer receive later (memoryAfter optimizer receive events m) := by
  induction events generalizing m with
  | nil => rfl
  | cons event events ih => cases event <;> simp [exchanges, memoryAfter, ih]

theorem memoryAfter_append (events later : List Event) (m : σ) :
    memoryAfter optimizer receive (events ++ later) m =
      memoryAfter optimizer receive later (memoryAfter optimizer receive events m) := by
  induction events generalizing m with
  | nil => rfl
  | cons event events ih => cases event <;> simp [memoryAfter, ih]

theorem exchanges_noted (entries : List Entry) (m : σ) :
    exchanges optimizer receive (entries.map .noted) m = [] := by
  induction entries with
  | nil => rfl
  | cons entry entries ih => exact ih

theorem memoryAfter_noted (entries : List Entry) (m : σ) :
    memoryAfter optimizer receive (entries.map .noted) m = m := by
  induction entries with
  | nil => rfl
  | cons entry entries ih => exact ih

end Reading

/-- From the memory `m` the work makes the exchanges `talk` and comes to `result` and the memory
`m'`, which is the one that the exchanges leave. -/
structure Runs {σ α : Type} (optimizer : Optimizer σ)
    (receive : Iteration → σ → Except Failure Unit × σ) (work : Work σ α) (m : σ)
    (talk : List Exchange) (result : Except Failure α) (m' : σ) : Prop where
  talk_eq : exchanges optimizer receive (work m).events m = talk
  result_eq : (work m).result = result
  state_eq : (work m).state = m'
  memory_eq : memoryAfter optimizer receive (work m).events m = m'

namespace Runs

variable {σ α β : Type} {optimizer : Optimizer σ}
  {receive : Iteration → σ → Except Failure Unit × σ} {m m' m'' : σ} {talk talk' : List Exchange}

theorem pure (x : α) : Runs optimizer receive (Pure.pure x : Work σ α) m [] (.ok x) m :=
  ⟨rfl, rfl, rfl, rfl⟩

theorem lift (x : Except Failure α) : Runs optimizer receive (Work.lift x) m [] x m :=
  ⟨rfl, rfl, rfl, rfl⟩

theorem note (level : Level) (text : String) :
    Runs optimizer receive (Work.note level text) m [] (.ok ()) m :=
  ⟨rfl, rfl, rfl, rfl⟩

theorem ask (context : String) (problem : Problem) :
    Runs optimizer receive (Work.ask optimizer context problem) m
      [.asked problem (optimizer.solve problem m).1.result]
      (within context (optimizer.solve problem m).1.result) (optimizer.solve problem m).2 where
  talk_eq := by simp [Work.ask, exchanges, exchanges_noted]
  result_eq := rfl
  state_eq := rfl
  memory_eq := by simp [Work.ask, memoryAfter, memoryAfter_noted]

theorem handOn (result : Iteration) :
    Runs optimizer receive (Work.handOn receive result) m
      [.received result (receive result m).1] (receive result m).1 (receive result m).2 :=
  ⟨rfl, rfl, rfl, rfl⟩

/-- After a result the work goes on with it. -/
theorem bind {work : Work σ α} {next : α → Work σ β} {x : α} {result : Except Failure β}
    (h : Runs optimizer receive work m talk (.ok x) m')
    (h' : Runs optimizer receive (next x) m' talk' result m'') :
    Runs optimizer receive (work >>= next) m (talk ++ talk') result m'' := by
  have hbind : (work >>= next) m = ⟨(work m).events ++ (next x m').events, (next x m').result,
      (next x m').state⟩ := by
    change Work.bind work next m = _
    simp only [Work.bind, h.result_eq, h.state_eq]
  -- What comes later is read from the memory that the first part leaves.
  refine ⟨?_, ?_, ?_, ?_⟩
  · rw [hbind, exchanges_append, h.talk_eq, h.memory_eq, h'.talk_eq]
  · rw [hbind, h'.result_eq]
  · rw [hbind, h'.state_eq]
  · rw [hbind, memoryAfter_append, h.memory_eq, h'.memory_eq]

/-- Work that goes on without an exchange. -/
theorem bind_quiet {work : Work σ α} {next : α → Work σ β} {x : α} {result : Except Failure β}
    (h : Runs optimizer receive work m talk (.ok x) m')
    (h' : Runs optimizer receive (next x) m' [] result m'') :
    Runs optimizer receive (work >>= next) m talk result m'' := by
  rw [← List.append_nil talk]
  exact bind h h'

/-- After a failure nothing more happens. -/
theorem bind_error {work : Work σ α} (next : α → Work σ β) {failure : Failure}
    (h : Runs optimizer receive work m talk (.error failure) m') :
    Runs optimizer receive (work >>= next) m talk (.error failure) m' := by
  have hbind : (work >>= next) m = ⟨(work m).events, .error failure, (work m).state⟩ := by
    change Work.bind work next m = _
    simp only [Work.bind, h.result_eq]
  refine ⟨?_, ?_, ?_, ?_⟩
  · rw [hbind, h.talk_eq]
  · rw [hbind]
  · rw [hbind, h.state_eq]
  · rw [hbind, h.memory_eq]

/-- A note in front of the work changes nothing. -/
theorem note_bind {level : Level} {text : String} {next : Unit → Work σ β}
    {result : Except Failure β} (h : Runs optimizer receive (next ()) m talk result m') :
    Runs optimizer receive (Work.note level text >>= next) m talk result m' :=
  bind (note level text) h

end Runs

/-- From every memory the exchanges and the result of the work are in a language. -/
def Keeps {σ α : Type} (optimizer : Optimizer σ)
    (receive : Iteration → σ → Except Failure Unit × σ) (work : Work σ α)
    (language : List Exchange → Except Failure α → Prop) : Prop :=
  ∀ m, ∃ talk result m', Runs optimizer receive work m talk result m' ∧ language talk result

end HubDispatch
