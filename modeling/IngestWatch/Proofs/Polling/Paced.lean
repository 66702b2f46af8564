import IngestWatch.Proofs.Polling.Delays
import IngestWatch.Proofs.Polling.Scheduling

/-!
A refresher whose owner brings no other interval than the one it has. Whatever runs its cycles,
each of them that is ever asked for waits for this interval.
-/

namespace IngestWatch.Polling

variable {pause : Nat}

/-- Nobody brings another interval, not even while a request is under way. -/
def Paced (pause : Nat) (log : List Happening) : Prop :=
  ∀ c ∈ commands log, ∀ interval, c.interval? = some interval → interval = pause

theorem paced_append_iff {first second : List Happening} :
    Paced pause (first ++ second) ↔ Paced pause first ∧ Paced pause second := by
  simp only [Paced, commands_append, List.forall_mem_append]

namespace Refresher

variable {r r' : Refresher} {waiting left : Nat} {log : List Happening}

theorem interval_obey {c : Command} (kept : r.interval = pause)
    (same : ∀ interval, c.interval? = some interval → interval = pause) :
    (r.obey c).interval = pause := by
  cases c with
  | stop => exact kept
  | start interval =>
    cases interval with
    | none => exact kept
    | some interval => exact same interval rfl

theorem interval_atDelivery (kept : r.interval = pause) {waited : Option Nat}
    (paced : Paced pause (r.cycleLog waited)) : r.atDelivery.interval = pause := by
  have obeyed (commands : List Command)
      (same : ∀ c ∈ commands, ∀ interval, c.interval? = some interval → interval = pause)
      (q : Refresher) (kept : q.interval = pause) :
      (commands.foldl obey q).interval = pause := by
    induction commands generalizing q with
    | nil => exact kept
    | cons c rest ih =>
      exact ih (fun d member => same d (.tail _ member)) _
        (interval_obey kept (same c List.mem_cons_self))
  rw [Paced, commands_cycleLog] at paced
  exact obeyed _ paced _ (r.request_interval.trans kept)

/-- A cycle asks for the next one after the interval it has kept. -/
theorem paced_cycleLog (kept : r.interval = pause) {waited : Option Nat}
    (paced : Paced pause (r.cycleLog waited)) :
    r.cycle.1.interval = pause ∧ ∀ delay ∈ delays (r.cycleLog waited), delay = pause := by
  have reached := interval_atDelivery kept paced
  refine ⟨r.cycle_interval.trans reached, fun delay asked => ?_⟩
  rw [delays_cycleLog, delivery_next, reached, Option.mem_toList] at asked
  split at asked
  · exact (Option.some.inj asked).symm
  · cases asked

theorem paced_of_turn (kept : r.interval = pause) (turn : r.Turn waiting log r' left)
    (paced : Paced pause log) : r'.interval = pause ∧ ∀ delay ∈ delays log, delay = pause := by
  cases turn with
  | lapsed fewer => exact ⟨kept, by rintro _ ⟨⟩⟩
  | told command =>
    exact ⟨interval_obey kept (paced command (by simp [commands])), by rintro _ ⟨⟩⟩
  | observed => exact ⟨kept, by rintro _ ⟨⟩⟩
  | awaited => exact paced_cycleLog kept paced
  | fired waited one => exact paced_cycleLog kept paced

theorem paced_of_evolves (kept : r.interval = pause) (evolves : r.Evolves waiting log r' left)
    (paced : Paced pause log) : r'.interval = pause ∧ ∀ delay ∈ delays log, delay = pause := by
  induction evolves with
  | start => exact ⟨kept, by rintro _ ⟨⟩⟩
  | turn _ next ih =>
    obtain ⟨before, now⟩ := paced_append_iff.mp paced
    obtain ⟨still, earlier⟩ := ih before
    obtain ⟨stays, asked⟩ := paced_of_turn still next now
    rw [delays_append, List.forall_mem_append]
    exact ⟨stays, earlier, asked⟩

end Refresher

/-- The delays of a run that nobody disturbs are the interval, whatever runs the cycles. -/
theorem Scheduling.eq_of_mem_delays {σ μ : Type} (k : Scheduling σ μ) {s : σ}
    (kept : (k.refresher s).interval = pause) {moves : List μ} (paced : Paced pause (k.log s moves))
    {delay : Nat} (asked : delay ∈ delays (k.log s moves)) : delay = pause :=
  (Refresher.paced_of_evolves kept (k.evolves_run s moves) paced).2 delay asked

end IngestWatch.Polling
