import IngestWatch.Timer.Timeline
import Mathlib.Tactic

/-!
What happens between two instants of a timeline. Events are fired one after another,
the earliest first, until none is due; `of_runUntil` says that what holds before and is
kept by every event fired holds afterwards. Of the world only that part matters which
the program looks at (`runUntil_similar`).
-/

namespace IngestWatch.Timer

variable {σ τ : Type}

/-! ## The earliest event -/

theorem takeEarliest?_eq_none_iff {events : List (Event τ)} :
    takeEarliest? events = none ↔ events = [] := by
  fun_cases takeEarliest? events <;> simp_all

/-- The earliest event comes out and the others stay. -/
theorem perm_of_takeEarliest {events rest : List (Event τ)} {e : Event τ}
    (h : takeEarliest? events = some (e, rest)) : events.Perm (e :: rest) := by
  fun_induction takeEarliest? events generalizing e rest with
  | case1 => cases h
  | case2 x xs none _ =>
    obtain ⟨rfl, rfl⟩ : x = e ∧ [] = rest := by simpa using h
    rw [takeEarliest?_eq_none_iff.mp none]
  | case3 x xs f others found earlier ih =>
    obtain ⟨rfl, rfl⟩ : f = e ∧ x :: others = rest := by simpa using h
    exact ((ih found).cons x).trans (List.Perm.swap f x others)
  | case4 x xs f others found later ih =>
    obtain ⟨rfl, rfl⟩ : x = e ∧ xs = rest := by simpa using h
    exact List.Perm.refl _

/-- No event is due before the one that comes out. -/
theorem due_le_of_takeEarliest {events rest : List (Event τ)} {e : Event τ}
    (h : takeEarliest? events = some (e, rest)) : ∀ f ∈ events, e.due ≤ f.due := by
  fun_induction takeEarliest? events generalizing e rest with
  | case1 => cases h
  | case2 x xs none _ =>
    obtain ⟨rfl, rfl⟩ : x = e ∧ [] = rest := by simpa using h
    simp [takeEarliest?_eq_none_iff.mp none]
  | case3 x xs f others found earlier ih =>
    obtain ⟨rfl, rfl⟩ : f = e ∧ x :: others = rest := by simpa using h
    intro g member
    rcases List.mem_cons.mp member with rfl | inside
    · omega
    · exact ih found g inside
  | case4 x xs f others found later ih =>
    obtain ⟨rfl, rfl⟩ : x = e ∧ xs = rest := by simpa using h
    intro g member
    rcases List.mem_cons.mp member with rfl | inside
    · exact Nat.le_refl _
    · have := ih found g inside
      omega

/-- What is left when the earliest event comes out keeps its order. -/
theorem filter_of_takeEarliest {keep : Event τ → Bool} {events rest : List (Event τ)}
    {e : Event τ} (earliest : takeEarliest? events = some (e, rest)) (lost : keep e = false) :
    rest.filter keep = events.filter keep := by
  fun_induction takeEarliest? events generalizing e rest with
  | case1 => cases earliest
  | case2 x xs none _ =>
    obtain ⟨rfl, rfl⟩ : x = e ∧ [] = rest := by simpa using earliest
    simp [takeEarliest?_eq_none_iff.mp none, lost]
  | case3 x xs f others found earlier ih =>
    obtain ⟨rfl, rfl⟩ : f = e ∧ x :: others = rest := by simpa using earliest
    rw [List.filter_cons, List.filter_cons, ih found lost]
  | case4 x xs f others found later ih =>
    obtain ⟨rfl, rfl⟩ : x = e ∧ xs = rest := by simpa using earliest
    rw [List.filter_cons_of_neg (by rw [lost]; decide)]

/-- A program that goes the same way in worlds that are the same to it. -/
def Program.Respects (p : Program σ τ) (Same : σ → σ → Prop) : Prop :=
  ∀ now task w w', Same w w' →
    (p.run now task w).2 = (p.run now task w').2 ∧
      Same (p.run now task w).1 (p.run now task w').1

namespace Timeline

variable {p : Program σ τ} {instant : Nat}

/-- As long as nothing was cancelled, all events are set. -/
theorem setAll_events (tl : Timeline σ τ) (uncancelled : tl.cancelled = false)
    (events : List (Event τ)) : (tl.setAll events).events = tl.events ++ events := by
  simp [setAll, accepts, uncancelled]

theorem length_setAll_le (tl : Timeline σ τ) (events : List (Event τ)) :
    (tl.setAll events).events.length ≤ tl.events.length + events.length := by
  rw [setAll, List.length_append]
  exact Nat.add_le_add_left (List.length_filter_le _ _) _

/-! ## Up to an instant -/

/-- The events fired on the way to an instant, each with the world it finds. -/
def firedUntil (p : Program σ τ) (instant : Nat) (tl : Timeline σ τ) : List (Event τ × σ) :=
  match _h : takeEarliest? tl.events with
  | none => []
  | some (e, rest) =>
    if e.due ≤ instant then (e, tl.world) :: firedUntil p instant (tl.fire p e rest) else []
termination_by tl.cost p
decreasing_by exact cost_fire_lt p tl _h

/-- With nothing due only the clock is set. -/
theorem runUntil_of_ahead {tl : Timeline σ τ} (ahead : ∀ e ∈ tl.events, instant < e.due) :
    tl.runUntil p instant = { tl with now := max tl.now instant } ∧
      tl.firedUntil p instant = [] := by
  rw [runUntil, firedUntil]
  cases earliest : takeEarliest? tl.events with
  | none => exact ⟨rfl, rfl⟩
  | some found =>
    obtain ⟨e, rest⟩ := found
    have member : e ∈ tl.events := (perm_of_takeEarliest earliest).mem_iff.mpr (by simp)
    have later : ¬ e.due ≤ instant := Nat.not_le.mpr (ahead e member)
    simp only [if_neg later, and_self]

/-- An event that is due is fired and the rest follows. -/
theorem runUntil_of_due {tl : Timeline σ τ} {e : Event τ} {rest : List (Event τ)}
    (earliest : takeEarliest? tl.events = some (e, rest)) (due : e.due ≤ instant) :
    tl.runUntil p instant = (tl.fire p e rest).runUntil p instant ∧
      tl.firedUntil p instant =
        (e, tl.world) :: (tl.fire p e rest).firedUntil p instant := by
  constructor
  · rw [runUntil]
    split
    · simp_all
    · simp_all
  · rw [firedUntil]
    split
    · simp_all
    · simp_all

/-- Induction along the events fired on the way to an instant. -/
@[elab_as_elim]
theorem until_induct (p : Program σ τ) (instant : Nat) {motive : Timeline σ τ → Prop}
    (ahead : ∀ tl, (∀ e ∈ tl.events, instant < e.due) → motive tl)
    (due : ∀ tl e rest, takeEarliest? tl.events = some (e, rest) → e.due ≤ instant →
      motive (tl.fire p e rest) → motive tl)
    (tl : Timeline σ τ) : motive tl := by
  fun_induction firedUntil p instant tl with
  | case1 tl none => exact ahead tl (by simp [takeEarliest?_eq_none_iff.mp none])
  | case2 tl e rest earliest reached ih => exact due tl e rest earliest reached ih
  | case3 tl e rest earliest later =>
    refine ahead tl fun f member => ?_
    have := due_le_of_takeEarliest earliest f member
    omega

/-- What holds of a timeline and is kept by every event fired holds when no event is due
any more; only the clock is still to be set then. -/
theorem of_runUntil (p : Program σ τ) (instant : Nat)
    {P : List (Event τ × σ) → Timeline σ τ → Prop} (tl : Timeline σ τ)
    (begun : P [] tl)
    (kept : ∀ fired tl e rest, P fired tl → takeEarliest? tl.events = some (e, rest) →
      e.due ≤ instant → P (fired ++ [(e, tl.world)]) (tl.fire p e rest)) :
    ∃ last : Timeline σ τ, P (tl.firedUntil p instant) last ∧
      tl.runUntil p instant = { last with now := max last.now instant } ∧
      ∀ e ∈ last.events, instant < e.due := by
  -- the events fired so far are carried along, since `P` speaks of all of them
  suffices general : ∀ fired, P fired tl →
      ∃ last : Timeline σ τ, P (fired ++ tl.firedUntil p instant) last ∧
        tl.runUntil p instant = { last with now := max last.now instant } ∧
        ∀ e ∈ last.events, instant < e.due by
    simpa using general [] begun
  clear begun
  induction tl using until_induct p instant with
  | ahead tl ahead =>
    intro fired holds
    obtain ⟨ran, none⟩ := runUntil_of_ahead (p := p) ahead
    exact ⟨tl, by simpa [none] using holds, ran, ahead⟩
  | due tl e rest earliest due ih =>
    intro fired holds
    obtain ⟨ran, more⟩ := runUntil_of_due (p := p) earliest due
    obtain ⟨last, reached, ended, ahead⟩ :=
      ih _ (kept fired tl e rest holds earliest due)
    exact ⟨last, by simpa [more] using reached, ran.trans ended, ahead⟩

/-- The clock stands at the instant that was asked for, and nothing is due by then. -/
theorem now_runUntil {tl : Timeline σ τ} (reached : tl.now ≤ instant) :
    (tl.runUntil p instant).now = instant ∧
      ∀ e ∈ (tl.runUntil p instant).events, instant < e.due := by
  obtain ⟨last, before, ran, ahead⟩ := of_runUntil p instant
    (P := fun _ tl => tl.now ≤ instant) tl reached
    fun _ tl e _ before _ due => Nat.max_le.mpr ⟨before, due⟩
  rw [ran]
  exact ⟨Nat.max_eq_right before, ahead⟩

/-! ## Stops on the way -/

/-- With nothing due the clock can be set first. -/
theorem runUntil_of_clock_set {tl set : Timeline σ τ} {stop : Nat}
    (isSet : set = { tl with now := max tl.now stop }) (ahead : ∀ e ∈ tl.events, stop < e.due)
    (later : stop ≤ instant) :
    set.runUntil p instant = tl.runUntil p instant ∧
      set.firedUntil p instant = tl.firedUntil p instant := by
  have events : set.events = tl.events := by rw [isSet]
  by_cases none : ∀ e ∈ tl.events, instant < e.due
  · obtain ⟨ran, fired⟩ := runUntil_of_ahead (p := p) none
    obtain ⟨ran', fired'⟩ := runUntil_of_ahead (p := p) (events.symm ▸ none)
    have clock : max (max tl.now stop) instant = max tl.now instant := by omega
    rw [ran, ran', fired, fired', isSet, clock]
    exact ⟨rfl, rfl⟩
  · obtain ⟨e, rest, earliest⟩ : ∃ e rest, takeEarliest? tl.events = some (e, rest) := by
      cases earliest : takeEarliest? tl.events with
      | none => exact absurd (by simp [takeEarliest?_eq_none_iff.mp earliest]) none
      | some found => exact ⟨found.1, found.2, rfl⟩
    have due : e.due ≤ instant := by
      push Not at none
      obtain ⟨f, inside, early⟩ := none
      exact (due_le_of_takeEarliest earliest f inside).trans early
    have fire : set.fire p e rest = tl.fire p e rest := by
      have member : e ∈ tl.events := (perm_of_takeEarliest earliest).mem_iff.mpr (by simp)
      have reached := ahead e member
      have instants : max (max tl.now stop) e.due = max tl.now e.due := by omega
      simp only [isSet, Timeline.fire, instants]
    obtain ⟨ran, fired⟩ := runUntil_of_due (p := p) earliest due
    obtain ⟨ran', fired'⟩ := runUntil_of_due (p := p) (events.symm ▸ earliest) due
    rw [ran, ran', fired, fired', fire, isSet]
    exact ⟨rfl, rfl⟩

/-- A stop on the way changes nothing: what is fired up to it and from there on is what
is fired at one go, in the same order and at the same instants. -/
theorem runUntil_runUntil {stop : Nat} (later : stop ≤ instant) (tl : Timeline σ τ) :
    (tl.runUntil p stop).runUntil p instant = tl.runUntil p instant ∧
      tl.firedUntil p stop ++ (tl.runUntil p stop).firedUntil p instant =
        tl.firedUntil p instant := by
  induction tl using until_induct p stop with
  | ahead tl ahead =>
    obtain ⟨ran, none⟩ := runUntil_of_ahead (p := p) ahead
    rw [ran, none, List.nil_append]
    exact runUntil_of_clock_set rfl ahead later
  | due tl e rest earliest due ih =>
    obtain ⟨ran, more⟩ := runUntil_of_due (p := p) earliest due
    obtain ⟨ran', more'⟩ := runUntil_of_due (p := p) earliest (due.trans later)
    rw [ran, more, ran', more', List.cons_append, ih.1, ih.2]
    exact ⟨rfl, rfl⟩

/-- To let time go forward by one span and then by another is to let it go forward by both. -/
theorem advance_advance (first second : Nat) (tl : Timeline σ τ) :
    (tl.advance p first).advance p second = tl.advance p (first + second) ∧
      tl.firedUntil p (tl.now + first) ++
          (tl.advance p first).firedUntil p ((tl.advance p first).now + second) =
        tl.firedUntil p (tl.now + (first + second)) := by
  have now : (tl.advance p first).now = tl.now + first :=
    (now_runUntil (Nat.le_add_right _ _)).1
  have later : tl.now + first ≤ tl.now + (first + second) := by omega
  rw [advance, now, Nat.add_assoc]
  exact runUntil_runUntil later tl

/-- With nothing due at the present instant nothing happens without time going forward. -/
theorem advance_zero {tl : Timeline σ τ} (ahead : ∀ e ∈ tl.events, tl.now < e.due) :
    tl.advance p 0 = tl ∧ tl.firedUntil p (tl.now + 0) = [] := by
  obtain ⟨ran, none⟩ := runUntil_of_ahead (p := p) ahead
  rw [advance, Nat.add_zero, ran, none, Nat.max_self]
  exact ⟨rfl, rfl⟩

/-! ## Worlds that a program cannot tell apart -/

/-- Timelines that differ in their worlds alone, and there only as `Same` allows. -/
structure Similar (Same : σ → σ → Prop) (tl tl' : Timeline σ τ) : Prop where
  now : tl.now = tl'.now
  cancelled : tl.cancelled = tl'.cancelled
  events : tl.events = tl'.events
  world : Same tl.world tl'.world

theorem similar_fire {Same : σ → σ → Prop} (respects : p.Respects Same)
    {tl tl' : Timeline σ τ} (h : Similar Same tl tl') (e : Event τ) (rest : List (Event τ)) :
    Similar Same (tl.fire p e rest) (tl'.fire p e rest) := by
  obtain ⟨now, cancelled, -, world⟩ := h
  obtain ⟨sets, after⟩ := respects (max tl.now e.due) e.task tl.world tl'.world world
  constructor
  · simp only [fire, setAll, now]
  · simp only [fire, setAll, cancelled]
  · simp only [fire, setAll, cancelled, sets, ← now]
    rfl
  · simpa only [fire, setAll, ← now] using after

/-- Similar timelines fire the same events in similar worlds and stay similar. -/
theorem runUntil_similar (instant : Nat) {Same : σ → σ → Prop} (respects : p.Respects Same)
    {tl tl' : Timeline σ τ} (h : Similar Same tl tl') :
    Similar Same (tl.runUntil p instant) (tl'.runUntil p instant) ∧
      List.Forall₂ (fun x y => x.1 = y.1 ∧ Same x.2 y.2) (tl.firedUntil p instant)
        (tl'.firedUntil p instant) := by
  induction tl using until_induct p instant generalizing tl' with
  | ahead tl ahead =>
    obtain ⟨ran, none⟩ := runUntil_of_ahead (p := p) ahead
    obtain ⟨ran', none'⟩ := runUntil_of_ahead (p := p) (h.events ▸ ahead)
    rw [ran, none, ran', none']
    exact ⟨⟨by rw [h.now], h.cancelled, h.events, h.world⟩, .nil⟩
  | due tl e rest earliest due ih =>
    obtain ⟨ran, more⟩ := runUntil_of_due (p := p) earliest due
    obtain ⟨ran', more'⟩ := runUntil_of_due (p := p) (h.events ▸ earliest) due
    obtain ⟨similar, worlds⟩ := ih (similar_fire respects h e rest)
    rw [ran, more, ran', more']
    exact ⟨similar, .cons ⟨rfl, h.world⟩ worlds⟩

end Timeline

end IngestWatch.Timer
