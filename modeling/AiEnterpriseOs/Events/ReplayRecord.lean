import AiEnterpriseOs.Events.Replay

/-!
# The record of a replay

The loop of a replay ends after its last event, at a cancel or where the progress callback
raises. The record does not tell the first two apart, and a replay without a handler never
gets to its loop.
-/

namespace AiEnterpriseOs.Events

open Library

section Inputs

variable (ticks : Nat → ReplayTick) (flagged : Prop)

/-- The cancel flag of the session is set when the event at the position comes up. -/
def CancelSeen (pos : Nat) : Prop :=
  flagged ∨ ∃ request ≤ pos, (ticks request).cancelled = true

/-- Neither a cancel nor the progress callback ends the loop before the position. -/
def GetsTo (pos : Nat) : Prop :=
  ∀ earlier < pos, ¬CancelSeen ticks flagged earlier ∧ (ticks earlier).progressRaises = false

/-- The loop stops early because the session was cancelled while it ran. -/
def StopsByCancel (total : Nat) : Prop :=
  ∃ pos < total, GetsTo ticks flagged pos ∧ ∃ request ≤ pos, (ticks request).cancelled = true

end Inputs

/-- The record is settled, its counts agree, and its state tells how the loop ended. -/
structure ReplaySession.Consistent (session : ReplaySession) (stopped : Prop) : Prop where
  settled : session.state ≠ .running
  counts : session.processed = session.succeeded + session.failed
  within : session.processed ≤ session.totalEvents
  cancelled_iff : session.state = .cancelled ↔ stopped
  completed_iff : session.state = .completed ↔ session.processed = session.totalEvents
  bounded : session.request.limit = none → session.processed ≤ session.request.maxEvents

/-- The loop finds no cancel flag and its progress callback does not raise first after the
last event. Without a limit it ends within the events that the request allows. -/
structure RunsToItsEnd (request : ReplayRequest) (ticks : Nat → ReplayTick) (flagged : Prop)
    (total : Nat) : Prop where
  uncancelled : ∀ pos < total, GetsTo ticks flagged pos → ¬CancelSeen ticks flagged pos
  reported : ∀ pos, pos + 1 = total → GetsTo ticks flagged pos → (ticks pos).progressRaises = false
  few : request.limit = none → ∀ pos < total, request.maxEvents ≤ pos →
    ∃ earlier < pos, (ticks earlier).progressRaises = true

section Loop

variable {World : Type*} (handler : WorldHandler World) (ticks : Nat → ReplayTick)

/-- How the loop ends: after all events, at a cancel, or where the callback raises. -/
inductive LoopEnds (flagged : Prop) (total done : Nat) (state : ReplayState) : Prop where
  | finished (all : done = total) (reached : GetsTo ticks flagged done) (left : state = .completed)
  | stopped (early : done < total) (reached : GetsTo ticks flagged done)
      (seen : CancelSeen ticks flagged done) (left : state = .completed)
  | raised (last : Nat) (after : done = last + 1) (early : done ≤ total)
      (reached : GetsTo ticks flagged last) (unseen : ¬CancelSeen ticks flagged last)
      (raises : (ticks last).progressRaises = true) (left : state = .failed)

theorem gets_to_succ {flagged : Prop} {pos : Nat} (reached : GetsTo ticks flagged pos)
    (unseen : ¬CancelSeen ticks flagged pos) (quiet : (ticks pos).progressRaises = false) :
    GetsTo ticks flagged (pos + 1) := by
  intro earlier before
  rcases Nat.lt_succ_iff_lt_or_eq.mp before with smaller | same
  · exact reached earlier smaller
  · rw [same]
    exact ⟨unseen, quiet⟩

theorem replay_loop_ends (sessionId : String) (flagged : Prop) (total : Nat)
    (events : List Event) (run : ReplayRun World)
    (flags : sessionId ∈ run.cancelFlags ↔
      flagged ∨ ∃ request < run.session.processed, (ticks request).cancelled = true)
    (remaining : run.session.processed + events.length = total)
    (counts : run.session.processed = run.session.succeeded + run.session.failed)
    (reached : GetsTo ticks flagged run.session.processed) :
    let session := (replayLoop handler ticks sessionId events run).session
    session.request = run.session.request ∧ session.totalEvents = run.session.totalEvents ∧
      session.processed = session.succeeded + session.failed ∧
      LoopEnds ticks flagged total session.processed session.state := by
  induction events generalizing run with
  | nil => exact ⟨rfl, rfl, counts, .finished remaining reached rfl⟩
  | cons event rest ih =>
    intro session
    have seen : sessionId ∈ (if (ticks run.session.processed).cancelled then
          run.cancelFlags.insert sessionId else run.cancelFlags) ↔
        CancelSeen ticks flagged run.session.processed := by
      by_cases cancelled : (ticks run.session.processed).cancelled = true
      · rw [if_pos cancelled]
        refine iff_of_true ?_ (.inr ⟨run.session.processed, le_rfl, cancelled⟩)
        exact List.mem_insert_iff.mpr (.inl rfl)
      · rw [if_neg cancelled, flags]
        apply or_congr_right
        constructor
        · rintro ⟨request, before, asked⟩
          exact ⟨request, before.le, asked⟩
        · rintro ⟨request, before, asked⟩
          refine ⟨request, lt_of_le_of_ne before ?_, asked⟩
          intro same
          exact cancelled (same ▸ asked)
    rw [List.length_cons] at remaining
    simp only [session, replayLoop]
    by_cases found : CancelSeen ticks flagged run.session.processed
    · rw [if_pos (seen.mpr found)]
      have early : run.session.processed < total := by omega
      exact ⟨rfl, rfl, counts, .stopped early reached found rfl⟩
    · rw [if_neg fun member => found (seen.mp member)]
      have counted : ∀ returned, (run.session.counted returned).processed =
            (run.session.counted returned).succeeded + (run.session.counted returned).failed := by
        intro returned
        cases returned <;> simp only [ReplaySession.counted] <;> simp <;> omega
      by_cases raises : (ticks run.session.processed).progressRaises = true
      · rw [if_pos raises]
        exact ⟨rfl, rfl, counted _,
          .raised run.session.processed rfl (by simp [ReplaySession.counted]; omega) reached
            found raises rfl⟩
      · rw [if_neg raises]
        apply ih
        · rw [seen, CancelSeen]
          simp only [ReplaySession.counted, Nat.lt_succ_iff]
        · simp only [ReplaySession.counted]
          omega
        · exact counted _
        · exact gets_to_succ ticks reached found (by simpa using raises)

theorem consistent_iff {session : ReplaySession} {request : ReplayRequest} {flagged : Prop}
    {total : Nat} (asked : session.request = request) (loaded : session.totalEvents = total)
    (counts : session.processed = session.succeeded + session.failed)
    (ends : LoopEnds ticks flagged total session.processed session.state) :
    session.Consistent (StopsByCancel ticks flagged total) ↔
      RunsToItsEnd request ticks flagged total := by
  subst asked loaded
  have unstopped : RunsToItsEnd session.request ticks flagged session.totalEvents →
      ¬StopsByCancel ticks flagged session.totalEvents := by
    rintro runs ⟨pos, before, reached, asked⟩
    exact runs.uncancelled pos before reached (.inr asked)
  cases ends with
  | finished all reached left =>
    constructor
    · intro consistent
      refine ⟨fun pos before _ => (reached pos (by omega)).1,
        fun pos last _ => (reached pos (by omega)).2, ?_⟩
      intro unlimited pos before past
      have few := consistent.bounded unlimited
      omega
    · intro runs
      refine ⟨by rw [left]; nofun, counts, all.le,
        iff_of_false (by rw [left]; nofun) (unstopped runs), iff_of_true left all, ?_⟩
      intro unlimited
      by_contra more
      obtain ⟨earlier, before, raises⟩ :=
        runs.few unlimited session.request.maxEvents (by omega) le_rfl
      rw [(reached earlier (by omega)).2] at raises
      cases raises
  | stopped early reached seen left =>
    refine iff_of_false ?_ ?_
    · intro consistent
      have whole := consistent.completed_iff.mp left
      omega
    · intro runs
      exact runs.uncancelled _ early reached seen
  | raised last after early reached unseen raises left =>
    have noFurther : ∀ pos, GetsTo ticks flagged pos → pos ≤ last := by
      intro pos further
      by_contra beyond
      rw [(further last (by omega)).2] at raises
      cases raises
    constructor
    · intro consistent
      refine ⟨?_, ?_, ?_⟩
      · intro pos before further
        rcases (noFurther pos further).lt_or_eq with smaller | same
        · exact (reached pos smaller).1
        · rw [same]
          exact unseen
      · intro pos final further
        have whole := noFurther pos further
        have completed := consistent.completed_iff.mpr (by omega)
        cases left.symm.trans completed
      · intro unlimited pos before past
        have few := consistent.bounded unlimited
        exact ⟨last, by omega, raises⟩
    · intro runs
      refine ⟨by rw [left]; nofun, counts, early,
        iff_of_false (by rw [left]; nofun) (unstopped runs),
        iff_of_false (by rw [left]; nofun) ?_, ?_⟩
      · intro whole
        rw [runs.reported last (by omega) reached] at raises
        cases raises
      · intro unlimited
        by_contra more
        obtain ⟨earlier, before, other⟩ :=
          runs.few unlimited session.request.maxEvents (by omega) le_rfl
        rw [(reached earlier (by omega)).2] at other
        cases other

end Loop

namespace ReplayEngine

variable {World : Type*}

/-- What the record of a replay has to be consistent with: whether a cancel stopped it. -/
def stoppedBy (engine : ReplayEngine) (request : ReplayRequest) (seconds : Nat)
    (load : EventQuery → Option (List Event)) (ticks : Nat → ReplayTick) : Prop :=
  ∃ events, load request.query = some events ∧
    StopsByCancel ticks (sessionName request seconds ∈ engine.cancelFlags) events.length

/-- A replay returns or raises with a consistent record exactly if it has a handler, its
events load, and the loop over them runs to its end. -/
theorem replay_record_iff (engine : ReplayEngine) (request : ReplayRequest) (seconds : Nat)
    (load : EventQuery → Option (List Event)) (handler : Option (WorldHandler World))
    (ticks : Nat → ReplayTick) (world : World) :
    let result := engine.replay request seconds load handler ticks world
    result.engine.sessions.get? (sessionName request seconds) = some result.session ∧
      (result.session.Consistent (engine.stoppedBy request seconds load ticks) ↔
        handler.isSome = true ∧ ∃ events, load request.query = some events ∧
          RunsToItsEnd request ticks (sessionName request seconds ∈ engine.cancelFlags)
            events.length) := by
  intro result
  cases handler with
  | none =>
    refine ⟨OrderedDict.get_set_self _ _ _, iff_of_false ?_ fun within => nomatch within.1⟩
    intro consistent
    exact consistent.settled rfl
  | some handler =>
    simp only [result, replay, OrderedDict.get_set_self, stoppedBy]
    refine ⟨trivial, ?_⟩
    cases load request.query with
    | none =>
      refine iff_of_false ?_ ?_
      · intro consistent
        cases consistent.completed_iff.mpr rfl
      · rintro ⟨-, events, loaded, -⟩
        cases loaded
    | some events =>
      obtain ⟨same, total, counts, ends⟩ := replay_loop_ends handler ticks
        (sessionName request seconds) (sessionName request seconds ∈ engine.cancelFlags)
        events.length events
        { session := { ReplaySession.start request with totalEvents := events.length }
          cancelFlags := engine.cancelFlags
          world := world }
        (by simp [ReplaySession.start]) (Nat.zero_add _) rfl nofun
      have law := consistent_iff ticks same total counts ends
      simpa [ReplaySession.start] using law

/-- Two events are replayed, and the session is cancelled while the first is handled. -/
theorem cancelled_recorded_completed :
    let request : ReplayRequest :=
      { sessionId := some "r"
        since := none
        «until» := none
        eventTypes := []
        sourceFilter := none
        maxEvents := 1000
        limit := none }
    let events : List Event := [.sample "a" "test" .normal, .sample "b" "test" .normal]
    let ticks : Nat → ReplayTick := fun pos =>
      { cancelled := pos = 1, progressRaises := false }
    let handler : WorldHandler Unit := fun _ _ world => { state := world, returned := true }
    let session := (ReplayEngine.empty.replay request 0 (fun _ => some events) (some handler)
      ticks ()).session
    session.state = .completed ∧ session.processed = 1 ∧ session.totalEvents = 2 ∧
      ReplayEngine.empty.stoppedBy request 0 (fun _ => some events) ticks ∧
      ¬session.Consistent
        (ReplayEngine.empty.stoppedBy request 0 (fun _ => some events) ticks) := by
  intro request events ticks handler session
  have completed : session.state = .completed := by decide +kernel
  have one : session.processed = 1 := by decide +kernel
  have two : session.totalEvents = 2 := by decide +kernel
  refine ⟨completed, one, two, ⟨events, rfl, 1, by decide, ?_, 1, le_rfl, rfl⟩, ?_⟩
  · intro earlier before
    have first : earlier = 0 := by omega
    subst first
    refine ⟨?_, rfl⟩
    rintro (flagged | ⟨request, within, asked⟩)
    · cases flagged
    · rw [Nat.le_zero.mp within] at asked
      cases asked
  · intro consistent
    have whole := consistent.completed_iff.mp completed
    rw [one, two] at whole
    cases whole

end ReplayEngine

end AiEnterpriseOs.Events
