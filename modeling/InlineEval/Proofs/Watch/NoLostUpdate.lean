import InlineEval.Watch.Loop

/-! # No update is lost

A task that starts while a cycle runs is turned away, a timer is replaced by
the next one, and both may happen after newer content has been seen. The
content of the latest poll is carried through all of it: some part of the loop
holds it until a cycle has evaluated it.
-/

namespace InlineEval.Watch.Loop

open Text

/-- The content that a step sees. -/
def Label.polled? : Label → Option Text
  | poll _ text => some text
  | _ => none

/-- The content of the latest of several steps that sees one. -/
def latest (labels : List Label) : Option Text := (labels.filterMap Label.polled?).getLast?

/-- Some part of the loop holds a content, or has evaluated it last. -/
inductive Carries (loop : Loop) (text : Text) : Prop where
  /-- The next poll hands it out again. -/
  | stale (hstale : loop.tracker.stale = true)
  /-- It waits for the timer. -/
  | pending (time : Nat) (hpending : loop.debouncer.pending = some ⟨time, text⟩)
  /-- It is the task that was spawned last and has not started. -/
  | spawned (hspawned : loop.spawned.getLast? = some text)
  /-- No task waits to start, and the cycle that runs evaluates it. -/
  | running (hspawned : loop.spawned = []) (hrunning : loop.running = some text)
  /-- No task waits to start, none runs, and the cycle before evaluated it. -/
  | completed (hspawned : loop.spawned = []) (hrunning : loop.running = none)
      (hcompleted : loop.completed = some text)

/-- The timer holds nothing but the content seen last, and that content is
carried. The first half keeps a timer that fires from putting something older
behind the content that matters. -/
structure Faithful (loop : Loop) : Prop where
  pending_seen : ∀ deadline, loop.debouncer.pending = some deadline →
    loop.tracker.last = some deadline.request
  carried : ∀ text, loop.tracker.last = some text → loop.Carries text

theorem faithful_initial (delay : Nat) : (initial delay).Faithful where
  pending_seen := by
    intro deadline hpending
    cases hpending
  carried := by
    intro text hlast
    cases hlast

/-! ## What steps do -/

/-- A poll sees nothing new, or the first content, or another content that has
to settle. -/
theorem poll_cases (loop : Loop) (now : Nat) (text : Text) :
    (loop.tracker = ⟨some text, false⟩ ∧ loop.poll now text = loop) ∨
      (loop.tracker.last = none ∧ loop.poll now text =
        { loop with tracker := ⟨some text, false⟩, spawned := loop.spawned ++ [text] }) ∨
      (loop.tracker.last.isSome ∧ loop.poll now text =
        { loop with
          tracker := ⟨some text, false⟩
          debouncer := loop.debouncer.schedule now text }) := by
  obtain ⟨⟨last, stale⟩, debouncer, spawned, running, completed⟩ := loop
  cases stale with
  | true => cases last <;> simp [poll, Tracker.poll]
  | false =>
      cases last with
      | none => simp [poll, Tracker.poll]
      | some seen => by_cases hseen : seen = text <;> simp [poll, Tracker.poll, hseen]

theorem Faithful.poll {loop : Loop} (hloop : loop.Faithful) (now : Nat) (text : Text) :
    (loop.poll now text).Faithful := by
  rcases poll_cases loop now text with ⟨-, heq⟩ | ⟨hfirst, heq⟩ | ⟨-, heq⟩
  · rw [heq]
    exact hloop
  · rw [heq]
    constructor
    · -- A timer needs a poll before this one.
      intro deadline hpending
      rw [hloop.pending_seen deadline hpending] at hfirst
      cases hfirst
    · intro seen hseen
      cases hseen
      exact .spawned List.getLast?_concat
  · rw [heq]
    constructor
    · intro deadline hpending
      cases hpending
      rfl
    · intro seen hseen
      cases hseen
      exact .pending _ rfl

/-- What the timer held is the task spawned last. -/
theorem Faithful.fire {loop : Loop} (hloop : loop.Faithful) {deadline : Deadline Text}
    (hpending : loop.debouncer.pending = some deadline) :
    Faithful { loop with
      debouncer := loop.debouncer.cancel
      spawned := loop.spawned ++ [deadline.request] } where
  pending_seen := by
    intro later hlater
    cases hlater
  carried := by
    intro text htext
    have hseen := hloop.pending_seen deadline hpending
    have hsame : deadline.request = text := Option.some_inj.mp (hseen.symm.trans htext)
    rw [← hsame]
    exact .spawned List.getLast?_concat

/-- A task that is turned away makes the content stale. -/
theorem Faithful.turnAway {loop : Loop} (hloop : loop.Faithful) (spawned : List Text) :
    Faithful { loop with spawned, tracker := loop.tracker.mark } where
  pending_seen := hloop.pending_seen
  carried := fun _ _ => .stale rfl

/-- The task that takes its first step is followed by the others, if any. -/
theorem Faithful.begin {loop : Loop} (hloop : loop.Faithful) {text : Text} {spawned : List Text}
    (hspawned : loop.spawned = text :: spawned) :
    Faithful { loop with spawned, running := some text } where
  pending_seen := hloop.pending_seen
  carried := by
    intro seen hseen
    cases hloop.carried seen hseen with
    | stale hstale => exact .stale hstale
    | pending time hpending => exact .pending time hpending
    | spawned hlast =>
        rw [hspawned] at hlast
        -- Unless the task was the last one, the last one still waits.
        cases spawned with
        | nil =>
            rw [List.getLast?_singleton] at hlast
            exact .running rfl hlast
        | cons next rest =>
            rw [List.getLast?_cons_cons] at hlast
            exact .spawned hlast
    | running hnone hrunning => simp [hspawned] at hnone
    | completed hnone hrunning hcompleted => simp [hspawned] at hnone

theorem Faithful.finish {loop : Loop} (hloop : loop.Faithful) {text : Text}
    (hrunning : loop.running = some text) :
    Faithful { loop with running := none, completed := some text } where
  pending_seen := hloop.pending_seen
  carried := by
    intro seen hseen
    cases hloop.carried seen hseen with
    | stale hstale => exact .stale hstale
    | pending time hpending => exact .pending time hpending
    | spawned hlast => exact .spawned hlast
    | running hnone hseen => exact .completed hnone rfl (hrunning.symm.trans hseen)
    | completed hnone hidle hcompleted =>
        rw [hrunning] at hidle
        cases hidle

/-- Every step keeps the loop faithful. -/
theorem Faithful.step {loop next : Loop} (hloop : loop.Faithful) {label : Label}
    (hstep : loop.step label = some next) : next.Faithful := by
  cases label with
  | poll now text =>
      cases hstep
      exact hloop.poll now text
  | fire =>
      obtain ⟨deadline, hpending, rfl⟩ := Option.map_eq_some_iff.mp hstep
      exact hloop.fire hpending
  | start =>
      simp only [Loop.step] at hstep
      split at hstep
      next hnone => cases hstep
      next text spawned hspawned =>
        split at hstep
        next busy hrunning =>
          cases hstep
          exact hloop.turnAway spawned
        next hidle =>
          cases hstep
          exact hloop.begin hspawned
  | finish =>
      obtain ⟨text, hrunning, rfl⟩ := Option.map_eq_some_iff.mp hstep
      exact hloop.finish hrunning

/-- The tracker remembers what a step sees, and nothing else. -/
theorem last_step {loop next : Loop} {label : Label} (hstep : loop.step label = some next) :
    next.tracker.last = label.polled?.or loop.tracker.last := by
  cases label with
  | poll now text =>
      cases hstep
      exact poll_last loop now text
  | fire =>
      obtain ⟨deadline, hpending, rfl⟩ := Option.map_eq_some_iff.mp hstep
      rfl
  | start =>
      simp only [Loop.step] at hstep
      split at hstep
      next hnone => cases hstep
      next text spawned hspawned => split at hstep <;> cases hstep <;> rfl
  | finish =>
      obtain ⟨text, hrunning, rfl⟩ := Option.map_eq_some_iff.mp hstep
      rfl

/-! ## What runs do -/

namespace Steps

theorem faithful {loop last : Loop} {labels : List Label} (hsteps : Steps loop labels last)
    (hloop : loop.Faithful) : last.Faithful := by
  induction hsteps with
  | nil loop => exact hloop
  | cons hstep hrest ih => exact ih (hloop.step hstep)

theorem last_eq {loop last : Loop} {labels : List Label} (hsteps : Steps loop labels last) :
    last.tracker.last = (latest labels).or loop.tracker.last := by
  induction hsteps with
  | nil loop => rfl
  | @cons loop next last label labels hstep hrest ih =>
      rw [ih, last_step hstep]
      cases hpolled : label.polled? with
      | none => simp [latest, hpolled]
      | some text =>
          cases hlater : labels.filterMap Label.polled? <;>
            simp [latest, hpolled, hlater, List.getLast?_cons]

end Steps

/-- In every state that can be reached, the content of the latest poll is
carried, and it has been evaluated last when there is nothing left to do. -/
theorem latest_poll_carried {delay : Nat} {labels : List Label} {loop : Loop}
    (hsteps : Steps (initial delay) labels loop) {text : Text} (hlatest : latest labels = some text) :
    loop.Carries text ∧
      (loop.tracker.stale = false → loop.debouncer.pending = none → loop.spawned = [] →
        loop.running = none → loop.completed = some text) := by
  have hlast : loop.tracker.last = some text := by
    rw [hsteps.last_eq, hlatest]
    rfl
  have hcarried := (hsteps.faithful (faithful_initial delay)).carried text hlast
  refine ⟨hcarried, ?_⟩
  intro hclear hquiet hempty hidle
  cases hcarried with
  | stale hstale =>
      rw [hclear] at hstale
      cases hstale
  | pending time hpending =>
      rw [hquiet] at hpending
      cases hpending
  | spawned hlast =>
      rw [hempty] at hlast
      cases hlast
  | running _ hrunning =>
      rw [hidle] at hrunning
      cases hrunning
  | completed _ _ hcompleted => exact hcompleted

/-- An edit is turned away while the first cycle runs. It comes back with a
poll that sees no other content, and is evaluated. -/
theorem latest_poll_carried_turned_away :
    let old := "x = 0  # ?".toList
    let new := "x = 1  # ?".toList
    let labels : List Label :=
      [.poll 0 old, .start, .poll 200 new, .fire, .start, .finish, .poll 600 new, .fire, .start,
        .finish]
    ∃ loop, Steps (initial 300) labels loop ∧ latest labels = some new ∧
      loop.Carries new ∧ loop.completed = some new := by
  intro old new labels
  let loop : Loop := ⟨⟨some new, false⟩, ⟨300, none⟩, [], none, some new⟩
  have hsteps : Steps (initial 300) labels loop :=
    .cons rfl (.cons rfl (.cons rfl (.cons rfl (.cons rfl (.cons rfl (.cons rfl
      (.cons rfl (.cons rfl (.cons rfl (.nil _))))))))))
  have hlatest : latest labels = some new := by decide
  obtain ⟨hcarried, hcompleted⟩ := latest_poll_carried hsteps hlatest
  exact ⟨loop, hsteps, hlatest, hcarried, hcompleted rfl rfl rfl rfl⟩

end InlineEval.Watch.Loop
