import InlineEval.Watch.SharedTracker
import Mathlib.Data.List.Induction

/-! # What a poll hands out

Whether a poll hands out its content can be told from what has been done
before. The tracker remembers the content of the latest poll, even if that poll
handed nothing out. Its flag says whether there has been a mark since, through
a handle that goes back to the tracker.
-/

namespace InlineEval.Watch

/-- A tracker hands out a content, unless it has seen it last and that needs no cycle. -/
theorem Tracker.poll_eq_some_iff {tracker : Tracker} {text : Text} {change : Change} :
    (tracker.poll text).1 = some change ↔
      (tracker.last = none ∨ (∃ seen, tracker.last = some seen ∧ seen ≠ text) ∨
          tracker.stale = true) ∧
        change.text = text ∧ (change.first = true ↔ tracker.last = none) := by
  obtain ⟨last, stale⟩ := tracker
  obtain ⟨handed, first⟩ := change
  have hchange : Change.mk text last.isNone = ⟨handed, first⟩ ↔
      handed = text ∧ (first = true ↔ last = none) := by
    constructor
    · rintro ⟨⟩
      exact ⟨rfl, Option.isNone_iff_eq_none⟩
    · rintro ⟨rfl, hfirst⟩
      rw [Bool.eq_iff_iff.mpr (hfirst.trans Option.isNone_iff_eq_none.symm)]
  have hkept : (!stale && last == some text) = true ↔
      ¬(last = none ∨ (∃ seen, last = some seen ∧ seen ≠ text) ∨ stale = true) := by
    cases last <;> cases stale <;> simp
  unfold poll
  split
  next hquiet => exact iff_of_false nofun fun hneeds => hkept.mp hquiet hneeds.1
  next hneeds =>
    rw [hkept, not_not] at hneeds
    rw [and_iff_right hneeds, Option.some.injEq, hchange]

namespace SharedTracker

variable {shared : SharedTracker} {history : List Action} {action : Action}

/-! ## What has been done -/

/-- Nothing is polled. -/
def Unpolled (actions : List Action) : Prop := ∀ text, .poll text ∉ actions

/-- There is an event with no poll behind it. Whether an action is one may
depend on what came before. -/
def Since (event : List Action → Action → Prop) (history : List Action) : Prop :=
  ∃ earlier action later,
    history = earlier ++ action :: later ∧ event earlier action ∧ Unpolled later

/-- The latest poll was of this content. -/
def LastPolled (history : List Action) (text : Text) : Prop :=
  Since (fun _ action => action = .poll text) history

/-- Whether each handle goes back to the tracker, with one more action. -/
def origin (known : List Bool) : Action → List Bool
  | .give => known ++ [true]
  | .copy handle => known ++ known[handle]?.toList
  | .make => known ++ [false]
  | .poll _ | .mark _ => known

/-- Whether each handle goes back to the tracker. -/
def origins (history : List Action) : List Bool := history.foldl origin []

/-- An action is a mark through a handle that goes back to the tracker. -/
def Marks (earlier : List Action) (action : Action) : Prop :=
  ∃ handle, action = .mark handle ∧ (origins earlier)[handle]? = some true

/-- There has been such a mark, and no poll since. -/
def MarkedSince (history : List Action) : Prop := Since Marks history

theorem unpolled_nil : Unpolled [] := fun _ => List.not_mem_nil

theorem unpolled_concat :
    Unpolled (history ++ [action]) ↔ Unpolled history ∧ ∀ text, action ≠ .poll text := by
  simp only [Unpolled, List.mem_append, List.mem_singleton, not_or, forall_and, ne_comm, ne_eq]

theorem not_since_nil {event : List Action → Action → Prop} : ¬Since event [] := by
  rintro ⟨earlier, action, later, hnil, -⟩
  exact List.append_ne_nil_of_right_ne_nil earlier (List.cons_ne_nil action later) hnil.symm

/-- The latest action is the event, or it is no poll and the event was before. -/
theorem since_concat {event : List Action → Action → Prop} :
    Since event (history ++ [action]) ↔
      event history action ∨ (∀ text, action ≠ .poll text) ∧ Since event history := by
  constructor
  · rintro ⟨earlier, found, later, hhistory, hevent, hlater⟩
    induction later using List.reverseRecOn with
    | nil =>
        obtain ⟨rfl, hfound⟩ := List.append_inj' hhistory rfl
        rw [(List.cons.inj hfound).1]
        exact .inl hevent
    | append_singleton later latest _ =>
        rw [← List.cons_append, ← List.append_assoc] at hhistory
        obtain ⟨rfl, hlatest⟩ := List.append_inj' hhistory rfl
        rw [(List.cons.inj hlatest).1]
        obtain ⟨hlater, hpoll⟩ := unpolled_concat.mp hlater
        exact .inr ⟨hpoll, earlier, found, later, rfl, hevent, hlater⟩
  · rintro (hevent | ⟨hpoll, earlier, found, later, rfl, hevent, hlater⟩)
    · exact ⟨history, action, [], rfl, hevent, unpolled_nil⟩
    · refine ⟨earlier, found, later ++ [action], ?_, hevent, unpolled_concat.mpr ⟨hlater, hpoll⟩⟩
      rw [List.append_assoc, List.cons_append]

theorem origins_concat :
    origins (history ++ [action]) = origin (origins history) action := by
  simp only [origins, List.foldl_append, List.foldl_cons, List.foldl_nil]

/-! ## What actions do -/

@[simp]
theorem tracker_setFlag (flag : Nat) (value : Bool) :
    (shared.setFlag flag value).tracker =
      ⟨shared.last, if flag = shared.own then value else shared.tracker.stale⟩ := by
  simp only [tracker, setFlag, List.get_eq_getElem, List.getElem_set]

theorem poll_fst (text : Text) : (shared.poll text).1 = (shared.tracker.poll text).1 := rfl

/-- A poll leaves its content, and the flag lowered, whatever it hands out. -/
theorem tracker_poll (text : Text) : (shared.poll text).2.tracker = ⟨some text, false⟩ := by
  have hlowered : (shared.setFlag shared.own false).tracker.stale = false := by
    rw [tracker_setFlag, if_pos rfl]
  exact congrArg₂ Tracker.mk (Tracker.poll_last shared.tracker text) hlowered

theorem tracker_make : shared.make.tracker = shared.tracker := by
  simp only [tracker, make, List.get_eq_getElem, List.getElem_append_left shared.own_lt]

theorem tracker_mark (handle : Nat) :
    (shared.mark handle).tracker =
      if shared.handles[handle]? = some shared.own then shared.tracker.mark
      else shared.tracker := by
  unfold mark
  cases hflag : shared.handles[handle]? with
  | none => rfl
  | some flag =>
      simp only [tracker_setFlag, Option.some.injEq]
      split <;> rfl

theorem mark_keeps (shared : SharedTracker) (handle : Nat) :
    (shared.mark handle).handles = shared.handles ∧ (shared.mark handle).own = shared.own := by
  unfold mark
  split <;> exact ⟨rfl, rfl⟩

/-- A mark that comes between the reading of the flag and the rest of a poll is
as good as one behind the poll. -/
theorem compare_mark (handle : Nat) (stale : Bool) (text : Text) :
    (shared.mark handle).compare stale text =
      ((shared.compare stale text).1, (shared.compare stale text).2.mark handle) := by
  unfold mark
  simp only [compare]
  split
  next flag hflag => rfl
  next => rfl

/-- What a tracker and the handles on its flag tell of the actions so far. -/
structure Tells (shared : SharedTracker) (history : List Action) : Prop where
  last_eq_none_iff : shared.tracker.last = none ↔ Unpolled history
  last_eq_some_iff : ∀ text, shared.tracker.last = some text ↔ LastPolled history text
  stale_iff : shared.tracker.stale = true ↔ MarkedSince history
  handles_eq : shared.handles.map (· == shared.own) = origins history

theorem tells_fresh : Tells fresh [] where
  last_eq_none_iff := iff_of_true rfl unpolled_nil
  last_eq_some_iff := fun _ => iff_of_false nofun not_since_nil
  stale_iff := iff_of_false nofun not_since_nil
  handles_eq := rfl

namespace Tells

theorem poll (htells : shared.Tells history) (text : Text) :
    (shared.poll text).2.Tells (history ++ [.poll text]) where
  last_eq_none_iff := by
    rw [tracker_poll, unpolled_concat]
    exact iff_of_false (Option.some_ne_none text) fun hunpolled => hunpolled.2 text rfl
  last_eq_some_iff := fun last => by
    rw [tracker_poll, LastPolled, since_concat]
    constructor
    · rintro ⟨rfl⟩
      exact .inl rfl
    · rintro (hlast | ⟨hpoll, -⟩)
      · cases hlast
        rfl
      · exact absurd rfl (hpoll text)
  stale_iff := by
    rw [tracker_poll, MarkedSince, since_concat]
    refine iff_of_false Bool.false_ne_true ?_
    rintro (⟨handle, hmark, -⟩ | ⟨hpoll, -⟩)
    · cases hmark
    · exact hpoll text rfl
  handles_eq := by
    rw [origins_concat]
    exact htells.handles_eq

/-- Any other action leaves the content, and may only raise the flag. -/
theorem concat {next : SharedTracker} (htells : shared.Tells history)
    (hpoll : ∀ text, action ≠ .poll text) (hlast : next.tracker.last = shared.tracker.last)
    (hstale : next.tracker.stale = true ↔ Marks history action ∨ shared.tracker.stale = true)
    (hhandles : next.handles.map (· == next.own) = origin (origins history) action) :
    next.Tells (history ++ [action]) where
  last_eq_none_iff := by
    rw [hlast, htells.last_eq_none_iff, unpolled_concat, and_iff_left hpoll]
  last_eq_some_iff := fun text => by
    rw [hlast, htells.last_eq_some_iff, LastPolled, LastPolled, since_concat,
      or_iff_right (hpoll text), and_iff_right hpoll]
  stale_iff := by
    rw [hstale, htells.stale_iff, MarkedSince, MarkedSince, since_concat, and_iff_right hpoll]
  handles_eq := by rw [hhandles, origins_concat]

theorem give (htells : shared.Tells history) : shared.give.Tells (history ++ [.give]) := by
  refine htells.concat nofun rfl (or_iff_right nofun).symm ?_
  simp only [SharedTracker.give, origin, List.map_append, htells.handles_eq, List.map_cons,
    List.map_nil, beq_self_eq_true]

theorem copy (htells : shared.Tells history) (handle : Nat) :
    (shared.copy handle).Tells (history ++ [.copy handle]) := by
  refine htells.concat nofun rfl (or_iff_right nofun).symm ?_
  simp only [SharedTracker.copy, origin, List.map_append, ← htells.handles_eq, List.getElem?_map,
    Option.toList_map]

theorem make (htells : shared.Tells history) : shared.make.Tells (history ++ [.make]) := by
  have hother : (shared.flags.length == shared.own) = false :=
    beq_eq_false_iff_ne.mpr (Nat.ne_of_gt shared.own_lt)
  refine htells.concat nofun rfl ?_ ?_
  · rw [tracker_make, or_iff_right nofun]
  · simp only [SharedTracker.make, origin, List.map_append, htells.handles_eq, List.map_cons,
      List.map_nil, hother]

theorem marks_iff (htells : shared.Tells history) (handle : Nat) :
    Marks history (.mark handle) ↔ shared.handles[handle]? = some shared.own := by
  simp only [Marks, Action.mark.injEq, exists_eq_left', ← htells.handles_eq, List.getElem?_map,
    Option.map_eq_some_iff, beq_iff_eq, exists_eq_right]

theorem mark (htells : shared.Tells history) (handle : Nat) :
    (shared.mark handle).Tells (history ++ [.mark handle]) := by
  obtain ⟨hhandles, hown⟩ := shared.mark_keeps handle
  refine htells.concat nofun ?_ ?_ ?_
  · rw [tracker_mark]
    split <;> rfl
  · rw [tracker_mark, htells.marks_iff]
    split
    next hself => exact iff_of_true rfl (.inl hself)
    next hother => rw [or_iff_right hother]
  · rw [hhandles, hown]
    exact htells.handles_eq

theorem next (htells : shared.Tells history) (action : Action) :
    (shared.next action).Tells (history ++ [action]) := by
  cases action with
  | poll text => exact htells.poll text
  | give => exact htells.give
  | copy handle => exact htells.copy handle
  | make => exact htells.make
  | mark handle => exact htells.mark handle

end Tells

theorem after_concat : after (history ++ [action]) = (after history).next action := by
  simp only [after, List.foldl_append, List.foldl_cons, List.foldl_nil]

theorem tells_after (history : List Action) : (after history).Tells history := by
  induction history using List.reverseRecOn with
  | nil => exact tells_fresh
  | append_singleton history action ih =>
      rw [after_concat]
      exact ih.next action

/-! ## What polls hand out -/

/-- What a poll hands out can be told from the actions before it, and a second
poll of the same content hands out nothing. -/
theorem changes_tracked (history : List Action) (text : Text) :
    (∀ change, ((after history).poll text).1 = some change ↔
      (Unpolled history ∨ (∃ seen, LastPolled history seen ∧ seen ≠ text) ∨
          MarkedSince history) ∧
        change.text = text ∧ (change.first = true ↔ Unpolled history)) ∧
      ((after (history ++ [.poll text])).poll text).1 = none := by
  have htells := tells_after history
  constructor
  · intro change
    rw [poll_fst, Tracker.poll_eq_some_iff, htells.last_eq_none_iff, htells.stale_iff]
    simp only [htells.last_eq_some_iff]
  · have hseen : (after (history ++ [.poll text])).tracker = ⟨some text, false⟩ := by
      rw [after_concat]
      exact tracker_poll text
    rw [poll_fst, hseen]
    simp only [Tracker.poll, Bool.not_false, beq_self_eq_true, Bool.and_self, if_true]

/-- A copy marks what the tracker has seen, and a handle on another flag does not. -/
example :
    let history := [.give, .copy 0, .make, .poll ['x']]
    ((after (history ++ [.mark 1])).poll ['x']).1 = some ⟨['x'], false⟩ ∧
      ((after (history ++ [.mark 2])).poll ['x']).1 = none := by decide

/-! ## A tracker by itself -/

/-- What happens to a tracker by itself, done with the only handle on its flag. -/
def throughHandle : Tracker.Action → Action
  | .poll text => .poll text
  | .mark => .mark 0

theorem act_eq_next (hhandle : shared.handles[0]? = some shared.own) (action : Tracker.Action) :
    (shared.tracker.act action).2 = (shared.next (throughHandle action)).tracker ∧
      (shared.next (throughHandle action)).handles[0]? =
        some (shared.next (throughHandle action)).own := by
  cases action with
  | poll text =>
      refine ⟨?_, hhandle⟩
      rw [throughHandle, next, tracker_poll]
      exact congrArg₂ Tracker.mk (Tracker.poll_last _ text) (Tracker.poll_stale _ text)
  | mark =>
      obtain ⟨hhandles, hown⟩ := shared.mark_keeps 0
      rw [throughHandle, next, hhandles, hown, tracker_mark, if_pos hhandle]
      exact ⟨rfl, hhandle⟩

theorem getElem?_run_of_handle (hhandle : shared.handles[0]? = some shared.own)
    (before rest : List Tracker.Action) (text : Text) :
    (shared.tracker.run (before ++ .poll text :: rest))[before.length]? =
      some (.polled (((before.map throughHandle).foldl next shared).poll text).1) := by
  induction before generalizing shared with
  | nil => rfl
  | cons action before ih =>
      obtain ⟨hact, hnext⟩ := act_eq_next hhandle action
      rw [List.cons_append, Tracker.run, List.length_cons, List.getElem?_cons_succ, hact]
      exact ih hnext

/-- A tracker by itself replies to a poll as one does that has given out a single
handle. -/
theorem getElem?_run (before rest : List Tracker.Action) (text : Text) :
    (Tracker.fresh.run (before ++ .poll text :: rest))[before.length]? =
      some (.polled ((after (.give :: before.map throughHandle)).poll text).1) := by
  have hhandle : fresh.give.handles[0]? = some fresh.give.own := rfl
  exact getElem?_run_of_handle hhandle before rest text

end SharedTracker

end InlineEval.Watch
