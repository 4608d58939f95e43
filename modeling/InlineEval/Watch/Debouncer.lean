/-!
# Debouncing

Of several requests in a row only the last one is carried out, once no other
request has come for some time. The debouncer holds at most one request with
its deadline. A request whose deadline has been reached is out of its hands:
nothing that is asked for later can stop it.
-/

namespace InlineEval.Watch

/-- A request that waits for its deadline. -/
structure Deadline (α : Type) where
  time : Nat
  request : α
  deriving DecidableEq, Repr

/-- Holds back requests until `delay` milliseconds have passed. -/
structure Debouncer (α : Type) where
  delay : Nat
  pending : Option (Deadline α)
  deriving DecidableEq, Repr

namespace Debouncer

variable {α : Type}

/-- Nothing has been requested. -/
def fresh (delay : Nat) : Debouncer α := ⟨delay, none⟩

/-- A request at a given time takes the place of the one before. -/
def schedule (debouncer : Debouncer α) (now : Nat) (request : α) : Debouncer α :=
  { debouncer with pending := some ⟨now + debouncer.delay, request⟩ }

/-- The request that waits is given up. -/
def cancel (debouncer : Debouncer α) : Debouncer α := { debouncer with pending := none }

/-- A request is waiting. -/
def isPending (debouncer : Debouncer α) : Bool := debouncer.pending.isSome

/-- Time goes on; the request fires if its deadline has come. -/
def advance (debouncer : Debouncer α) (now : Nat) : Option (Deadline α) × Debouncer α :=
  match debouncer.pending with
  | some deadline =>
      if deadline.time ≤ now then (some deadline, debouncer.cancel) else (none, debouncer)
  | none => (none, debouncer)

/-- A request fires at its deadline, and not before. -/
theorem advance_fst_eq_some_iff (debouncer : Debouncer α) (now : Nat) (deadline : Deadline α) :
    (debouncer.advance now).1 = some deadline ↔
      debouncer.pending = some deadline ∧ deadline.time ≤ now := by
  unfold advance
  split <;> grind

/-- What has not come to its deadline goes on waiting. -/
theorem advance_snd_pending_iff (debouncer : Debouncer α) (now : Nat) (deadline : Deadline α) :
    (debouncer.advance now).2.pending = some deadline ↔
      debouncer.pending = some deadline ∧ now < deadline.time := by
  unfold advance
  split <;> grind [cancel]

@[simp]
theorem advance_snd_delay (debouncer : Debouncer α) (now : Nat) :
    (debouncer.advance now).2.delay = debouncer.delay := by
  unfold advance
  split <;> grind [cancel]

end Debouncer

end InlineEval.Watch
