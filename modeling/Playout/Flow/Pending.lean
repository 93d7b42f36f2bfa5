/-!
# `Playout.Flow.Pending` — requests that wait for an answer

For every request to start a flow somebody waits until the server has answered. Who gives up abandons the
request; a flow that it starts after all is an orphan and has to be stopped. Only so many abandoned requests
are remembered, the oldest being forgotten first.

## Contents
- `Pending`, `expect`, `abandon`.
- `Due`, `started`, `failed` — what an answer of the server calls for.
-/

namespace Playout.Flow

/-- The serials somebody waits for, and those of abandoned requests, oldest first. -/
structure Pending where
  waiting : List UInt32 := []
  abandoned : List UInt32 := []
  deriving DecidableEq, Repr

/-- What has to be done about a flow that was started. -/
inductive Due where
  /-- Somebody waits for it. -/
  | deliver
  /-- Nobody waits for it any more. -/
  | orphan
  /-- Nothing is known about the request. -/
  | nothing
  deriving DecidableEq, Repr

namespace Pending

/-- How many abandoned requests are remembered. -/
def abandonedLimit : Nat := 32

/-- Somebody waits for the answer to a request. -/
def expect (p : Pending) (serial : UInt32) : Pending :=
  if serial ∈ p.waiting then p else { p with waiting := p.waiting ++ [serial] }

/-- Nobody waits for the answer any more. Only a request that is waited for can be abandoned. -/
def abandon (p : Pending) (serial : UInt32) : Pending :=
  if serial ∈ p.waiting then
    let remembered :=
      if p.abandoned.length = abandonedLimit then p.abandoned.drop 1 else p.abandoned
    { waiting := p.waiting.erase serial, abandoned := remembered ++ [serial] }
  else p

/-- The server has started a flow for a request. -/
def started (p : Pending) (serial : UInt32) : Pending × Due :=
  if serial ∈ p.waiting then ({ p with waiting := p.waiting.erase serial }, .deliver)
  else if serial ∈ p.abandoned then ({ p with abandoned := p.abandoned.erase serial }, .orphan)
  else (p, .nothing)

/-- The server has refused a request; the second part tells whether somebody waits for the answer. -/
def failed (p : Pending) (serial : UInt32) : Pending × Bool :=
  ({ waiting := p.waiting.erase serial, abandoned := p.abandoned.erase serial },
    decide (serial ∈ p.waiting))

/-! ## Small facts -/

/-- An unknown request leaves no trace. -/
theorem abandon_of_not_mem {p : Pending} {serial : UInt32} (h : serial ∉ p.waiting) :
    p.abandon serial = p := if_neg h

theorem length_abandoned_abandon {p : Pending} (h : p.abandoned.length ≤ abandonedLimit)
    (serial : UInt32) : (p.abandon serial).abandoned.length ≤ abandonedLimit := by
  unfold abandon
  split
  · simp only [List.length_append, List.length_singleton]
    split
    · next full => simp only [List.length_drop, full, abandonedLimit]; omega
    · omega
  · exact h

end Pending

end Playout.Flow
