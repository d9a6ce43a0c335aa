import Tanos.Library.Polling
import Tanos.Messages
import Tanos.TrafficGenerator

/-!
# The polling loops of the clients

A timed command is executed by a loop that reads the clock until the time of the command has come.
At every reading the source first asks whether the timestamp is valid, comparing the seconds only,
and then whether the reading is later than the timestamp. `check` is this pair of tests, `timedLoop`
the loop for one timestamp and `twoStepLoop` the loop for two of them, each with its own flag.

`watch` turns the tests into a `Polling.Watch`: a reading decides when it is later than the
timestamp, and hits when it belongs to the same second still. `timedLoop_eq_poll` and
`twoStepLoop_eq_pollTwo` are the connection to `Library.Polling`, through which everything else is
proved. Readings of the clock that only feed the log are not modelled.
-/

set_option autoImplicit false
set_option relaxedAutoImplicit false

namespace Tanos.Client

open Library.Polling

/-- What a client does that others can see. A call of `reconfigure_sw_to_mode` comes with the shell
command it has run, if any. -/
inductive ClientEffect where
  | syncAckReceive
  | syncAckReconfigureDone
  | notify (notification : Notification)
  | reconfigureSwToMode (mode : UInt32) (experimentNumber : UInt8) (mcNumber : UInt32)
      (command : Option String)
  | deactivate
deriving DecidableEq, Repr

/-- The outcome of a handler, on the readings of the clock it is given. -/
abbrev HandlerOutcome : Type := Outcome Timespec ClientEffect

/-- A reconfiguration handler between its two acknowledgements: `sync_ack_receive` before the call,
`sync_ack_reconfigure_done` after the return. -/
def acknowledged (handler : HandlerOutcome) : HandlerOutcome :=
  (handler.prepend [.syncAckReceive]).followedBy [.syncAckReconfigureDone]

/-- The three ways the tests for a timestamp can end. -/
inductive Verdict where
  | invalid
  | waiting
  | due
deriving DecidableEq, Repr

/-- The tests for a timestamp at a reading of the clock. -/
def check (target now : Timespec) : Verdict :=
  if target.tvSec ≠ 0 ∧ target.tvSec ≥ now.tvSec then
    if now.isLater target then .due else .waiting
  else .invalid

/-- The loop for one timestamp: a due timestamp runs the action and an invalid one does not, both
leave the loop. -/
def timedLoop (target : Timespec) (action : List ClientEffect) : List Timespec → HandlerOutcome
  | [] => ⟨[], none⟩
  | now :: rest =>
    match check target now with
    | .due => ⟨action, some rest⟩
    | .waiting => timedLoop target action rest
    | .invalid => ⟨[], some rest⟩

/-- The block for the second timestamp, which leaves the loop unless it is still waiting. -/
def secondBlock (target now : Timespec) (action : List ClientEffect) (rest : List Timespec)
    (proceed : HandlerOutcome) : HandlerOutcome :=
  match check target now with
  | .due => ⟨action, some rest⟩
  | .waiting => proceed
  | .invalid => ⟨[], some rest⟩

/-- The loop for two timestamps. The flag says that the first action has been run. -/
def twoStepLoop (first second : Timespec) (firstAction secondAction : List ClientEffect)
    (done : Bool) : List Timespec → HandlerOutcome
  | [] => ⟨[], none⟩
  | now :: rest =>
    if done then
      secondBlock second now secondAction rest
        (twoStepLoop first second firstAction secondAction true rest)
    else
      match check first now with
      | .due =>
        (secondBlock second now secondAction rest
          (twoStepLoop first second firstAction secondAction true rest)).prepend firstAction
      | .waiting =>
        secondBlock second now secondAction rest
          (twoStepLoop first second firstAction secondAction false rest)
      | .invalid => ⟨[], some rest⟩

/-! ### The loops as polls -/

/-- The tests for a timestamp as a watch: readings after the timestamp decide, and those of its own
second hit. A timestamp in second zero is decided at once and never hit. -/
def watch (target : Timespec) : Watch Timespec where
  decides now := target.tvSec == 0 || now.isLater target
  hits now := target.tvSec != 0 && now.tvSec == target.tvSec

theorem decides_watch (target now : Timespec) :
    (watch target).decides now = true ↔ target.tvSec = 0 ∨ now.isLater target = true := by
  simp [watch]

theorem hits_watch (target now : Timespec) :
    (watch target).hits now = true ↔ target.tvSec ≠ 0 ∧ now.tvSec = target.tvSec := by
  simp [watch]

theorem check_of_undecided {target now : Timespec} (h : (watch target).decides now = false) :
    check target now = .waiting := by
  have hneither := mt (decides_watch target now).mpr (Bool.not_eq_true _ ▸ h)
  obtain ⟨hzero, hlater⟩ := not_or.mp hneither
  have hle := Timespec.tvSec_le_of_not_isLater (Bool.eq_false_iff.mpr hlater)
  rw [check, if_pos ⟨hzero, hle⟩, if_neg hlater]

theorem check_of_hits {target now : Timespec} (hdecides : (watch target).decides now = true)
    (hhits : (watch target).hits now = true) : check target now = .due := by
  obtain ⟨hzero, hsecond⟩ := (hits_watch target now).mp hhits
  have hlater := ((decides_watch target now).mp hdecides).resolve_left hzero
  rw [check, if_pos ⟨hzero, hsecond.le⟩, if_pos hlater]

theorem check_of_misses {target now : Timespec} (hdecides : (watch target).decides now = true)
    (hmisses : (watch target).hits now = false) : check target now = .invalid := by
  have hnot := mt (hits_watch target now).mpr (Bool.not_eq_true _ ▸ hmisses)
  rw [check, if_neg]
  rintro ⟨hzero, hle⟩
  have hlater := ((decides_watch target now).mp hdecides).resolve_left hzero
  rcases (Timespec.isLater_iff now target).mp hlater with hlt | ⟨hsecond, -⟩
  · exact absurd hlt (not_lt.mpr hle)
  · exact hnot ⟨hzero, hsecond⟩

/-- The loop for one timestamp polls its watch. -/
theorem timedLoop_eq_poll (target : Timespec) (action : List ClientEffect)
    (samples : List Timespec) :
    timedLoop target action samples = poll (watch target) action samples := by
  induction samples with
  | nil => rfl
  | cons now rest ih =>
    cases hdecides : (watch target).decides now with
    | false => simp [timedLoop, poll, check_of_undecided hdecides, hdecides, ih]
    | true =>
      cases hhits : (watch target).hits now with
      | false => simp [timedLoop, poll, check_of_misses hdecides hhits, hdecides, hhits]
      | true => simp [timedLoop, poll, check_of_hits hdecides hhits, hdecides, hhits]

/-- The block for the second timestamp polls it, when what follows the block does. -/
theorem secondBlock_eq_poll (target now : Timespec) (action : List ClientEffect)
    (rest : List Timespec) :
    secondBlock target now action rest (poll (watch target) action rest) =
      poll (watch target) action (now :: rest) := by
  cases hdecides : (watch target).decides now with
  | false => simp [secondBlock, poll, check_of_undecided hdecides, hdecides]
  | true =>
    cases hhits : (watch target).hits now with
    | false => simp [secondBlock, poll, check_of_misses hdecides hhits, hdecides, hhits]
    | true => simp [secondBlock, poll, check_of_hits hdecides hhits, hdecides, hhits]

/-- Once the first action has been run, the loop for two timestamps polls the second one. -/
theorem twoStepLoop_true (first second : Timespec) (firstAction secondAction : List ClientEffect)
    (samples : List Timespec) :
    twoStepLoop first second firstAction secondAction true samples =
      poll (watch second) secondAction samples := by
  induction samples with
  | nil => rfl
  | cons now rest ih => rw [twoStepLoop, if_pos rfl, ih, secondBlock_eq_poll]

/-- The loop for two timestamps polls both watches. -/
theorem twoStepLoop_eq_pollTwo (first second : Timespec)
    (firstAction secondAction : List ClientEffect) (samples : List Timespec) :
    twoStepLoop first second firstAction secondAction false samples =
      pollTwo (watch first) (watch second) firstAction secondAction samples := by
  induction samples with
  | nil => rfl
  | cons now rest ih =>
    rw [twoStepLoop, if_neg Bool.false_ne_true, twoStepLoop_true, secondBlock_eq_poll, ih]
    cases hfirst : (watch first).decides now with
    | true =>
      cases hhits : (watch first).hits now with
      | false => simp [pollTwo, check_of_misses hfirst hhits, hfirst, hhits]
      | true => simp [pollTwo, check_of_hits hfirst hhits, hfirst, hhits]
    | false =>
      rw [check_of_undecided hfirst]
      cases hsecond : (watch second).decides now with
      | false => simp [secondBlock, pollTwo, check_of_undecided hsecond, hfirst, hsecond]
      | true =>
        cases hhits : (watch second).hits now with
        | false =>
          simp [secondBlock, pollTwo, check_of_misses hsecond hhits, hfirst, hsecond, hhits]
        | true => simp [secondBlock, pollTwo, check_of_hits hsecond hhits, hfirst, hsecond, hhits]

end Tanos.Client
