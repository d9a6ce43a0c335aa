import Tanos.Client.Endnode

/-!
# Reconfigurations in two steps

Two handlers of the end node take the generator out of its transmission at one timestamp and put it
back at the start timestamp, in one loop. `TwoStepHandler` lists them. `generatorAfter` is the state
the effects of a handler leave the generator in, as long as nobody else notifies it.

The loop returns in one of three ways (`Polling.pollTwo_of_returns`), and only one of them leaves
the generator between the two steps (`notHalfSwitched_iff`).
-/

set_option autoImplicit false
set_option relaxedAutoImplicit false

namespace Tanos.Client

open Library.Polling

/-- The handlers that wait for two timestamps. -/
inductive TwoStepHandler where
  | syncReconfigureHw
  | syncReconfigureSyncObjectSw
deriving DecidableEq, Repr

namespace TwoStepHandler

/-- The handler as it stands in the source. -/
def run : TwoStepHandler → MessageNet → UInt32 → List Timespec → HandlerOutcome
  | syncReconfigureHw => Endnode.handleSyncReconfigureHwMessage
  | syncReconfigureSyncObjectSw => Endnode.handleSyncReconfigureSyncObjectSwMessage

/-- The timestamp of the first step. -/
def interruption (handler : TwoStepHandler) (payload : RMPayload) : Timespec :=
  match handler with
  | syncReconfigureHw => payload.timestampStop
  | syncReconfigureSyncObjectSw => payload.timestampReconfig

/-- The notification of the first step. -/
def interrupt : TwoStepHandler → Notification
  | syncReconfigureHw => .generator .threadPaused
  | syncReconfigureSyncObjectSw => .generator .threadTransmissionFinishObject

/-- The notification of the second step. -/
def restart (handler : TwoStepHandler) (payload : RMPayload) (mode : UInt32) : Notification :=
  match handler with
  | syncReconfigureHw => .generator .threadTransmission
  | syncReconfigureSyncObjectSw =>
    .timestamp .threadTransmission payload.timestampStart mode true

/-- Both handlers poll the clock for their two timestamps. -/
theorem run_eq_pollTwo (handler : TwoStepHandler) (net : MessageNet) (mode : UInt32)
    (samples : List Timespec) :
    let payload := RMPayload.received net
    handler.run net mode samples =
      pollTwo (watch (handler.interruption payload)) (watch payload.timestampStart)
        [.notify handler.interrupt] [.notify (handler.restart payload mode)] samples := by
  intro payload
  rw [← twoStepLoop_eq_pollTwo]
  cases handler <;> rfl

end TwoStepHandler

/-- What an effect of a handler does to the generator. -/
def ClientEffect.applyTo (generator : TrafficGenerator) : ClientEffect → TrafficGenerator
  | .notify notification => generator.notify notification
  | _ => generator

/-- The generator after the effects of a handler. -/
def generatorAfter (generator : TrafficGenerator) (effects : List ClientEffect) :
    TrafficGenerator :=
  effects.foldl ClientEffect.applyTo generator

/-- The generator has been put back into transmission, and for synchronous objects into the new mode
and the new period. -/
structure SwitchedOver (handler : TwoStepHandler) (payload : RMPayload) (mode : UInt32)
    (generator : TrafficGenerator) : Prop where
  transmits : generator.trafficGeneratorControl = .threadTransmission
  installed : handler = .syncReconfigureSyncObjectSw →
    generator.modeGlobal = mode ∧ generator.globalPeriodTimestamp = payload.timestampStart ∧
      generator.globalUpdatePeriod = true

/-- The handler has not touched the generator, or has switched it over. -/
def NotHalfSwitched (handler : TwoStepHandler) (net : MessageNet) (mode : UInt32)
    (samples : List Timespec) (generator : TrafficGenerator) : Prop :=
  let effects := (handler.run net mode samples).effects
  effects = [] ∨
    SwitchedOver handler (RMPayload.received net) mode (generatorAfter generator effects)

section

variable (handler : TwoStepHandler) (payload : RMPayload) (mode : UInt32)
  (generator : TrafficGenerator)

/-- After the first step the generator does not transmit any more. -/
theorem not_switchedOver_interrupt :
    ¬ SwitchedOver handler payload mode
      (generatorAfter generator [.notify handler.interrupt]) := by
  intro hswitched
  have htransmits := hswitched.transmits
  cases handler with
  | syncReconfigureHw => exact TrafficSourceControl.noConfusion htransmits
  | syncReconfigureSyncObjectSw => exact TrafficSourceControl.noConfusion htransmits

/-- The second step switches the generator over, whatever its state was. -/
theorem switchedOver_restart :
    SwitchedOver handler payload mode
      (generatorAfter generator [.notify (handler.restart payload mode)]) := by
  cases handler with
  | syncReconfigureHw => exact ⟨rfl, fun hother ↦ TwoStepHandler.noConfusion hother⟩
  | syncReconfigureSyncObjectSw => exact ⟨rfl, fun _ ↦ ⟨rfl, rfl, rfl⟩⟩

end

/-- The exact condition for a handler that returns not to leave the generator between the two steps:
it is not the case that the first timestamp is hit and the start timestamp is missed, at the same
reading of the clock or later. -/
theorem notHalfSwitched_iff (handler : TwoStepHandler) (net : MessageNet) (mode : UInt32)
    (samples : List Timespec) (generator : TrafficGenerator)
    (hreturns : (handler.run net mode samples).Returns) :
    NotHalfSwitched handler net mode samples generator ↔
      ¬ HalfDone (watch (handler.interruption (RMPayload.received net)))
        (watch (RMPayload.received net).timestampStart) samples := by
  rw [TwoStepHandler.run_eq_pollTwo] at hreturns
  rw [NotHalfSwitched, TwoStepHandler.run_eq_pollTwo]
  rcases pollTwo_of_returns hreturns with ⟨hhalf, heffects⟩ | ⟨-, hhalf, heffects⟩ |
    ⟨hnot_abandoned, heffects⟩
  · rw [heffects]
    refine iff_of_false ?_ (not_not_intro hhalf)
    exact not_or_intro (List.cons_ne_nil _ _) (not_switchedOver_interrupt handler _ mode generator)
  · exact iff_of_true (Or.inl heffects) hhalf
  · refine iff_of_true (Or.inr ?_) fun hhalf ↦ hnot_abandoned (Or.inl hhalf.2.1)
    rcases heffects with heffects | heffects
    · rw [heffects]
      exact switchedOver_restart handler _ mode generator
    · rw [heffects]
      exact switchedOver_restart handler _ mode (generator.notify handler.interrupt)

/-- The payload of a command to stop and to start again. -/
def stopAndStartPayload (timestampStop timestampStart : Timespec) : MessageNet :=
  (RMPayload.commanded .syncTimestampReconfgure timestampStop ⟨0, 0⟩ timestampStart).serialized

/-- With this payload the hardware reconfiguration polls the clock for the two times. -/
theorem run_stopAndStartPayload (mode : UInt32) (samples : List Timespec)
    {timestampStop timestampStart : Timespec} (hstop : MessageNet.FitsTimespec timestampStop)
    (hstart : MessageNet.FitsTimespec timestampStart) :
    TwoStepHandler.syncReconfigureHw.run (stopAndStartPayload timestampStop timestampStart) mode
        samples =
      pollTwo (watch timestampStop) (watch timestampStart) [.notify (.generator .threadPaused)]
        [.notify (.generator .threadTransmission)] samples := by
  rw [TwoStepHandler.run_eq_pollTwo, stopAndStartPayload, RMPayload.received_serialized
    (RMPayload.representable_commanded _ hstop (by decide) hstart)]
  rfl

/-- A generator that transmits in mode 0. -/
def transmittingGenerator : TrafficGenerator := ⟨.threadTransmission, 0, true, ⟨99, 0⟩⟩

theorem notHalfSwitched_stopAndStart :
    NotHalfSwitched .syncReconfigureHw (stopAndStartPayload ⟨100, 0⟩ ⟨100, 500⟩) 1
      [⟨100, 1⟩, ⟨100, 501⟩] transmittingGenerator := by
  refine (notHalfSwitched_iff _ _ _ _ _ ?_).mpr fun hhalf ↦ ?_
  · rw [run_stopAndStartPayload _ _ (by decide) (by decide)]
    decide
  · obtain ⟨sample, hfind, hmissed⟩ := hhalf.2.1
    rw [stopAndStartPayload, RMPayload.received_serialized
      (RMPayload.representable_commanded _ (by decide) (by decide) (by decide))] at hfind hmissed
    obtain rfl := Option.some.inj hfind
    exact Bool.noConfusion hmissed

/-- A clock that passes the start timestamp and the end of its second between two readings: the
generator is left paused. -/
theorem not_notHalfSwitched_stopAndStart :
    let net := stopAndStartPayload ⟨100, 0⟩ ⟨100, 999999999⟩
    let samples : List Timespec := [⟨100, 1⟩, ⟨101, 0⟩]
    let outcome := TwoStepHandler.syncReconfigureHw.run net 1 samples
    outcome.Returns ∧
      (generatorAfter transmittingGenerator outcome.effects).trafficGeneratorControl =
        .threadPaused ∧
      ¬ NotHalfSwitched .syncReconfigureHw net 1 samples transmittingGenerator := by
  intro net samples outcome
  have houtcome : outcome = ⟨[.notify (.generator .threadPaused)], some []⟩ :=
    run_stopAndStartPayload 1 samples (by decide) (by decide)
  rw [houtcome]
  refine ⟨rfl, rfl, ?_⟩
  change ¬ (outcome.effects = [] ∨ SwitchedOver _ _ _ (generatorAfter _ outcome.effects))
  rw [houtcome]
  exact not_or_intro (List.cons_ne_nil _ _) (not_switchedOver_interrupt .syncReconfigureHw _ _ _)

end Tanos.Client
