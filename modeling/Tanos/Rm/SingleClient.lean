import Tanos.Rm.ModeChange

/-!
# A resource manager with a single client

The smallest configuration in which anything is sent: client 1 has asked for service 1, and runs in
mode 0 in network mode 0. `start_singleClient` and `asynchonousObjectsHwRound_singleClient` compute
what this resource manager sends, for all durations and offsets.
-/

set_option autoImplicit false
set_option relaxedAutoImplicit false

namespace Tanos

namespace NetLayerRM

/-- The request of the single client. -/
def singleRequest : RMMessage :=
  ⟨MessageTypes.rmClientSyncRequest.code, 0, 1, 1, 1, 0, 0, 0, 0, []⟩

/-- The settings of the single service. -/
def singleSettings (slotOffset : UInt32) : ServiceSettings :=
  { (default : ServiceSettings) with serviceId := 1, slotOffset := slotOffset }

/-- The experiment of the single client. -/
def singleParameter (hyperperiod distribution reconfigOffset startOffset : ℕ) :
    ExperimentParameter where
  experimentNumber := 4
  experimentIterations := 1
  synchronousStartMode := true
  mcDistributionPhaseDuration := distribution
  mcClientReconfigOffset := reconfigOffset
  mcClientStartOffset := startOffset
  hyperperiodDuration := hyperperiod
  startupMode := 0
  startupModeMap := (∅ : ModeMap).insert 0 ((∅ : StdMap UInt32 UInt32).insert 1 0)
  reconfigurationOrder := [0]
  reconfigurationMap := (∅ : ModeMap).insert 0 ((∅ : StdMap UInt32 UInt32).insert 1 0)

/-- The resource manager of the single client. -/
def singleClient (parameter : ExperimentParameter) (slotOffset : UInt32) (last : Timespec) :
    NetLayerRM :=
  { new parameter ∅
      ((∅ : ServiceMap).insert 1
        ((∅ : StdMap UInt32 ServiceSettings).insert 0 (singleSettings slotOffset))) last with
    serviceList := ServiceList.empty.insert singleRequest }

section

variable (hyperperiod distribution reconfigOffset startOffset : ℕ) (slotOffset : UInt32)
  (last currentTime : Timespec) (iterator : UInt8)

theorem start_singleClient :
    let rm := singleClient (singleParameter hyperperiod distribution reconfigOffset startOffset)
      slotOffset last
    let start := prepareTimestampAdd (rm.targetTimeClientStart currentTime) slotOffset.toNat
    (rm.startNetworkTrafficSynchronous currentTime).2 =
        [⟨sendSynchronousStart start (some ⟨"127.0.0.1", 25525⟩) 1 0, 1⟩] ∧
      (rm.startNetworkTrafficSynchronous currentTime).1.rmActiveTimestampLast = start := by
  intro rm start
  constructor <;> rfl

theorem asynchonousObjectsHwRound_singleClient :
    let rm := singleClient (singleParameter hyperperiod distribution reconfigOffset startOffset)
      slotOffset last
    let begin := rm.targetMcBegin currentTime
    (rm.asynchonousObjectsHwRound iterator 0 currentTime).2 =
      [⟨sendTimeTriggeredSynchronousReconfigureType begin (prepareTimestampAdd begin reconfigOffset)
        (prepareTimestampAdd begin (startOffset + reconfigOffset))
        (some ⟨"127.0.0.1", 25525⟩) 1 0 .rmClientSyncTimestampReconfigureHw iterator.toUInt32,
        1⟩] := by
  rfl

end

end NetLayerRM

end Tanos
