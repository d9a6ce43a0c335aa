import Mathlib.Data.List.Basic
import Mathlib.Logic.Function.Basic
import Tanos.Library.Runs

/-!
# Parties on an unreliable network

A `Protocol` gives every party a state, the events of its own, and what it does at an event or when
it receives a message: a next state and the messages it sends. A `Configuration` is the states of
all parties, and every message that has been sent so far, with its sender. `step` is a machine in
the sense of `Library.Runs`. It delivers any message that has been sent, at any time and any number
of times, to a party that receives it. Its runs therefore are all interleavings over a network that
delays, reorders, duplicates and loses messages.

`Inductive` is the rule for safety. A property of the parties' states and one of the messages may
both refer to what has been sent, as long as more messages do not falsify them, and each action of a
single party has to establish them for that party and for what it sends. `always_holds` concludes
that they hold throughout every run. By `exists_inputs` a party of a run goes through a run of its
own machine, `localStep`, so that what is known about a single party holds in every system it is
part of.
-/

set_option autoImplicit false
set_option relaxedAutoImplicit false

namespace Tanos.Library.Network

open Runs

/-- The parties of a protocol, by their states, their own events, and what they do. -/
structure Protocol (ι μ : Type) where
  State : ι → Type
  Event : ι → Type
  receives : ι → μ → Bool
  receive : (party : ι) → State party → μ → State party × List μ
  act : (party : ι) → State party → Event party → State party × List μ

/-- The states of all parties, and the messages that have been sent with their senders. -/
structure Configuration {ι μ : Type} (protocol : Protocol ι μ) where
  parties : (party : ι) → protocol.State party
  sent : List (ι × μ)

/-- The delivery of a message to a party, or an event of a party. -/
inductive Event {ι μ : Type} (protocol : Protocol ι μ) where
  | deliver (party : ι) (message : μ)
  | act (party : ι) (event : protocol.Event party)

variable {ι μ : Type} {protocol : Protocol ι μ}

/-- What a party sends, with its sender. -/
def sentBy (party : ι) (messages : List μ) : List (ι × μ) := messages.map fun message ↦
  (party, message)

theorem mem_sentBy_iff {sender party : ι} {message : μ} {messages : List μ} :
    (sender, message) ∈ sentBy party messages ↔ sender = party ∧ message ∈ messages := by
  simp [sentBy, and_comm, eq_comm]

namespace Configuration

/-- A party goes to its next state and sends its messages. -/
def perform [DecidableEq ι] (configuration : Configuration protocol) (party : ι)
    (result : protocol.State party × List μ) : Configuration protocol × List (ι × μ) :=
  (⟨Function.update configuration.parties party result.1,
    configuration.sent ++ sentBy party result.2⟩, sentBy party result.2)

/-- The delivery of a message. One that has not been sent, or one to a party that does not receive
it, changes nothing. -/
def deliver [DecidableEq ι] [DecidableEq μ] (configuration : Configuration protocol) (party : ι)
    (message : μ) : Configuration protocol × List (ι × μ) :=
  if protocol.receives party message = true ∧ message ∈ configuration.sent.map Prod.snd then
    configuration.perform party (protocol.receive party (configuration.parties party) message)
  else (configuration, [])

/-- A step. -/
def step [DecidableEq ι] [DecidableEq μ] (configuration : Configuration protocol) :
    Event protocol → Configuration protocol × List (ι × μ)
  | .deliver party message => configuration.deliver party message
  | .act party event =>
    configuration.perform party (protocol.act party (configuration.parties party) event)

end Configuration

open Tanos.Library.Network.Configuration

/-- What has been sent stays sent. -/
theorem sent_step [DecidableEq ι] [DecidableEq μ] (configuration : Configuration protocol)
    (event : Event protocol) :
    ∃ more, (configuration.step event).1.sent = configuration.sent ++ more := by
  cases event with
  | deliver party message =>
    rw [step, deliver]
    split_ifs
    · exact ⟨_, rfl⟩
    · exact ⟨[], (List.append_nil _).symm⟩
  | act party event => exact ⟨_, rfl⟩

/-! ### Safety -/

/-- A property of the parties and one of the messages, relative to what has been sent. -/
structure Safety (protocol : Protocol ι μ) where
  good : List (ι × μ) → (party : ι) → protocol.State party → Prop
  allowed : List (ι × μ) → ι → μ → Prop

namespace Safety

variable (safety : Safety protocol)

/-- A party is good after an action, and the messages it has sent are allowed after those that had
been sent before. -/
def Keeps (sent : List (ι × μ)) (party : ι) (result : protocol.State party × List μ) : Prop :=
  safety.good (sent ++ sentBy party result.2) party result.1 ∧
    ∀ message ∈ result.2, safety.allowed sent party message

/-- All parties are good, and every message is allowed after those that were sent before it. -/
structure Holds (configuration : Configuration protocol) : Prop where
  good : ∀ party, safety.good configuration.sent party (configuration.parties party)
  allowed : ∀ {past sender message future},
    configuration.sent = past ++ (sender, message) :: future → safety.allowed past sender message

/-- More messages do not falsify the properties, and every action of a party keeps them. -/
structure Inductive : Prop where
  good_append : ∀ {sent party state} (more : List (ι × μ)), safety.good sent party state →
    safety.good (sent ++ more) party state
  allowed_append : ∀ {sent sender message} (more : List (ι × μ)),
    safety.allowed sent sender message → safety.allowed (sent ++ more) sender message
  keeps_receive : ∀ {sent party state sender message}, (sender, message) ∈ sent →
    protocol.receives party message = true → safety.allowed sent sender message →
    safety.good sent party state → safety.Keeps sent party (protocol.receive party state message)
  keeps_act : ∀ {sent party state} (event : protocol.Event party),
    safety.good sent party state → safety.Keeps sent party (protocol.act party state event)

variable {safety}

/-- The properties hold before anything has been sent when all parties are good. -/
theorem holds_of_parties {parties : (party : ι) → protocol.State party}
    (hgood : ∀ party, safety.good [] party (parties party)) : safety.Holds ⟨parties, []⟩ :=
  ⟨hgood, fun hsent ↦ absurd hsent.symm (List.append_ne_nil_of_right_ne_nil _ nofun)⟩

/-- What has been sent is allowed after all that has been sent, too. -/
theorem Inductive.allowed_of_mem (hsafety : safety.Inductive)
    {configuration : Configuration protocol} (hholds : safety.Holds configuration) {sender : ι}
    {message : μ} (hmem : (sender, message) ∈ configuration.sent) :
    safety.allowed configuration.sent sender message := by
  obtain ⟨past, future, hsent⟩ := List.append_of_mem hmem
  rw [hsent]
  exact hsafety.allowed_append _ (hholds.allowed hsent)

variable [DecidableEq ι]

/-- An action of one party that keeps the properties, while the others do nothing. -/
theorem Inductive.holds_perform (hsafety : safety.Inductive)
    {configuration : Configuration protocol} (hholds : safety.Holds configuration) {party : ι}
    {result : protocol.State party × List μ}
    (hkeeps : safety.Keeps configuration.sent party result) :
    safety.Holds (configuration.perform party result).1 := by
  constructor
  · intro other
    by_cases hother : other = party
    · subst hother
      show safety.good _ other (Function.update _ other _ other)
      rw [Function.update_self]
      exact hkeeps.1
    · show safety.good _ other (Function.update _ party _ other)
      rw [Function.update_of_ne hother]
      exact hsafety.good_append _ (hholds.good other)
  · intro past sender message future hsent
    -- the message has been sent before the action or by it
    rcases List.append_eq_append_iff.mp hsent with ⟨more, rfl, hnow⟩ | ⟨more, hbefore, hnow⟩
    · obtain ⟨rfl, hmessage⟩ : sender = party ∧ message ∈ result.2 :=
        mem_sentBy_iff.mp (hnow ▸ List.mem_append_right more List.mem_cons_self)
      exact hsafety.allowed_append _ (hkeeps.2 message hmessage)
    · cases more with
      | nil =>
        rw [List.nil_append] at hnow
        rw [List.append_nil] at hbefore
        obtain ⟨rfl, hmessage⟩ : sender = party ∧ message ∈ result.2 :=
          mem_sentBy_iff.mp (hnow ▸ List.mem_cons_self)
        exact hbefore ▸ hkeeps.2 message hmessage
      | cons first rest =>
        obtain ⟨rfl, -⟩ := List.cons.inj hnow
        exact hholds.allowed hbefore

variable [DecidableEq μ]

/-- A step keeps inductive properties. -/
theorem Inductive.holds_step (hsafety : safety.Inductive) {configuration : Configuration protocol}
    (hholds : safety.Holds configuration) (event : Event protocol) :
    safety.Holds (configuration.step event).1 := by
  cases event with
  | deliver party message =>
    rw [step, deliver]
    split_ifs with hdelivered
    · obtain ⟨hreceives, hmem⟩ := hdelivered
      obtain ⟨⟨sender, sent⟩, hsent, rfl⟩ := List.mem_map.mp hmem
      exact hsafety.holds_perform hholds (hsafety.keeps_receive hsent hreceives
        (hsafety.allowed_of_mem hholds hsent) (hholds.good party))
    · exact hholds
  | act party event =>
    exact hsafety.holds_perform hholds (hsafety.keeps_act event (hholds.good party))

/-- Inductive properties hold throughout every run from a configuration in which they hold. -/
theorem Inductive.always_holds (hsafety : safety.Inductive) {configuration : Configuration protocol}
    (hholds : safety.Holds configuration) (events : List (Event protocol)) :
    Always step safety.Holds configuration events :=
  always_of_step (fun _ event _ hcurrent ↦ hsafety.holds_step hcurrent event) hholds

end Safety

/-! ### A single party -/

/-- The machine of a single party: it receives a message or has an event of its own. -/
def localStep (protocol : Protocol ι μ) (party : ι) (state : protocol.State party) :
    μ ⊕ protocol.Event party → protocol.State party × List μ
  | .inl message => protocol.receive party state message
  | .inr event => protocol.act party state event

variable [DecidableEq ι] [DecidableEq μ]

/-- What a step is for a party: nothing, or a step of its own machine. -/
theorem parties_step (configuration : Configuration protocol) (event : Event protocol)
    (party : ι) :
    (configuration.step event).1.parties party = configuration.parties party ∨
      ∃ input, (configuration.step event).1.parties party =
        (localStep protocol party (configuration.parties party) input).1 := by
  have hperform : ∀ actor input, (configuration.perform actor
      (localStep protocol actor (configuration.parties actor) input)).1.parties party =
        configuration.parties party ∨ ∃ own, (configuration.perform actor
      (localStep protocol actor (configuration.parties actor) input)).1.parties party =
        (localStep protocol party (configuration.parties party) own).1 := by
    intro actor input
    by_cases hactor : party = actor
    · subst hactor
      exact Or.inr ⟨input, Function.update_self _ _ _⟩
    · exact Or.inl (Function.update_of_ne hactor _ _)
  cases event with
  | deliver actor message =>
    rw [step, deliver]
    split_ifs
    · exact hperform actor (.inl message)
    · exact Or.inl rfl
  | act actor event => exact hperform actor (.inr event)

/-- In every run of the system, a party goes through a run of its own machine. -/
theorem exists_inputs (configuration : Configuration protocol) (events : List (Event protocol))
    (party : ι) :
    ∃ inputs, (finalState step configuration events).parties party =
      finalState (localStep protocol party) (configuration.parties party) inputs := by
  induction events generalizing configuration with
  | nil => exact ⟨[], rfl⟩
  | cons event rest ih =>
    obtain ⟨inputs, hinputs⟩ := ih (configuration.step event).1
    rw [finalState_cons, hinputs]
    rcases parties_step configuration event party with hsame | ⟨input, hinput⟩
    · exact ⟨inputs, by rw [hsame]⟩
    · exact ⟨input :: inputs, by rw [hinput, finalState_cons]⟩

/-- What every step of its own machine keeps, a party keeps in every run of the system. -/
theorem parties_finalState_of_localStep {party : ι} {property : protocol.State party → Prop}
    (hstep : ∀ state input, property state → property (localStep protocol party state input).1)
    {configuration : Configuration protocol} (events : List (Event protocol))
    (hstate : property (configuration.parties party)) :
    property ((finalState step configuration events).parties party) := by
  obtain ⟨inputs, hinputs⟩ := exists_inputs configuration events party
  rw [hinputs]
  exact finalState_of_step (fun state input _ hcurrent ↦ hstep state input hcurrent) hstate

end Tanos.Library.Network
