import FragmentSink.Broker.Client
import FragmentSink.Fault
import FragmentSink.Retry
import FragmentSink.Text.Pattern

/-
  The consumer of a stream: how it counts failed polls, and
  how often it tries to commit an offset.

  What the broker client answers is an argument; the consumer
  decides what follows from it.

  Key definitions include:
    * `Consumer.ofSettings`
    * `Consumer.polled`
    * `Consumer.commitOnce`
    * `Consumer.commitWithRetry`
-/

namespace FragmentSink

------------------------------------------------------------
-- Consumers
------------------------------------------------------------

/- A consumer of a topic, and how many polls failed since the last success. -/
structure Consumer where
  topic : String
  policy : RetryPolicy
  failures : UInt32
deriving DecidableEq, Repr

/- What a poll of the consumer brings. -/
inductive ConsumerPoll where
| fragment (f : Fragment)
| quiet
| failed (cause : Error) (backoffMillis : UInt64) (goOn : Bool)
deriving DecidableEq

namespace Consumer

/- A topic as the client takes it, which has no zero in it. -/
def handedOver (topic : String) : Except Fault String :=
  if topic.toList.contains '\x00' then
    .error (.zeroInTopic topic.toUTF8.toList)
  else .ok topic

/- Whether a topic can be subscribed to; one with a caret in front is a pattern. -/
def isSubscribable (topic : String) : Bool :=
  match topic.toList with
  | [] => false
  | '^' :: _ => Pattern.isWellFormed topic
  | _ => true

/- A consumer of the configured topic, if the client accepts the settings. -/
def ofSettings
    (k : KafkaSettings)
    (policy : RetryPolicy) :
    Except Fault (Except KafkaError Consumer) :=
  match k.refusal? with
  | some why => .ok (.error (.connectionFailed k.brokers why))
  | none =>
      (handedOver k.topic).map fun topic =>
        if isSubscribable topic then .ok ⟨topic, policy, 0⟩
        else
          .error (.consumerGroup "Subscription error: invalid topic")

/- Forget the failed polls. -/
def recordSuccess (c : Consumer) : Consumer :=
  { c with failures := 0 }

------------------------------------------------------------
-- Polls
------------------------------------------------------------

/-
  What a poll brings, given what the client answered: nothing
  in time, an error or a fragment.  A failed poll is counted;
  the recommendation to go on ends with the last retry.
-/
def polled
    (c : Consumer)
    (answer : Option (Except String Fragment))
    (noise : UInt64) : ConsumerPoll × Consumer :=
  match answer with
  | none => (.quiet, c)
  | some (.ok f) => (.fragment f, c.recordSuccess)
  | some (.error why) =>
      let failures := c.failures + 1
      (.failed (.kafka (.consumerGroup why))
          (c.policy.delay failures noise)
          (failures < c.policy.maxRetries),
        { c with failures := failures })

------------------------------------------------------------
-- Offset Commits
------------------------------------------------------------

/- The offset that is committed for a fragment: the one to go on from. -/
def nextOffset (t : OffsetToken) : Except Fault Int64 :=
  Word.addInt t.offset 1

/- The offset that is committed for a fragment, handed over with its topic. -/
def commitTarget (t : OffsetToken) : Except Fault Int64 :=
  (nextOffset t).bind fun offset =>
    (handedOver t.key.topic).map fun _ => offset

/- Whether an offset can be committed. -/
def isCommittable (offset : Int64) : Bool :=
  0 ≤ offset

/-
  Commit an offset, given what the client answers.  An offset
  below zero does not reach it.
-/
def commitAt
    (offset : Int64)
    (answer : Except String Unit) : Except KafkaError Unit :=
  if isCommittable offset then
    answer.mapError .offsetCommit
  else
    .error (.offsetCommit "Invalid argument")

/- Commit the offset after a fragment once, given what the client answers. -/
def commitOnce
    (t : OffsetToken)
    (answer : Except String Unit) :
    Except Fault (Except KafkaError Unit) :=
  (commitTarget t).map fun offset => commitAt offset answer

/- How a commit with retries went. -/
structure RetriedCommit where
  result : Except KafkaError Unit
  attempts : Nat
  delays : List UInt64

/-
  Try again until an attempt succeeds, or until as many have
  failed as the policy allows, with a delay before each further
  attempt.  The attempts are counted on the way; their number
  stays within a word, as that of the policy is one.
-/
def retryFrom
    (p : RetryPolicy)
    (attempt : Nat → Except KafkaError Unit)
    (noise : Nat → UInt64)
    (made : Nat) : RetriedCommit :=
  match attempt made with
  | .ok () => ⟨.ok (), made + 1, []⟩
  | .error why =>
      if p.maxRetries.toNat ≤ made + 1 then
        ⟨.error why, made + 1, []⟩
      else
        let rest := retryFrom p attempt noise (made + 1)
        { rest with
          delays :=
            p.delay (UInt32.ofNat (made + 1)) (noise made) ::
              rest.delays }
termination_by p.maxRetries.toNat - made

/-
  Commit the offset after a fragment, with retries, given what
  the client answers to each attempt.  Only a success forgets
  the failed polls.
-/
def commitWithRetry
    (c : Consumer)
    (t : OffsetToken)
    (answer : Nat → Except String Unit)
    (noise : Nat → UInt64) :
    Except Fault (RetriedCommit × Consumer) :=
  (commitTarget t).map fun offset =>
    let tried :=
      retryFrom c.policy (fun i => commitAt offset (answer i))
        noise 0
    match tried.result with
    | .ok () => (tried, c.recordSuccess)
    | .error _ => (tried, c)

------------------------------------------------------------
-- Seeks
------------------------------------------------------------

/- Send the stream of a partition back, given what the client answers. -/
def seek
    (target : OffsetToken)
    (answer : Except String Unit) : Except KafkaError Unit :=
  answer.mapError (.seek target)

end Consumer

end FragmentSink
