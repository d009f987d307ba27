import Mathlib.Data.List.Chain
import Roadcast.System.Session

/-!
# Change sequences and losses in the history of a session

`Continuous` says of a stream of messages that the change sequences of the live ones advance by at
most one, from every `SUBSCRIBED` to the next `RESYNC_REQUIRED`; then `observe_change_sequence` of
`roadcastctl` counts no gap. `Announced` says of a history that no live message follows a dropped one
before the session was told or started over.
-/

namespace Roadcast

variable {cat : Catalog}

/-- The types of the messages that a subscriber receives between `SUBSCRIBED` and
`RESYNC_REQUIRED`. -/
def MessageType.isLive : MessageType → Bool
  | updateBatch | signalUpdateBatch | heartbeat => true
  | _ => false

def Message.isLive (message : Message) : Bool :=
  (MessageType.ofCode message.header.type).any MessageType.isLive

/-- Whether a message is live depends on its type. -/
@[simp] theorem outgoing_isLive (type : MessageType) (sequence timestampNs : UInt64)
    (payload : List UInt8) : (outgoing type sequence timestampNs payload).isLive = type.isLive := by
  simp [Message.isLive, outgoing]

/-- The change sequences of the live messages of a stream. -/
def liveSequences (messages : List Message) : List UInt64 :=
  (messages.filter Message.isLive).map fun message => message.header.sequence

/-- A change sequence may follow another. -/
def Advances (previous sequence : UInt64) : Prop := sequence = previous ∨ sequence = previous + 1

/-- `observe_change_sequence` of `roadcastctl`, on the last sequence and the gap count. -/
def observeChangeSequence (seen : UInt64 × UInt64) (sequence : UInt64) : UInt64 × UInt64 :=
  if sequence = seen.1 then seen
  else (sequence, if seen.1 ≠ 0 ∧ sequence ≠ seen.1 + 1 then seen.2 + 1 else seen.2)

/-- Sequences that advance show no gap. -/
theorem observeChangeSequence_gaps (sequences : List UInt64) (last gaps : UInt64)
    (h : List.IsChain Advances (last :: sequences)) :
    (sequences.foldl observeChangeSequence (last, gaps)).2 = gaps := by
  induction sequences generalizing last with
  | nil => rfl
  | cons sequence rest ih =>
    obtain ⟨hadvances, hrest⟩ := List.isChain_cons_cons.mp h
    have hstep : observeChangeSequence (last, gaps) sequence = (sequence, gaps) := by
      rcases hadvances with rfl | rfl
      · simp [observeChangeSequence]
      · simp [observeChangeSequence]
    rw [List.foldl_cons, hstep]
    exact ih sequence hrest

/-- The change sequence that a subscriber has reached: the last one since `SUBSCRIBED`, none before
it and after `RESYNC_REQUIRED`. -/
def followSequence (last : Option UInt64) (message : Message) : Option UInt64 :=
  if message.header.type = MessageType.subscribed.code then some message.header.sequence
  else if message.header.type = MessageType.resyncRequired.code then none
  else if message.isLive then last.map fun _ => message.header.sequence
  else last

def reachedSequence (messages : List Message) : Option UInt64 := messages.foldl followSequence none

/-- The sequence that messages reach, one at a time. -/
theorem reachedSequence_append (messages : List Message) (message : Message) :
    reachedSequence (messages ++ [message]) = followSequence (reachedSequence messages) message := by
  simp [reachedSequence]

/-- A message may come next: a live one advances what was reached, and a subscription ends no other
one. -/
def MayFollow (last : Option UInt64) (message : Message) : Prop :=
  (message.isLive = true → ∀ previous, last = some previous →
      Advances previous message.header.sequence) ∧
    (message.header.type = MessageType.subscribed.code → last = none)

/-- Every message of a stream may come where it comes. -/
def Continuous (messages : List Message) : Prop :=
  ∀ past message, past ++ [message] <+: messages → MayFollow (reachedSequence past) message

namespace Continuous

variable {messages : List Message}

/-- One more message that may follow continues the messages. -/
theorem append {message : Message} (h : Continuous messages)
    (hmessage : MayFollow (reachedSequence messages) message) :
    Continuous (messages ++ [message]) := by
  intro past other hpast
  rcases List.prefix_concat_iff.mp hpast with heq | hold
  · obtain ⟨rfl, hlast⟩ := List.append_inj' heq rfl
    rwa [List.singleton_inj.mp hlast]
  · exact h past other hold

/-- From a subscription on, the sequences advance until `RESYNC_REQUIRED`. -/
theorem stretch (h : Continuous messages) {past stretch : List Message} {subscribed : Message}
    (hpast : past ++ subscribed :: stretch <+: messages)
    (hsubscribed : subscribed.header.type = MessageType.subscribed.code)
    (hstretch : ∀ message ∈ stretch, message.header.type ≠ MessageType.resyncRequired.code) :
    List.IsChain Advances (subscribed.header.sequence :: liveSequences stretch) ∧
      reachedSequence (past ++ subscribed :: stretch) =
        (subscribed.header.sequence :: liveSequences stretch).getLast? := by
  induction stretch using List.reverseRecOn with
  | nil =>
    refine ⟨List.isChain_singleton _, ?_⟩
    rw [reachedSequence_append, followSequence, if_pos hsubscribed]
    rfl
  | append_singleton stretch message ih =>
    have hsplit : past ++ subscribed :: (stretch ++ [message]) =
        (past ++ subscribed :: stretch) ++ [message] := by simp
    rw [hsplit] at hpast ⊢
    obtain ⟨hchain, hreached⟩ := ih ((List.prefix_append _ _).trans hpast)
      fun other hother => hstretch other (List.mem_append_left _ hother)
    obtain ⟨hlive, honce⟩ := h _ message hpast
    have hresync := hstretch message (by simp)
    have hnot : message.header.type ≠ MessageType.subscribed.code := by
      intro htype
      rw [honce htype, List.getLast?_cons] at hreached
      contradiction
    rw [reachedSequence_append, followSequence, if_neg hnot, if_neg hresync, hreached]
    cases hmessage : message.isLive with
    | false => simpa [liveSequences, hmessage] using hchain
    | true =>
      have hsequences : liveSequences (stretch ++ [message]) =
          liveSequences stretch ++ [message.header.sequence] := by
        simp [liveSequences, hmessage]
      rw [hsequences, ← List.cons_append]
      refine ⟨hchain.append (List.isChain_singleton _) ?_, ?_⟩
      · intro previous hprevious sequence hsequence
        obtain rfl : message.header.sequence = sequence := by simpa using hsequence
        exact hlive hmessage previous (hreached.trans hprevious)
      · rw [List.getLast?_concat, List.getLast?_cons]
        rfl

end Continuous

section Losses

/-- The entry tells the session about a loss, or starts it over. -/
def LogEntry.announcesLoss : LogEntry cat → Bool
  | .queued message _ => decide (message.header.type = MessageType.resyncRequired.code)
  | .snapshotBegun _ => true
  | _ => false

/-- A loss is pending from a dropped message to its announcement. -/
def noteLoss (pending : Bool) : LogEntry cat → Bool
  | .dropped _ => true
  | entry => pending && !entry.announcesLoss

def lossPending (log : List (LogEntry cat)) : Bool := log.foldl noteLoss false

/-- Whether a loss is pending, one entry at a time. -/
theorem lossPending_append (log : List (LogEntry cat)) (entry : LogEntry cat) :
    lossPending (log ++ [entry]) = noteLoss (lossPending log) entry := by
  simp [lossPending]

/-- No live message was queued while a loss was pending. -/
def Announced (log : List (LogEntry cat)) : Prop :=
  ∀ past message canonical, past ++ [LogEntry.queued message canonical] <+: log →
    message.isLive = true → lossPending past = false

/-- An entry that is no live message behind a loss keeps every loss announced. -/
theorem Announced.append {log : List (LogEntry cat)} {entry : LogEntry cat} (h : Announced log)
    (hentry : ∀ message canonical, entry = .queued message canonical → message.isLive = true →
      lossPending log = false) : Announced (log ++ [entry]) := by
  intro past message canonical hpast hlive
  rcases List.prefix_concat_iff.mp hpast with heq | hold
  · obtain ⟨rfl, hlast⟩ := List.append_inj' heq rfl
    exact hentry message canonical (List.singleton_inj.mp hlast).symm hlive
  · exact h past message canonical hold hlive

/-- A loss that is no longer pending was announced. -/
theorem exists_announcesLoss {past between : List (LogEntry cat)} {type : MessageType}
    (h : lossPending (past ++ .dropped type :: between) = false) :
    ∃ entry ∈ between, entry.announcesLoss = true := by
  induction between using List.reverseRecOn with
  | nil =>
    rw [lossPending_append] at h
    contradiction
  | append_singleton between entry ih =>
    have hsplit : past ++ .dropped type :: (between ++ [entry]) =
        (past ++ .dropped type :: between) ++ [entry] := by simp
    rw [hsplit, lossPending_append] at h
    cases hannounces : entry.announcesLoss with
    | true => exact ⟨entry, by simp, hannounces⟩
    | false =>
      have hbefore : lossPending (past ++ .dropped type :: between) = false := by
        cases entry with
        | dropped other => contradiction
        | queued message canonical => simpa [noteLoss, hannounces] using h
        | snapshotBegun canonical => contradiction
        | roundBegun frames signals => simpa [noteLoss, hannounces] using h
      obtain ⟨other, hother, hfound⟩ := ih hbefore
      exact ⟨other, List.mem_append_left _ hother, hfound⟩

end Losses

end Roadcast
