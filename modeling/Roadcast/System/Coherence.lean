import Roadcast.Daemon.Accounting
import Roadcast.System.Session

/-!
# Two state machines at the same step

`Coherent` relates the session record of the daemon to the SDK that has received everything queued
so far. It lists the steps of the protocol; each fixes where the SDK waits, which of its requests the
daemon has not handled, the flags of the session, and what the arrays of the SDK hold.

Frames are compared up to a relation `R`, so that one development serves for the values, for the
timestamps and for the protocol alone. A round and a distribution leave out the frames whose state
and bytes did not change; `Keeps` says that the relation does not notice. Update batches are
addressed by CAN ID, so a relation that says anything needs CAN IDs to be distinct.
-/

namespace Roadcast

open DeltaSync Relation

variable {cat : Catalog}

/-- What a comparison of frames must satisfy for update batches to keep it. -/
structure Comparison (cat : Catalog) (R : Frame → Frame → Prop) : Prop where
  refl : ∀ a, R a a
  addressed : Function.Injective cat.canIds ∨ ∀ a b, R a b

/-- Leaving out a frame whose state and bytes are those of the old one is no loss. -/
def Keeps (R : Frame → Frame → Prop) (new old : Fin cat.frameCount → Frame) : Prop :=
  ∀ i a, frameDiffers (new i) (old i) = false → R a (old i) → R a (new i)

/-- Frames that stay keep every comparison. -/
theorem Keeps.refl (R : Frame → Frame → Prop) (frames : Fin cat.frameCount → Frame) :
    Keeps R frames frames :=
  fun _ _ _ h => h

/-- A batch takes the frames that it lists off what is still to be sent. -/
theorem Comparison.send {R : Frame → Frame → Prop} (h : Comparison cat R)
    {piece rest : List (Fin cat.frameCount)} {new replica replica' : Fin cat.frameCount → Frame}
    (htracks : Tracks (fun i a => R a (new i)) replica (piece ++ rest))
    (hoverlay : Function.Injective cat.canIds → replica' = overlay piece new replica) :
    Tracks (fun i a => R a (new i)) replica' rest := by
  rcases h.addressed with hinjective | hall
  · rw [hoverlay hinjective]
    exact htracks.send fun i _ => h.refl (new i)
  · exact fun i => Or.inr (hall _ _)

/-- No records are being sent, and no `RESYNC_REQUIRED` is due. -/
structure Quiet (client : Client cat) : Prop where
  subscribed : client.subscribed = false
  catchup : client.catchupActive = false
  snapshot : client.snapshotActive = false
  resync : client.needsResync = true → client.resyncQueued = true

/-- A session between the first page of its snapshot and its subscription. -/
structure Synchronizing (client : Client cat) : Prop where
  subscribed : client.subscribed = false
  needsResync : client.needsResync = false
  resyncQueued : client.resyncQueued = false

/-- The SDK holds what was paged of the session's copy. -/
structure Copying (client : Client cat) (synchronization : Synchronization) : Prop where
  flags : Synchronizing client
  catchup : client.catchupActive = false
  copy : CopySound client
  sampleSequence : synchronization.sampleSequence = client.snapshotSampleSequence
  changeSequence : synchronization.changeSequence = client.snapshotChangeSequence
  timestampNs : synchronization.sampleTimestampNs = client.snapshotTimestampNs
  frames : CopiedBelow client.snapshotNextFrameIndex client.snapshotFrames
    (entries cat.frameCount synchronization.frames)
  signals : CopiedBelow client.snapshotNextIndex client.snapshotSignals
    (entries cat.signalCount synchronization.signals)

variable (config : Config cat) (R : Frame → Frame → Prop) (canonical : Canonical cat)

/-- What the SDK holds is the session's copy, up to what catch-up has still to send. -/
structure CatchingUp (client : Client cat) (sdk : Sdk) : Prop where
  flags : Synchronizing client
  catchup : client.catchupActive = true
  snapshot : client.snapshotActive = false
  negotiated : Sdk.Negotiated config sdk
  phase : sdk.phase = .subscription
  copy : CopySound client
  knows : KnowsCanIds cat sdk.canIdToIndex
  carries : CarriesCanIds cat sdk.synchronization.frames
  frames : Tracks (fun i a => R a (client.snapshotFrames i))
    (entries cat.frameCount sdk.synchronization.frames) client.unsentFrames
  signals : Tracks (fun i a => a = client.snapshotSignals i)
    (entries cat.signalCount sdk.synchronization.signals) client.unsentSignals

/-- What the SDK holds is the canonical state, up to what a distribution has still to send. -/
structure Streaming (client : Client cat) (sdk : Sdk) (frames : List (Fin cat.frameCount))
    (signals : List (Fin cat.signalCount)) : Prop where
  subscribed : client.subscribed = true
  needsResync : client.needsResync = false
  resyncQueued : client.resyncQueued = false
  catchup : client.catchupActive = false
  snapshot : client.snapshotActive = false
  negotiated : Sdk.Negotiated config sdk
  phase : sdk.phase = .live
  knows : KnowsCanIds cat sdk.canIdToIndex
  carries : CarriesCanIds cat sdk.cache.frames
  frames : Tracks (fun i a => R a (canonical.frames i)) (entries cat.frameCount sdk.cache.frames)
    frames
  signals : Tracks (fun i a => a = canonical.signals i)
    (entries cat.signalCount sdk.cache.signals) signals

/-- A message was dropped and the SDK has not been told yet. -/
structure Lost (client : Client cat) (sdk : Sdk) : Prop where
  subscribed : client.subscribed = false
  needsResync : client.needsResync = true
  resyncQueued : client.resyncQueued = false
  catchup : client.catchupActive = false
  snapshot : client.snapshotActive = false
  negotiated : Sdk.Negotiated config sdk
  phase : sdk.phase = .live

/-- The steps of the protocol: the session of the daemon, the number of requests it has handled, and
the SDK. -/
inductive Coherent (client : Client cat) (handled : ℕ) (sdk : Sdk) : Prop
  | greeting (hquiet : Quiet client) (hsdk : sdk = Sdk.connect) (hhandled : handled = 0) :
      Coherent client handled sdk
  | rejected (hquiet : Quiet client) (hphase : sdk.phase = .failed)
      (hmany : clientMaxSignals < cat.signalCount) (hout : Outstanding sdk handled []) :
      Coherent client handled sdk
  | schema (next : ℕ) (hquiet : Quiet client) (hnegotiated : Sdk.Negotiated config sdk)
      (hphase : sdk.phase = .schema next) (hnext : next < cat.signalCount)
      (hout : Outstanding sdk handled [indexRequest .getSchema next]) :
      Coherent client handled sdk
  | start (hquiet : Quiet client) (hnegotiated : Sdk.Negotiated config sdk)
      (hphase : sdk.phase = .frames 0)
      (hout : Outstanding sdk handled [indexRequest .getSnapshot 0]) :
      Coherent client handled sdk
  | frames (hcopying : Copying client sdk.synchronization)
      (hactive : client.snapshotActive = true) (hcomplete : client.snapshotFramesComplete = false)
      (hfirst : client.snapshotNextIndex = 0) (hnegotiated : Sdk.Negotiated config sdk)
      (hphase : sdk.phase = .frames client.snapshotNextFrameIndex)
      (hout : Outstanding sdk handled [indexRequest .getSnapshot client.snapshotNextFrameIndex]) :
      Coherent client handled sdk
  | signals (hcopying : Copying client sdk.synchronization)
      (hactive : client.snapshotActive = true)
      (hframes : client.snapshotNextFrameIndex = cat.frameCount)
      (hnegotiated : Sdk.Negotiated config sdk) (hknows : KnowsCanIds cat sdk.canIdToIndex)
      (hphase : sdk.phase = .signals client.snapshotNextIndex)
      (hout : Outstanding sdk handled
        [indexRequest .getSignalSnapshot client.snapshotNextIndex]) :
      Coherent client handled sdk
  | subscribing (hcopying : Copying client sdk.synchronization)
      (hactive : client.snapshotActive = false)
      (hframes : client.snapshotNextFrameIndex = cat.frameCount)
      (hsignals : client.snapshotNextIndex = cat.signalCount)
      (hnegotiated : Sdk.Negotiated config sdk) (hknows : KnowsCanIds cat sdk.canIdToIndex)
      (hphase : sdk.phase = .subscription) (hout : Outstanding sdk handled [subscribeRequest]) :
      Coherent client handled sdk
  | catching (hcatching : CatchingUp config R client sdk) (hout : Outstanding sdk handled []) :
      Coherent client handled sdk
  | live (hstreaming : Streaming config R canonical client sdk [] [])
      (hout : Outstanding sdk handled []) : Coherent client handled sdk
  | lost (hlost : Lost config client sdk) (hout : Outstanding sdk handled []) :
      Coherent client handled sdk

section Flow

variable {config R canonical} {client : Client cat} {handled : ℕ} {sdk : Sdk}
  (output : Fin (clientQueueSlots cat) → SlotPool.Slot) (pendingBytes : ℕ) (waiting reported : Bool)

/-- A session record with other output slots and other notes about waiting. -/
def Client.withFlow (client : Client cat) (output : Fin (clientQueueSlots cat) → SlotPool.Slot)
    (pendingBytes : ℕ) (waiting reported : Bool) : Client cat :=
  { client with
    output := output
    pendingBytes := pendingBytes
    catchupWaitingForCapacity := waiting
    catchupResumptionReported := reported }

/-- The protocol does not depend on the output slots. -/
theorem Coherent.withFlow (h : Coherent config R canonical client handled sdk) :
    Coherent config R canonical (client.withFlow output pendingBytes waiting reported) handled
      sdk := by
  cases h with
  | greeting hquiet hsdk hhandled => exact .greeting { hquiet with } hsdk hhandled
  | rejected hquiet hphase hmany hout => exact .rejected { hquiet with } hphase hmany hout
  | schema next hquiet hnegotiated hphase hnext hout =>
    exact .schema next { hquiet with } hnegotiated hphase hnext hout
  | start hquiet hnegotiated hphase hout => exact .start { hquiet with } hnegotiated hphase hout
  | frames hcopying hactive hcomplete hfirst hnegotiated hphase hout =>
    exact .frames { hcopying with flags := { hcopying.flags with }, copy := { hcopying.copy with } }
      hactive hcomplete hfirst hnegotiated hphase hout
  | signals hcopying hactive hframes hnegotiated hknows hphase hout =>
    exact .signals { hcopying with flags := { hcopying.flags with }, copy := { hcopying.copy with } }
      hactive hframes hnegotiated hknows hphase hout
  | subscribing hcopying hactive hframes hsignals hnegotiated hknows hphase hout =>
    exact .subscribing
      { hcopying with flags := { hcopying.flags with }, copy := { hcopying.copy with } }
      hactive hframes hsignals hnegotiated hknows hphase hout
  | catching hcatching hout =>
    exact .catching
      { hcatching with flags := { hcatching.flags with }, copy := { hcatching.copy with } } hout
  | live hstreaming hout => exact .live { hstreaming with } hout
  | lost hlost hout => exact .lost { hlost with } hout

end Flow

end Roadcast
