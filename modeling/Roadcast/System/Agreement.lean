import Roadcast.System.Lockstep

/-!
# What a subscriber holds

A live session in SDK order that has received everything queued to it holds the states and bytes of
all canonical frames and all canonical signal records, if CAN IDs are distinct as numbers. It holds
the timestamps of the frames as well as long as no frame gets other timestamps without another state
or other bytes between the samples that are compared: frames are compared by state and bytes alone,
and the frames that do not differ are not sent.

The generator compares CAN IDs as text. Two spellings of one CAN ID give two frames with one number,
and the SDK applies the updates of both to the last of them.
-/

namespace Roadcast

open DeltaSync Runs

variable {cat : Catalog} {config : Config cat}

/-- The state, the bytes and the timestamps of a frame. -/
def SameReading (a b : Frame) : Prop :=
  FrameMatches a b ∧ a.firstObservedNs = b.firstObservedNs ∧ a.lastChangeNs = b.lastChangeNs

/-- Frames with the same CAN ID, state and bytes can be compared through updates. -/
theorem comparison_frameMatches (h : Function.Injective cat.canIds) : Comparison cat FrameMatches :=
  ⟨fun _ => ⟨rfl, rfl⟩, Or.inl h⟩

/-- So can frames with the same times. -/
theorem comparison_sameReading (h : Function.Injective cat.canIds) : Comparison cat SameReading :=
  ⟨fun _ => ⟨⟨rfl, rfl⟩, rfl, rfl⟩, Or.inl h⟩

/-- The comparison of the daemon sees every difference of state and bytes. -/
theorem keeps_frameMatches (new old : Fin cat.frameCount → Frame) : Keeps FrameMatches new old := by
  intro i a hsame ha
  exact ha.of_same hsame

/-- Frames that do not differ in state and bytes have the same timestamps. -/
def SameTimestamps (new old : Fin cat.frameCount → Frame) : Prop :=
  ∀ i, frameDiffers (new i) (old i) = false →
    (new i).firstObservedNs = (old i).firstObservedNs ∧ (new i).lastChangeNs = (old i).lastChangeNs

instance (new old : Fin cat.frameCount → Frame) : Decidable (SameTimestamps new old) :=
  inferInstanceAs (Decidable (∀ _, _ → _ ∧ _))

/-- A sample that leaves the times of unchanged frames keeps the comparison. -/
theorem SameTimestamps.keeps {new old : Fin cat.frameCount → Frame} (h : SameTimestamps new old) :
    Keeps SameReading new old := by
  intro i a hsame ha
  obtain ⟨hfirst, hlast⟩ := h i hsame
  exact ⟨keeps_frameMatches new old i a hsame ha.1, ha.2.1.trans hfirst.symm, ha.2.2.trans hlast.symm⟩

/-- A live session in SDK order holds what the comparison looks at. -/
theorem InLockstep.agrees {R : Frame → Frame → Prop} {s : Fin maxClients} {watched : Watched cat}
    (h : InLockstep config R s watched) (hlive : (watched.daemon.clients s).Live) :
    let cache := (watched.daemon.clients s).sdk.cache
    CarriesCanIds cat cache.frames ∧
      (∀ i : Fin cat.frameCount, R (cache.frames i.val) (watched.daemon.canonical.frames i)) ∧
      ∀ i : Fin cat.signalCount, cache.signals i.val = watched.daemon.canonical.signals i := by
  obtain ⟨hstreaming, -⟩ := (h.coherent hlive.1).streaming hlive
  exact ⟨hstreaming.carries, hstreaming.frames.settled, hstreaming.signals.settled⟩

/-- In every run of the daemon with a session in SDK order, on a catalog whose CAN IDs are distinct
as numbers: whenever the session is active, subscribed and needs no resynchronization, applying
everything queued to it gives the CAN IDs, states and bytes of all canonical frames and all canonical
signal records. -/
theorem run_replica_agrees (config : Config cat) (fake : Option Bool) (tick : Tick cat)
    (events : List (Event cat)) (s : Fin maxClients) (hinjective : Function.Injective cat.canIds)
    (horder : Meets (watchStep config s) (WireOrder s) (watchInit config fake tick) events)
    (hlive : ((run config fake tick events).clients s).Live) :
    let canonical := (run config fake tick events).canonical
    let cache := ((run config fake tick events).clients s).sdk.cache
    (∀ i : Fin cat.frameCount, (cache.frames i.val).canId = (canonical.frames i).canId ∧
      (cache.frames i.val).state = (canonical.frames i).state ∧
      (cache.frames i.val).data = (canonical.frames i).data) ∧
    ∀ i : Fin cat.signalCount, cache.signals i.val = canonical.signals i := by
  obtain ⟨handled, hlockstep⟩ := run_lockstep_of_keeps (comparison_frameMatches hinjective)
    keeps_frameMatches horder
  obtain ⟨hcarries, hframes, hsignals⟩ := hlockstep.agrees hlive
  refine ⟨fun i => ⟨?_, hframes i⟩, hsignals⟩
  exact (hcarries i).trans (hlockstep.sound.canonical.frames i).1.symm

/-- A session agrees after a resynchronization. -/
theorem run_replica_agrees_resync :
    (singleSession resyncRun).sdk.resynchronizations = 1 ∧
      (singleSession resyncRun).sdk.cache.signals singleSignal.val =
        (run singleConfig none (singleTick 0 10) resyncRun).canonical.signals singleSignal := by
  refine ⟨by decide +kernel, ?_⟩
  rw [singleSession]
  exact (run_replica_agrees singleConfig none (singleTick 0 10) resyncRun firstSession
    singleCatalog_canIds_injective (by decide +kernel) (by decide +kernel)).2 singleSignal

section Twins

/-- Two frames for two spellings of one CAN ID, such as `0A6` and `0a6`, and a signal of the first. -/
def twinCatalog : Catalog :=
  bitCatalog 2 1 (fun _ => 0x0A6) (fun _ => ⟨0, Nat.two_pos⟩) (by decide)
    singleCatalog.signalCount_range (by decide)

/-- The first of the two frames. -/
def twinFrame : Fin twinCatalog.frameCount := ⟨0, by decide⟩

def twinConfig : Config twinCatalog := sixtyHz 3 (by decide)

/-- A tick whose read delivers one byte for the first frame; the symbol is found only once. -/
def twinTick (byte : UInt8) (timestampNs : UInt64) : Tick twinCatalog :=
  { attempt := ⟨some fun i => decide (i = twinFrame),
      some (false, fun _ => leadingByte byte)⟩
    nowNs := 0
    timestampNs := timestampNs }

/-- A request that is answered and written. -/
def twinRequest (type : MessageType) (payload : List UInt8) : List (Event twinCatalog) :=
  [.request firstSession Env.idle (outgoing type 0 0 payload),
    .writeDone firstSession Env.idle ⟨0, by decide⟩ false]

/-- A session subscribes and receives one sample. -/
def twinRun : List (Event twinCatalog) :=
  [.connection ⟨true, true, some 0, true, 0⟩] ++ twinRequest .hello encodeHello ++
    twinRequest .getSchema (encodeIndexRequest 0) ++
    twinRequest .getSnapshot (encodeIndexRequest 0) ++
    twinRequest .getSignalSnapshot (encodeIndexRequest 0) ++ twinRequest .subscribeAll [] ++
    [.tick (twinTick 1 20), .sampleNotification fun _ => Env.idle]

/-- The new bytes of the first frame go to the second one, so the session keeps the old ones. -/
theorem twinRun_disagrees :
    Meets (watchStep twinConfig firstSession) (WireOrder firstSession)
      (watchInit twinConfig none (twinTick 0 10)) twinRun ∧
    ((run twinConfig none (twinTick 0 10) twinRun).clients firstSession).Live ∧
    (((run twinConfig none (twinTick 0 10) twinRun).clients firstSession).sdk.cache.frames
      twinFrame.val).data = zeroData ∧
    ((run twinConfig none (twinTick 0 10) twinRun).canonical.frames twinFrame).data =
      #v[1, 0, 0, 0, 0, 0, 0, 0] :=
  ⟨by decide +kernel, by decide +kernel, by decide +kernel, by decide +kernel⟩

end Twins

/-- The event makes the daemon consume the latest sample. -/
def Event.isSampleNotification : Event cat → Bool
  | .sampleNotification _ => true
  | _ => false

/-- The event hides no timestamps from a session: a round of catch-up for it begins only if the
canonical frames with the state and bytes of its copy have the timestamps of its copy, and while it is
live a sample is consumed only if the sampled frames with canonical state and bytes have the canonical
timestamps. -/
def HidesNoTimestamps (config : Config cat) (s : Fin maxClients) (watched : Watched cat)
    (event : Event cat) : Prop :=
  let canonical := watched.daemon.canonical
  let client := watched.daemon.clients s
  (BeginsRound config s watched event → SameTimestamps canonical.frames client.snapshotFrames) ∧
    (client.Live → event.isSampleNotification = true →
      SameTimestamps (samplerReadLatest watched.daemon.sampler).frames canonical.frames)

instance (config : Config cat) (s : Fin maxClients) (watched : Watched cat) (event : Event cat) :
    Decidable (HidesNoTimestamps config s watched event) :=
  inferInstanceAs (Decidable ((_ → _) ∧ (_ → _ → _)))

/-- In every such run in which no event hides timestamps from the session, what it holds has the
timestamps of all canonical frames too. -/
theorem run_timestamps_agree (config : Config cat) (fake : Option Bool) (tick : Tick cat)
    (events : List (Event cat)) (s : Fin maxClients) (hinjective : Function.Injective cat.canIds)
    (hmeets : Meets (watchStep config s)
      (fun watched event => WireOrder s watched event ∧ HidesNoTimestamps config s watched event)
      (watchInit config fake tick) events)
    (hlive : ((run config fake tick events).clients s).Live) (i : Fin cat.frameCount) :
    let canonical := (run config fake tick events).canonical
    let cache := ((run config fake tick events).clients s).sdk.cache
    (cache.frames i.val).firstObservedNs = (canonical.frames i).firstObservedNs ∧
      (cache.frames i.val).lastChangeNs = (canonical.frames i).lastChangeNs := by
  obtain ⟨handled, hlockstep⟩ := run_lockstep config fake tick events s
    (comparison_sameReading hinjective)
    (hmeets.imp fun watched event h => ⟨h.1, fun hround => (h.2.1 hround).keeps,
      fun hsession env hevent => (h.2.2 hsession (hevent ▸ rfl)).keeps⟩)
  exact ((hlockstep.agrees hlive).2.1 i).2

/-- The times agree after a resynchronization. -/
theorem run_timestamps_agree_resync :
    ((singleSession resyncRun).sdk.cache.frames singleFrame.val).lastChangeNs = 30 ∧
      ((singleSession resyncRun).sdk.cache.frames singleFrame.val).lastChangeNs =
        ((run singleConfig none (singleTick 0 10) resyncRun).canonical.frames
          singleFrame).lastChangeNs := by
  refine ⟨by decide +kernel, ?_⟩
  rw [singleSession]
  exact (run_timestamps_agree singleConfig none (singleTick 0 10) resyncRun firstSession
    singleCatalog_canIds_injective (by decide +kernel) (by decide +kernel) singleFrame).2

/-- A frame that has been observed to change. Between two notifications its byte changes and changes
back. -/
def coalescedRun : List (Event singleCatalog) :=
  singleSample 1 20 ++ singleSetup ++
    [singleRequest .subscribeAll [], singleWriteDone, .tick (singleTick 0 30),
      .tick (singleTick 1 40), .sampleNotification fun _ => Env.idle]

/-- The canonical frame has the time of the second change, and the session is told nothing. -/
theorem coalescedRun_hides :
    Meets (watchStep singleConfig firstSession) (WireOrder firstSession)
      (watchInit singleConfig none (singleTick 0 10)) coalescedRun ∧
    (singleSession coalescedRun).Live ∧
    ((singleSession coalescedRun).sdk.cache.frames singleFrame.val).lastChangeNs = 20 ∧
    ((run singleConfig none (singleTick 0 10) coalescedRun).canonical.frames
      singleFrame).lastChangeNs = 40 :=
  ⟨by decide +kernel, by decide +kernel, by decide +kernel, by decide +kernel⟩

end Roadcast
