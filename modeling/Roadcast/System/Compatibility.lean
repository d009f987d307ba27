import Roadcast.System.Lockstep

/-!
# The SDK accepts everything that the daemon sends

The daemon queues to an SDK session only messages that pass the checks of the SDK at its current
step, for every catalog with at most `CLIENT_MAX_SIGNALS` signals. The generator accepts larger
catalogs, the SDK rejects the `WELCOME` of a daemon that serves one.
-/

namespace Roadcast

open Runs

variable {cat : Catalog} {config : Config cat}

/-- The comparison that says nothing about frames. -/
theorem comparison_top (cat : Catalog) : Comparison cat fun _ _ => True :=
  ⟨fun _ => trivial, Or.inr fun _ _ => trivial⟩

/-- An SDK in step with the daemon has failed only if it rejected the catalog. -/
theorem Coherent.accepted {R : Frame → Frame → Prop} {canonical : Canonical cat}
    {client : Client cat} {handled : ℕ} {sdk : Sdk} (hsignals : cat.signalCount ≤ clientMaxSignals)
    (h : Coherent config R canonical client handled sdk) : sdk.phase ≠ .failed := by
  intro hfailed
  cases h with
  | greeting hquiet hsdk hhandled =>
    rw [hsdk] at hfailed
    contradiction
  | rejected hquiet hphase hmany hout => exact absurd hsignals (Nat.not_le.mpr hmany)
  | schema next hquiet hnegotiated hphase hnext hout => simp [hphase] at hfailed
  | start hquiet hnegotiated hphase hout => simp [hphase] at hfailed
  | frames hcopying hactive hcomplete hfirst hnegotiated hphase hout => simp [hphase] at hfailed
  | signals hcopying hactive hframes hnegotiated hknows hphase hout => simp [hphase] at hfailed
  | subscribing hcopying hactive hframes hsignals hnegotiated hknows hphase hout =>
    simp [hphase] at hfailed
  | catching hcatching hout => simp [hcatching.phase] at hfailed
  | live hstreaming hout => simp [hstreaming.phase] at hfailed
  | lost hlost hout => simp [hlost.phase] at hfailed

/-- In every run of the daemon with a session in SDK order, while the session is open, no check of
the SDK fails on any part of what was queued to it, if the catalog has at most `CLIENT_MAX_SIGNALS`
signals. -/
theorem run_sdk_accepts (config : Config cat) (fake : Option Bool) (tick : Tick cat)
    (events : List (Event cat)) (s : Fin maxClients) (hsignals : cat.signalCount ≤ clientMaxSignals)
    (horder : Meets (watchStep config s) (WireOrder s) (watchInit config fake tick) events)
    (hactive : ((run config fake tick events).clients s).active = true) (received : List Message)
    (hreceived : received <+: queuedMessages ((run config fake tick events).clients s).log) :
    (Sdk.after received).phase ≠ .failed := by
  obtain ⟨handled, hlockstep⟩ := run_lockstep_of_keeps (comparison_top cat)
    (fun _ _ _ _ _ _ => trivial) horder
  intro hfailed
  exact (hlockstep.coherent hactive).accepted hsignals (Sdk.after_failed hreceived hfailed)

/-- One frame with one signal more than the SDK takes. -/
def wideCatalog : Catalog :=
  bitCatalog 1 100001 (fun _ => 0x0A6) (fun _ => ⟨0, Nat.one_pos⟩)
    singleCatalog.frameCount_range (by decide) singleCatalog.canIds_le

/-- One output slot, on the wide catalog. -/
def wideConfig : Config wideCatalog := sixtyHz 1 (by decide)

/-- A session connects and sends `HELLO`. -/
def wideRun : List (Event wideCatalog) :=
  [.connection ⟨true, true, some 0, true, 0⟩,
    .request firstSession Env.idle (outgoing .hello 0 0 encodeHello)]

/-- The source is not there. -/
def wideTick : Tick wideCatalog := ⟨⟨none, none⟩, 0, 10⟩

/-- The SDK rejects the welcome of a daemon that serves the wide catalog. -/
theorem wideRun_rejected :
    Meets (watchStep wideConfig firstSession) (WireOrder firstSession)
      (watchInit wideConfig none wideTick) wideRun ∧
    ((run wideConfig none wideTick wideRun).clients firstSession).active = true ∧
    (Sdk.after (queuedMessages
      ((run wideConfig none wideTick wideRun).clients firstSession).log)).phase = .failed :=
  ⟨by decide +kernel, by decide +kernel, by decide +kernel⟩

/-- A session with a resynchronization is accepted. -/
theorem run_sdk_accepts_resync :
    (singleSession resyncRun).sdk.resynchronizations = 1 ∧
      (Sdk.after (queuedMessages (singleSession resyncRun).log)).phase ≠ .failed := by
  refine ⟨by decide +kernel, ?_⟩
  rw [singleSession]
  exact run_sdk_accepts singleConfig none (singleTick 0 10) resyncRun firstSession (by decide)
    (by decide +kernel) (by decide +kernel) _ List.prefix_rfl

end Roadcast
