import CameraRelay.Proofs.Broker.Order
import CameraRelay.Proofs.Relay.Parting
import CameraRelay.Proofs.Session.Order

/-!
# No order shows

Sessions, subscribers and grants are kept by number or by name, and nothing promises in which order
they are come upon. In a relay that runs it makes no difference. Main statement:
`order_unobservable`.
-/

namespace CameraRelay

namespace Relay

theorem mailboxes_distinct (settings : RelaySettings) (actions : List Action) {session : Session}
    (mem : session ∈ ((new settings).run actions).broker.roster.sessions) :
    (session.subscribers.map (·.mailbox)).Nodup := by
  have sound : Sound Own ((new settings).run actions).broker.lives :=
    sound_run (sound_new settings) (.new settings) actions
  exact distinct_of_thrives (sound.live session mem)

/-- In every state of every run, and for any two orders in which the sessions of a client that
leaves, its grants, the sessions of a broker that closes, or the subscribers of a session are come
upon: the broker is the same afterwards, but for the order in which the sessions that ended are
remembered; so are all that was delivered and all numbers that are returned. The order that the
lists have is one of these. -/
theorem order_unobservable (settings : RelaySettings) (actions : List Action) :
    let broker := ((new settings).run actions).broker
    (∀ client,
      (broker.disconnectIn client (.listed broker client)).1 = broker.disconnect client ∧
      ∀ first second : broker.Leaving client,
        Broker.Matches (broker.disconnectIn client first).1
          (broker.disconnectIn client second).1 ∧
        (broker.disconnectIn client first).2 = (broker.disconnectIn client second).2) ∧
    ((broker.closeIn (.listed broker)).1 = broker.close ∧
      ∀ first second : broker.Closing,
        Broker.Matches (broker.closeIn first).1 (broker.closeIn second).1 ∧
        (broker.closeIn first).2 = (broker.closeIn second).2) ∧
    (∀ client,
      broker.admission.cancelRequesterIn client (.listed broker.admission client) =
        broker.admission.cancelRequester client ∧
      ∀ first second : broker.admission.Revoking client,
        broker.admission.cancelRequesterIn client first =
          broker.admission.cancelRequesterIn client second) ∧
    ∀ session ∈ broker.roster.sessions,
      (∀ frame,
        session.broadcastIn (.listed session) broker.mailboxes frame =
          session.broadcast broker.mailboxes frame ∧
        ∀ first second : session.Calling,
          let one := session.broadcastIn first broker.mailboxes frame
          let two := session.broadcastIn second broker.mailboxes frame
          one.1 = two.1 ∧ one.2.1 = two.2.1 ∧ one.2.2.delivered = two.2.2.delivered ∧
            one.2.2.dropped = two.2.2.dropped ∧ one.2.2.failed.Perm two.2.2.failed) ∧
      ∀ event,
        session.notifyAllIn (.listed session) broker.mailboxes event =
          session.notifyAll broker.mailboxes event ∧
        ∀ first second : session.Calling,
          session.notifyAllIn first broker.mailboxes event =
            session.notifyAllIn second broker.mailboxes event := by
  intro broker
  have tidy : broker.Tidy := tidy_run settings actions
  obtain ⟨chronicle, faithful⟩ := tidy.balanced.accounted
  refine ⟨fun client => ?leaves, ?closes, fun client => ?cancels, fun session mem => ?tells⟩
  case leaves =>
    exact ⟨broker.disconnectIn_listed client, fun first second =>
      Broker.disconnectIn_matches tidy first second⟩
  case closes =>
    exact ⟨broker.closeIn_listed, fun first second =>
      Broker.closeIn_matches tidy.balanced.devices first second⟩
  case cancels =>
    exact ⟨broker.admission.cancelRequesterIn_listed client, fun first second =>
      Admission.cancelRequesterIn_congr faithful rfl first second⟩
  case tells =>
    have distinct := mailboxes_distinct settings actions mem
    refine ⟨fun frame => ⟨session.broadcastIn_listed _ _, fun first second => ?_⟩,
      fun event => ⟨session.notifyAllIn_listed _ _, fun first second => ?_⟩⟩
    · obtain ⟨same, boxes, outcome⟩ :=
        Session.broadcastIn_congr distinct first second broker.mailboxes frame
      exact ⟨same, boxes, outcome.delivered, outcome.dropped, outcome.failed⟩
    · exact Session.notifyAllIn_congr distinct first second broker.mailboxes event

end Relay

end CameraRelay
