import CameraRelay.Proofs.Broker.Roll

/-!
# What a report of a decoder does

A report about a session that is not the current one of its device does nothing at all. One about
the current session lets it go on or ends it, tells its subscribers of at most one event, and gives a
slot back only if it ends the session.
-/

namespace CameraRelay

namespace Mailboxes

variable (boxes : Mailboxes)

theorem get?_deliver_of_ne {number : Nat} {subscriber : Subscriber}
    (apart : number ≠ subscriber.mailbox) (event : Event) :
    (boxes.deliver subscriber event).1.get? number = boxes.get? number := by
  simp only [deliver]
  split
  · exact get?_set_of_ne boxes apart _
  · rfl

theorem get?_deliver_or (subscriber : Subscriber) (event : Event) :
    (boxes.deliver subscriber event).1.get? subscriber.mailbox = boxes.get? subscriber.mailbox ∨
      ∃ box, boxes.get? subscriber.mailbox = some box ∧
        (boxes.deliver subscriber event).1.get? subscriber.mailbox =
          some { box with queue := box.queue ++ [event] } := by
  simp only [deliver]
  split
  · next box found =>
    rw [get?_set, found]
    rw [Mailbox.deliver_eq]
    split
    · exact .inr ⟨box, rfl, rfl⟩
    · exact .inl rfl
  · exact .inl rfl

end Mailboxes

namespace Session

/-- A mailbox got the event at its end if it is a subscriber's, and is as it was otherwise. -/
theorem get?_fanOut {event : Event} {subscribers : List Subscriber} (number : Nat)
    (boxes : Mailboxes) (distinct : (subscribers.map (·.mailbox)).Nodup) :
    (fanOut event subscribers boxes).1.get? number = boxes.get? number ∨
      ∃ subscriber ∈ subscribers, subscriber.mailbox = number ∧
        ∃ box, boxes.get? number = some box ∧
          (fanOut event subscribers boxes).1.get? number =
            some { box with queue := box.queue ++ [event] } := by
  induction subscribers generalizing boxes with
  | nil => exact .inl rfl
  | cons subscriber rest ih =>
    rw [fanOut_cons]
    obtain ⟨first, distinct⟩ := List.nodup_cons.mp distinct
    rcases ih (boxes.deliver subscriber event).1 distinct with
      same | ⟨other, mem, rfl, box, found, put⟩
    · rw [same]
      by_cases here : number = subscriber.mailbox
      · obtain rfl := here
        refine (boxes.get?_deliver_or subscriber event).imp_right fun put => ?_
        exact ⟨subscriber, List.mem_cons_self, rfl, put⟩
      · exact .inl (boxes.get?_deliver_of_ne here event)
    · -- The mailbox of another subscriber is not the one that came first.
      have apart : other.mailbox ≠ subscriber.mailbox := fun same =>
        first (List.mem_map.mpr ⟨other, mem, same⟩)
      rw [boxes.get?_deliver_of_ne apart] at found
      exact .inr ⟨other, List.mem_cons_of_mem _ mem, rfl, box, found, put⟩

/-- The subscribers of a session were told of at most one event, which names its device. -/
def Posts (session : Session) (before after : Mailboxes) : Prop :=
  after = before ∨ ∃ event, event.device? = some session.device ∧
    after = (fanOut event session.subscribers before).1

theorem posts_concluded (session : Session) (broker : Broker) (reason : Teardown) :
    session.Posts broker.mailboxes (broker.conclude session reason).1.mailboxes := by
  cases reason with
  | stop => exact .inl rfl
  | exit exit =>
    cases exit with
    | stopped => exact .inl rfl
    | exited status => exact .inr ⟨.ended session.device, rfl, rfl⟩
    | failed message =>
      exact .inr ⟨.error (some session.device) ("stream error: " ++ message), rfl, rfl⟩
  | spawnFailed message => exact .inr ⟨.error (some session.device) message, rfl, rfl⟩

end Session

namespace Roster

variable {roster : Roster} {device : Device}

theorem remove_remove : (roster.remove device).remove device = roster.remove device := by
  simp [remove, List.filter_filter]

theorem get?_remove : (roster.remove device).get? device = none := by
  simp [get?, remove]

theorem get?_remove_of_ne {other : Device} (apart : other ≠ device) :
    (roster.remove device).get? other = roster.get? other := by
  have kept (s : Session) : decide ((s.device != device) = true ∧ (s.device == other) = true) =
      (s.device == other) := by
    by_cases here : s.device = other <;> simp [here, apart]
  simp only [get?, remove, List.find?_filter, kept]

end Roster

namespace Broker

/-- A report lets its session go on, or ends it. -/
inductive Heeds (broker : Broker) (session : Session) (report : Report) : Broker × Bool → Prop
  | goOn (after : Session) (mailboxes : Mailboxes) (delivered dropped : Nat)
    (inner : ∀ exit, report ≠ .exit exit) (id : after.id = session.id)
    (device : after.device = session.device)
    (posts : session.Posts broker.mailboxes mailboxes) :
    Heeds broker session report
      ({ broker with
          roster := broker.roster.put after
          mailboxes
          framesDelivered := delivered
          framesDropped := dropped }, true)
  | leave (last : Session) (reason : Teardown) (mailboxes : Mailboxes) (delivered dropped : Nat)
    (ends : report.Ends reason) (id : last.id = session.id)
    (posts : session.Posts broker.mailboxes mailboxes) :
    Heeds broker session report
      ({ broker with
          roster := broker.roster.remove session.device
          admission := broker.admission.release.1
          mailboxes
          departed := last.concluded reason :: broker.departed
          framesDelivered := delivered
          framesDropped := dropped }, false)

variable {broker : Broker} {device : Device} {id : Nat}

theorem report_of_stale (stale : broker.roster.current? device id = none) (report : Report) :
    broker.report device id report = (broker, false) := by
  cases report <;> simp only [Broker.report, recordBytes, deliverFrame, decoderExited, stale]

theorem heeds_report {session : Session} (current : broker.roster.current? device id = some session)
    (report : Report) : broker.Heeds session report (broker.report device id report) := by
  have found := Roster.get?_of_current? current
  obtain rfl : session.device = device := (Roster.mem_of_get? found).2
  cases report with
  | bytes count =>
    simp only [Broker.report, recordBytes, current]
    exact .goOn _ _ _ _ (fun _ eq => by cases eq) rfl rfl (.inl rfl)
  | frame frame =>
    have posts : session.Posts broker.mailboxes (session.broadcast broker.mailboxes frame).2.1 :=
      .inr ⟨.frame session.device frame, rfl, rfl⟩
    let after := (session.broadcast broker.mailboxes frame).1
    have now : (broker.shown session frame).roster.get? session.device = some after := by
      show (broker.roster.put after).get? session.device = some after
      rw [Roster.get?_put, found, Option.map_some]
      exact congrArg some (if_pos rfl)
    have gone : (broker.roster.put after).remove session.device =
        broker.roster.remove session.device := Roster.remove_put rfl
    simp only [Broker.report, deliverFrame, current]
    split
    · have left := teardown_eq now .stop
      simp only [shown] at left
      rw [left, gone]
      exact .leave after .stop _ _ _ rfl rfl posts
    · exact .goOn after _ _ _ (fun _ eq => by cases eq) rfl rfl posts
  | exit exit =>
    simp only [Broker.report, decoderExited, current, teardown_eq found]
    exact .leave session (.exit exit) _ _ _ rfl rfl (session.posts_concluded broker (.exit exit))

namespace Heeds

variable {session : Session} {report : Report} {result : Broker × Bool}

theorem remove (h : broker.Heeds session report result) :
    result.1.roster.remove session.device = broker.roster.remove session.device := by
  cases h with
  | goOn after _ _ _ _ _ there => exact Roster.remove_put there
  | leave => exact Roster.remove_remove

theorem posts (h : broker.Heeds session report result) :
    session.Posts broker.mailboxes result.1.mailboxes := by
  cases h with
  | goOn => assumption
  | leave => assumption

/-- The session goes on under its number and no slot changes hands, or it is gone and its slot was
given back. -/
theorem goes_or_leaves (h : broker.Heeds session report result)
    (found : broker.roster.get? session.device = some session) :
    (∃ after, result.1.roster.get? session.device = some after ∧ after.id = session.id ∧
      result.1.admission = broker.admission ∧ result.2 = true) ∨
    (result.1.roster.get? session.device = none ∧
      result.1.admission = broker.admission.release.1 ∧ result.2 = false) := by
  cases h with
  | goOn after mailboxes delivered dropped inner id there posts =>
    refine .inl ⟨after, ?_, id, rfl, rfl⟩
    show (broker.roster.put after).get? session.device = some after
    rw [Roster.get?_put, found, Option.map_some, if_pos there.symm]
  | leave => exact .inr ⟨Roster.get?_remove, rfl, rfl⟩

/-- At most the session itself leaves. -/
theorem departed (h : broker.Heeds session report result) :
    result.1.departed = broker.departed ∨
      ∃ (last : Session) (reason : Teardown), report.Ends reason ∧ last.id = session.id ∧
        result.1.departed = last.concluded reason :: broker.departed := by
  cases h with
  | goOn => exact .inl rfl
  | leave last reason _ _ _ ends id => exact .inr ⟨last, reason, ends, id, rfl⟩

end Heeds

/-- Once a report was answered with no, the session is not the current one of its device. -/
theorem current?_of_unwanted {report : Report}
    (unwanted : (broker.report device id report).2 = false) :
    (broker.report device id report).1.roster.current? device id = none := by
  cases current : broker.roster.current? device id with
  | none => rwa [report_of_stale current]
  | some session =>
    have found := Roster.get?_of_current? current
    obtain rfl : session.device = device := (Roster.mem_of_get? found).2
    rcases (heeds_report current report).goes_or_leaves found with
      ⟨_, _, _, _, wanted⟩ | ⟨gone, _, _⟩
    · rw [wanted] at unwanted
      cases unwanted
    · simp only [Roster.current?, gone, Option.filter_none]

end Broker

end CameraRelay
