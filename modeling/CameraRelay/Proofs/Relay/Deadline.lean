import CameraRelay.Proofs.Broker.Answers
import CameraRelay.Proofs.Relay.Attended

/-!
# The deadline and the settlement

A request that waits is in line or was settled, never both. If it was settled, its second step does
the same whether the settlement or the deadline woke it; if not, the deadline takes its entry out of
the line and nothing else. Main statement: `deadline_race`.
-/

namespace CameraRelay

namespace Admission

variable {admission : Admission}

theorem expire_of_split {ahead behind : List Entry} {entry : Entry}
    (split : admission.queue = ahead ++ entry :: behind) (once : admission.line.Nodup) :
    admission.expire entry.ticket =
      ({ admission with
          queue := ahead ++ behind
          counters.timedOut := admission.counters.timedOut + 1 }, true) := by
  have there : (admission.queue.any fun e => e.ticket == entry.ticket) = true := by simp [split]
  rw [line, split, List.map_append, List.map_cons, List.nodup_append, List.nodup_cons] at once
  obtain ⟨_, ⟨later, _⟩, earlier⟩ := once
  have ahead_kept : ahead.filter (fun e => e.ticket != entry.ticket) = ahead := by
    refine List.filter_eq_self.mpr fun e mem => ?_
    simpa using earlier e.ticket (List.mem_map_of_mem mem) entry.ticket (List.mem_cons_self ..)
  have behind_kept : behind.filter (fun e => e.ticket != entry.ticket) = behind := by
    refine List.filter_eq_self.mpr fun e mem => ?_
    have differs : e.ticket ≠ entry.ticket := fun same => later (same ▸ List.mem_map_of_mem mem)
    simpa using differs
  have kept : admission.queue.filter (fun e => e.ticket != entry.ticket) = ahead ++ behind := by
    rw [split, List.filter_append, List.filter_cons_of_neg (by simp), ahead_kept, behind_kept]
  simp only [expire, there, if_true, kept]

theorem abandon_of_unsettled {ticket : TicketId} (untold : admission.settlement? ticket = none) :
    admission.abandon ticket =
      { admission with waiters := admission.waiters.filter (· != ticket) } := by
  have kept : admission.settlements.filter (fun s => s.1 != ticket) = admission.settlements := by
    refine List.filter_eq_self.mpr fun s mem => ?_
    have differs := List.lookup_eq_none_iff.mp untold s mem
    simp only [bne_iff_ne, ne_eq]
    intro same
    simp [same] at differs
  simp only [abandon, kept]

end Admission

namespace Broker

variable {broker : Broker} {ticket : TicketId}

theorem resume_of_gone (gone : ticket ∉ broker.admission.line) (subscriber : Subscriber)
    (device : Device) (locator : String) (fault : Option SystemFault) :
    broker.resume subscriber device locator fault ticket .settled =
      broker.resume subscriber device locator fault ticket .deadline := by
  simp only [resume, wake_of_gone gone]

theorem resume_of_expiry {ahead behind : List Entry} {entry : Entry}
    (split : broker.admission.queue = ahead ++ entry :: behind)
    (once : broker.admission.line.Nodup)
    (untold : broker.admission.settlement? entry.ticket = none) (subscriber : Subscriber)
    (device : Device) (locator : String) (fault : Option SystemFault) :
    broker.resume subscriber device locator fault entry.ticket .deadline =
      ({ broker with
          admission :=
            { broker.admission with
              queue := ahead ++ behind
              waiters := broker.admission.waiters.filter (· != entry.ticket)
              counters.timedOut := broker.admission.counters.timedOut + 1 }
          mailboxes :=
            (broker.mailboxes.deliver subscriber
              (.error (some device) (Failure.admissionTimeout device).clientText)).1 },
        .error (.admissionTimeout device)) := by
  have waits : entry.ticket ∈ broker.admission.line := by simp [Admission.line, split]
  let shorter := { broker.admission with
    queue := ahead ++ behind
    counters.timedOut := broker.admission.counters.timedOut + 1 }
  have expired : (broker.admission.expire entry.ticket).1 = shorter := by
    rw [Admission.expire_of_split split once]
  have left : shorter.abandon entry.ticket =
      { shorter with waiters := shorter.waiters.filter (· != entry.ticket) } :=
    Admission.abandon_of_unsettled untold
  simp only [resume, wake_of_line waits, expired, refuse, deliver, left]
  rfl

end Broker

namespace Relay

variable {relay : Relay} {number : Nat} {request : Request} {locator : String} {ticket : TicketId}

theorem wake_of_gone (gone : ticket ∉ relay.broker.admission.line) (fault : Option SystemFault) :
    relay.wake number request locator ticket .settled fault =
      relay.wake number request locator ticket .deadline fault := by
  simp only [wake, Broker.resume_of_gone gone]

theorem step_of_told (found : relay.request? number = some request)
    (stage : request.stage = .waiting locator ticket)
    (told : relay.broker.admission.settlement? ticket ≠ none) (cause : Broker.Wake)
    (fault : Option SystemFault) :
    relay.step (.wake number cause fault) =
      relay.wake number request locator ticket cause fault := by
  have due : ¬ (cause = .settled && (relay.broker.admission.settlement? ticket).isNone) = true := by
    simp [told]
  simp only [step, found, stage]
  rw [if_neg due]

/-- In every state of every run. A request that waits is in line or was settled, and not both. If it
was settled, its second step does the same whatever woke it. If it was not, the deadline takes its
own entry out of the line, offers its client one error and changes nothing else. A request that is no
longer in line at its deadline finds a settlement. -/
theorem deadline_race (settings : RelaySettings) (actions : List Action) (number : Nat)
    (fault : Option SystemFault) (request : Request) (locator : String) (ticket : TicketId)
    (found : ((new settings).run actions).request? number = some request)
    (stage : request.stage = .waiting locator ticket) :
    let relay := (new settings).run actions
    let broker := relay.broker
    let woken := broker.resume request.subscriber request.device locator fault ticket
    (broker.admission.settlement? ticket = none ↔ ticket ∈ broker.admission.line) ∧
    (broker.admission.settlement? ticket ≠ none →
      woken .settled = woken .deadline ∧
      relay.step (.wake number .settled fault) = relay.step (.wake number .deadline fault)) ∧
    (broker.admission.settlement? ticket = none →
      ∃ ahead entry behind, broker.admission.queue = ahead ++ entry :: behind ∧
        entry.ticket = ticket ∧
        woken .deadline =
          ({ broker with
              admission :=
                { broker.admission with
                  queue := ahead ++ behind
                  waiters := broker.admission.waiters.filter (· != ticket)
                  counters.timedOut := broker.admission.counters.timedOut + 1 }
              mailboxes :=
                (broker.mailboxes.deliver request.subscriber
                  (.error (some request.device)
                    (Failure.admissionTimeout request.device).clientText)).1 },
            .error (.admissionTimeout request.device))) ∧
    (∀ after, broker.admission.expire ticket = (after, false) →
      (after.poll ticket).2 ≠ none) := by
  intro relay broker woken
  have waits : relay.Waits number ticket := ⟨request, locator, found, stage⟩
  have attended : broker.admission.Attended ticket :=
    attended_new settings actions number ticket waits
  have inLine := attended.unsettled_iff
  refine ⟨inLine, fun told => ?_, fun untold => ?_, fun after expired => ?_⟩
  · have gone : ticket ∉ broker.admission.line := fun line => told (inLine.mpr line)
    refine ⟨Broker.resume_of_gone gone .., ?_⟩
    rw [step_of_told found stage told, step_of_told found stage told]
    exact wake_of_gone gone fault
  · obtain ⟨entry, mem, rfl⟩ := List.mem_map.mp (inLine.mp untold)
    obtain ⟨ahead, behind, split⟩ := List.append_of_mem mem
    obtain ⟨chronicle, _, faithful, _⟩ := attended
    have once : broker.admission.line.Nodup := faithful.sorted.imp Nat.ne_of_lt
    exact ⟨ahead, entry, behind, split, rfl, Broker.resume_of_expiry split once untold ..⟩
  · have gone : ticket ∉ broker.admission.line := by
      intro line
      have found := Admission.expire_of_line line
      rw [expired] at found
      cases found
    rw [Admission.expire_of_gone gone] at expired
    obtain rfl : broker.admission = after := congrArg Prod.fst expired
    exact attended.settled gone

/-- One slot and two requests in line for it; it is granted to the first. -/
def racing : List Action :=
  [.register ⟨"cam-1"⟩ { locator := "rtsp://127.0.0.1:554/cam-1" },
   .register ⟨"cam-2"⟩ { locator := "rtsp://127.0.0.1:554/cam-2" },
   .register ⟨"cam-3"⟩ { locator := "rtsp://127.0.0.1:554/cam-3" },
   .subscribe, .subscribe, .subscribe,
   .ask 1 ⟨"cam-1"⟩, .resolve 1, .enter 1 none, .ask 2 ⟨"cam-2"⟩, .resolve 2, .enter 2 none,
   .ask 3 ⟨"cam-3"⟩, .resolve 3, .enter 3 none, .stop 1 ⟨"cam-1"⟩]

theorem deadline_race_racing :
    let relay := (new { maxStreams := 1 }).run racing
    let granted := relay.broker.resume (handle 2) ⟨"cam-2"⟩ "rtsp://127.0.0.1:554/cam-2" none 1
    let late := relay.broker.resume (handle 3) ⟨"cam-3"⟩ "rtsp://127.0.0.1:554/cam-3" none 2
    relay.broker.admission.settlement? 1 = some .granted ∧
      granted .settled = granted .deadline ∧
      relay.broker.admission.queue.map (·.ticket) = [2] ∧
      (late .deadline).1.admission.queue = [] ∧
      (late .deadline).2 = .error (.admissionTimeout ⟨"cam-3"⟩) := by
  intro relay granted late
  obtain ⟨_, settled, _, _⟩ := deadline_race { maxStreams := 1 } racing 2 none
    { subscriber := handle 2, device := ⟨"cam-2"⟩,
      stage := .waiting "rtsp://127.0.0.1:554/cam-2" 1 } "rtsp://127.0.0.1:554/cam-2" 1 rfl rfl
  obtain ⟨_, _, expired, _⟩ := deadline_race { maxStreams := 1 } racing 3 none
    { subscriber := handle 3, device := ⟨"cam-3"⟩,
      stage := .waiting "rtsp://127.0.0.1:554/cam-3" 2 } "rtsp://127.0.0.1:554/cam-3" 2 rfl rfl
  have told : relay.broker.admission.settlement? 1 = some .granted := by decide
  have line : relay.broker.admission.queue.map (·.ticket) = [2] := by decide
  obtain ⟨ahead, entry, behind, split, _, same⟩ := expired (by decide)
  have alone : ahead ++ behind = [] := by
    have length := congrArg List.length line
    rw [List.length_map, split, List.length_append, List.length_cons] at length
    refine List.eq_nil_of_length_eq_zero ?_
    rw [List.length_append]
    exact Nat.succ.inj length
  refine ⟨told, (settled (by decide)).1, line, ?_, ?_⟩
  · exact (congrArg (·.1.admission.queue) same).trans alone
  · exact congrArg Prod.snd same

end Relay

end CameraRelay
