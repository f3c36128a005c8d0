import CameraRelay.Proofs.Admission.Order
import CameraRelay.Proofs.Broker.Roll

/-!
# Sessions that are gone over

A client that leaves, and a broker that closes, go over sessions one by one; some of them end, and
each of these gives its slot to the head of the line at once. What becomes of a session depends on
that session alone, and one slot given back is like another. Main statements: `sifts_detach`,
`sifts_teardown`.
-/

namespace CameraRelay

/-- What becomes of a session while sessions are gone over: it goes on, or it is over and was this
in the end. -/
inductive Course where
  | goesOn (session : Session)
  | isOver (last : Session)

namespace Course

def next? : Course → Option Session
  | goesOn session => some session
  | isOver _ => none

def last? : Course → Option Session
  | goesOn _ => none
  | isOver last => some last

/-- A session that goes on meets what comes next. -/
def andThen (course : Course) (later : Session → Course) : Course :=
  match course with
  | goesOn session => later session
  | isOver last => isOver last

/-- Sessions that are gone over twice: those that go on, and those that are over by then. -/
theorem sessions_andThen {first later both : Session → Course} {sessions : List Session}
    (composed : ∀ session ∈ sessions, both session = (first session).andThen later) :
    let left := sessions.filterMap fun s => (first s).next?
    (left.filterMap fun s => (later s).next?) = (sessions.filterMap fun s => (both s).next?) ∧
      ((left.filterMap fun s => (later s).last?) ++
        (sessions.filterMap fun s => (first s).last?)).Perm
          (sessions.filterMap fun s => (both s).last?) := by
  induction sessions with
  | nil => exact ⟨rfl, .refl _⟩
  | cons session rest ih =>
    obtain ⟨sessions, ended⟩ := ih fun s mem => composed s (List.mem_cons_of_mem _ mem)
    have here := composed session List.mem_cons_self
    cases course : first session with
    | isOver last =>
      rw [course, andThen] at here
      simp only [List.filterMap_cons, course, here, next?, last?]
      exact ⟨sessions, List.perm_middle.trans (ended.cons last)⟩
    | goesOn next =>
      rw [course, andThen] at here
      simp only [List.filterMap_cons, course, here, next?, last?]
      cases later next with
      | goesOn after => exact ⟨congrArg (after :: ·) sessions, ended⟩
      | isOver last => exact ⟨sessions, ended.cons last⟩

theorem length_next_last (course : Session → Course) (sessions : List Session) :
    (sessions.filterMap fun s => (course s).next?).length +
      (sessions.filterMap fun s => (course s).last?).length = sessions.length := by
  induction sessions with
  | nil => rfl
  | cons session rest ih =>
    cases here : course session with
    | goesOn next =>
      have goes : (course session).next? = some next := by rw [here, next?]
      have stays : (course session).last? = none := by rw [here, last?]
      simp only [List.filterMap_cons, goes, stays, List.length_cons]
      omega
    | isOver last =>
      have goes : (course session).next? = none := by rw [here, next?]
      have stays : (course session).last? = some last := by rw [here, last?]
      simp only [List.filterMap_cons, goes, stays, List.length_cons]
      omega

/-- Sessions of which one at most does not go on as it is. -/
theorem sessions_around {course : Session → Course} {front back : List Session} {session : Session}
    (around : ∀ s ∈ front ++ back, course s = .goesOn s) :
    ((front ++ session :: back).filterMap fun s => (course s).next?) =
        front ++ (course session).next?.toList ++ back ∧
      ((front ++ session :: back).filterMap fun s => (course s).last?) =
        (course session).last?.toList := by
  have next (part : List Session) (sub : part ⊆ front ++ back) :
      (part.filterMap fun s => (course s).next?) = part := by
    have goesOn : ∀ s ∈ part, (course s).next? = some s := fun s mem => by
      rw [around s (sub mem), next?]
    rw [List.filterMap_congr goesOn, List.filterMap_some]
  have last (part : List Session) (sub : part ⊆ front ++ back) :
      (part.filterMap fun s => (course s).last?) = [] :=
    List.filterMap_eq_nil_iff.mpr fun s mem => by rw [around s (sub mem), last?]
  have ahead := List.subset_append_left front back
  have behind := List.subset_append_right front back
  simp only [List.filterMap_append, List.filterMap_cons, next front ahead, next back behind,
    last front ahead, last back behind]
  cases course session <;> simp [next?, last?]

end Course

namespace Session

variable {session : Session} {client : SubscriberId}

/-- Whether a client is the only subscriber. -/
def isOnlyOf (session : Session) (client : SubscriberId) : Bool :=
  session.subscribers.map (·.id) == [client]

/-- Somebody watches, and nobody twice. -/
structure Peopled (session : Session) : Prop where
  watched : session.subscribers ≠ []
  distinct : (session.subscribers.map (·.id)).Nodup

theorem detach_of_apart (apart : ¬ session.hasSubscriber client = true) :
    (session.detach client).1 = session := by
  have kept : session.subscribers.filter (fun s => s.id != client) = session.subscribers := by
    refine List.filter_eq_self.mpr fun s mem => ?_
    have differs : s.id ≠ client := fun same =>
      apart ((session.hasSubscriber_iff client).mpr (List.mem_map.mpr ⟨s, mem, same⟩))
    simpa using differs
  simp only [detach, kept]

theorem shared_of_apart (apart : ¬ session.hasSubscriber client = true) :
    ¬ session.isOnlyOf client = true := by
  intro only
  refine apart ((session.hasSubscriber_iff client).mpr ?_)
  rw [eq_of_beq only]
  exact List.mem_singleton.mpr rfl

theorem Peopled.isOnlyOf_iff (peopled : session.Peopled)
    (watches : session.hasSubscriber client = true) :
    session.isOnlyOf client = true ↔ (session.detach client).1.isIdle = true := by
  have others : (session.detach client).1.subscribers.map (·.id) =
      (session.subscribers.map (·.id)).filter (· != client) := by
    simp only [detach, List.filter_map, Function.comp_def]
  have idle : (session.detach client).1.isIdle = true ↔
      (session.subscribers.map (·.id)).filter (· != client) = [] := by
    rw [← others, List.map_eq_nil_iff, isIdle, List.isEmpty_iff]
  rw [idle, isOnlyOf, beq_iff_eq]
  constructor
  · intro only
    simp [only]
  · intro none
    have all : ∀ id ∈ session.subscribers.map (·.id), id = client := by
      simpa using List.filter_eq_nil_iff.mp none
    have mem := (session.hasSubscriber_iff client).mp watches
    cases ids : session.subscribers.map (·.id) with
    | nil => simp [ids] at mem
    | cons first rest =>
      have distinct := peopled.distinct
      rw [ids] at all distinct
      obtain ⟨apart, _⟩ := List.nodup_cons.mp distinct
      have here : first = client := all first (List.mem_cons_self ..)
      have alone : rest = [] := by
        refine List.eq_nil_iff_forall_not_mem.mpr fun id later => apart ?_
        rwa [here, ← all id (List.mem_cons_of_mem _ later)]
      rw [here, alone]

/-- What becomes of a session while a client leaves the sessions of some devices. -/
def parting (client : SubscriberId) (devices : List Device) (session : Session) : Course :=
  if session.device ∈ devices then
    if session.isOnlyOf client then .isOver ((session.detach client).1.concluded .stop)
    else .goesOn (session.detach client).1
  else .goesOn session

/-- What becomes of a session while the sessions of some devices are stopped. -/
def stopping (devices : List Device) (session : Session) : Course :=
  if session.device ∈ devices then .isOver (session.concluded .stop) else .goesOn session

theorem parting_of_apart (apart : ¬ session.hasSubscriber client = true) (devices : List Device) :
    session.parting client devices = .goesOn session := by
  unfold parting
  rw [if_neg (shared_of_apart apart), detach_of_apart apart, ite_self]

theorem parting_cons (device : Device) (devices : List Device) :
    session.parting client (device :: devices) =
      (session.parting client [device]).andThen (parting client devices) := by
  by_cases here : session.device = device
  · by_cases only : session.isOnlyOf client = true
    · simp [parting, here, only, Course.andThen]
    · -- Who left once is not there to leave again.
      have gone : ¬ (session.detach client).1.hasSubscriber client = true := fun watches =>
        ((session.hasSubscriber_detach client client).mp watches).2 rfl
      have all : session.parting client (device :: devices) =
          .goesOn (session.detach client).1 := by simp [parting, here, only]
      have now : session.parting client [device] = .goesOn (session.detach client).1 := by
        simp [parting, here, only]
      rw [all, now, Course.andThen, parting_of_apart gone]
  · simp [parting, here, Course.andThen]

theorem stopping_cons (device : Device) (devices : List Device) :
    session.stopping (device :: devices) =
      (session.stopping [device]).andThen (stopping devices) := by
  by_cases here : session.device = device <;> simp [stopping, here, Course.andThen]

end Session

namespace Broker

open Session (parting stopping)

/-- Sessions were gone over: each took its course, and for each that is over a slot was given back. -/
structure Sifts (course : Session → Course) (before after : Broker) : Prop where
  roster : after.roster = { before.roster with
    sessions := before.roster.sessions.filterMap fun s => (course s).next? }
  admission : after.admission = before.admission.released
    (before.roster.sessions.filterMap fun s => (course s).last?).length
  mailboxes : after.mailboxes = before.mailboxes
  departed : after.departed.Perm
    ((before.roster.sessions.filterMap fun s => (course s).last?) ++ before.departed)
  framesDelivered : after.framesDelivered = before.framesDelivered
  framesDropped : after.framesDropped = before.framesDropped
  closed : after.closed = before.closed

variable {broker first second third : Broker} {client : SubscriberId} {device : Device}

theorem Sifts.trans {course later both : Session → Course} (h : Sifts course first second)
    (h' : Sifts later second third)
    (composed : ∀ s ∈ first.roster.sessions, both s = (course s).andThen later) :
    Sifts both first third := by
  obtain ⟨sessions, ended⟩ := Course.sessions_andThen composed
  have next : second.roster.sessions =
      first.roster.sessions.filterMap fun s => (course s).next? := by rw [h.roster]
  have lengths := ended.length_eq
  rw [List.length_append] at lengths
  constructor
  · rw [h'.roster, next, sessions, h.roster]
  · rw [h'.admission, h.admission, Admission.released_add, next, Nat.add_comm, lengths]
  · exact h'.mailboxes.trans h.mailboxes
  · have departed := h'.departed.trans (h.departed.append_left _)
    rw [next, ← List.append_assoc] at departed
    exact departed.trans (ended.append_right _)
  · exact h'.framesDelivered.trans h.framesDelivered
  · exact h'.framesDropped.trans h.framesDropped
  · exact h'.closed.trans h.closed

theorem Sifts.congr {course other : Session → Course} (h : Sifts course first second)
    (same : ∀ s ∈ first.roster.sessions, course s = other s) : Sifts other first second := by
  have next : (first.roster.sessions.filterMap fun s => (course s).next?) =
      first.roster.sessions.filterMap fun s => (other s).next? :=
    List.filterMap_congr fun s mem => by rw [same s mem]
  have last : (first.roster.sessions.filterMap fun s => (course s).last?) =
      first.roster.sessions.filterMap fun s => (other s).last? :=
    List.filterMap_congr fun s mem => by rw [same s mem]
  obtain ⟨roster, admission, mailboxes, departed, delivered, dropped, closed⟩ := h
  rw [next] at roster
  rw [last] at admission departed
  exact ⟨roster, admission, mailboxes, departed, delivered, dropped, closed⟩

/-! ### One session -/

theorem sifts_of_same {course : Session → Course}
    (same : ∀ s ∈ broker.roster.sessions, course s = .goesOn s) : Sifts course broker broker := by
  have none : (broker.roster.sessions.filterMap fun s => (course s).last?) = [] :=
    List.filterMap_eq_nil_iff.mpr fun s mem => by rw [same s mem]; rfl
  have all : (broker.roster.sessions.filterMap fun s => (course s).next?) =
      broker.roster.sessions := by
    have some : ∀ s ∈ broker.roster.sessions, (course s).next? = some s := fun s mem => by
      rw [same s mem]; rfl
    rw [List.filterMap_congr some, List.filterMap_some]
  constructor <;> simp [none, all, Admission.released]

section

variable {course : Session → Course} {session : Session}
  (distinct : broker.roster.devices.Nodup) (found : broker.roster.get? device = some session)
  (others : ∀ s ∈ broker.roster.sessions, s.device ≠ device → course s = .goesOn s)

include distinct found others

/-- Where the session of a device stands, while all others go on as they are. -/
theorem sessions_at : ∃ front back, broker.roster.sessions = front ++ session :: back ∧
    (∀ other ∈ front ++ back, other.device ≠ device) ∧
    (broker.roster.sessions.filterMap fun s => (course s).next?) =
      front ++ (course session).next?.toList ++ back ∧
    (broker.roster.sessions.filterMap fun s => (course s).last?) =
      (course session).last?.toList := by
  obtain ⟨front, back, split, apart⟩ := Roster.parts distinct found
  refine ⟨front, back, split, apart, ?_⟩
  have around : ∀ s ∈ front ++ back, course s = .goesOn s := by
    intro s mem
    apply others s _ (apart s mem)
    rw [split]
    rcases List.mem_append.mp mem with ahead | behind
    · exact List.mem_append_left _ ahead
    · exact List.mem_append_right _ (List.mem_cons_of_mem _ behind)
  rw [split]
  exact Course.sessions_around around

theorem sifts_goesOn {next : Session} (here : course session = .goesOn next)
    (same : next.device = device) :
    Sifts course broker { broker with roster := broker.roster.put next } := by
  obtain ⟨front, back, split, apart, sessions, ended⟩ := sessions_at distinct found others
  rw [here, Course.last?, Option.toList_none] at ended
  rw [here, Course.next?, Option.toList_some, List.append_assoc, List.singleton_append] at sessions
  have put : (broker.roster.put next).sessions = front ++ next :: back := by
    refine Roster.sessions_put split ?_ fun s mem => ?_
    · rw [same, (Roster.mem_of_get? found).2]
    · rw [same]
      exact apart s mem
  refine ⟨?_, ?_, rfl, ?_, rfl, rfl, rfl⟩
  · rw [sessions, ← put]
    rfl
  · rw [ended]
    rfl
  · rw [ended]
    exact .refl _

theorem sifts_isOver {last : Session} (here : course session = .isOver last) :
    Sifts course broker
      { broker with
        roster := broker.roster.remove device
        admission := broker.admission.release.1
        departed := last :: broker.departed } := by
  obtain ⟨front, back, split, apart, sessions, ended⟩ := sessions_at distinct found others
  rw [here, Course.last?, Option.toList_some] at ended
  rw [here, Course.next?, Option.toList_none, List.append_nil] at sessions
  have removed := Roster.sessions_remove split (Roster.mem_of_get? found).2 apart
  refine ⟨?_, ?_, rfl, ?_, rfl, rfl, rfl⟩
  · rw [sessions, ← removed]
    rfl
  · rw [ended]
    rfl
  · rw [ended]
    exact .refl _

end

theorem sifts_teardown (distinct : broker.roster.devices.Nodup) (device : Device) :
    Sifts (stopping [device]) broker (broker.teardown device .stop) := by
  cases found : broker.roster.get? device with
  | none =>
    rw [teardown_of_none broker device .stop found]
    refine sifts_of_same fun s mem => ?_
    have away : s.device ≠ device := by
      intro here
      have there := Roster.get?_of_mem distinct mem
      rw [here, found] at there
      cases there
    simp [stopping, away]
  | some session =>
    have here : session.device = device := (Roster.mem_of_get? found).2
    rw [teardown_eq found .stop]
    refine sifts_isOver distinct found (fun s _ away => ?_) ?_
    · simp [stopping, away]
    · simp [stopping, here]

theorem sifts_detach (distinct : broker.roster.devices.Nodup)
    (peopled : ∀ session ∈ broker.roster.sessions, session.Peopled) (client : SubscriberId)
    (device : Device) : Sifts (parting client [device]) broker (broker.detach client device) := by
  by_cases attached : ∃ session, broker.roster.get? device = some session ∧
      session.hasSubscriber client = true
  · obtain ⟨session, found, watches⟩ := attached
    have here : session.device = device := (Roster.mem_of_get? found).2
    have was : (session.detach client).2 = true := watches
    have only := (peopled session (Roster.mem_of_get? found).1).isOnlyOf_iff watches
    have others : ∀ s ∈ broker.roster.sessions, s.device ≠ device →
        s.parting client [device] = .goesOn s := fun s _ away => by simp [parting, away]
    simp only [detach, found, was, Bool.not_true, Bool.false_eq_true, if_false]
    by_cases idle : (session.detach client).1.isIdle = true
    · let fewer := { broker with roster := broker.roster.put (session.detach client).1 }
      have now : fewer.roster.get? device = some (session.detach client).1 := by
        rw [Roster.get?_put, found, Option.map_some]
        exact congrArg some (if_pos rfl)
      have removed : fewer.roster.remove device = broker.roster.remove device :=
        Roster.remove_put here
      have ended : Sifts (parting client [device]) broker
          { broker with
            roster := broker.roster.remove device
            admission := broker.admission.release.1
            departed := (session.detach client).1.concluded .stop :: broker.departed } := by
        refine sifts_isOver distinct found others ?_
        simp [parting, here, only.mpr idle]
      rw [if_pos idle, teardown_eq now .stop, removed]
      exact ended
    · rw [if_neg idle]
      refine sifts_goesOn distinct found others ?_ here
      have shared : ¬ session.isOnlyOf client = true := fun alone => idle (only.mp alone)
      simp [parting, here, shared]
  · have alone : ∀ session, broker.roster.get? device = some session →
        ¬ session.hasSubscriber client = true := fun session found watches =>
      attached ⟨session, found, watches⟩
    rw [detach_of_apart alone]
    refine sifts_of_same fun s mem => ?_
    by_cases here : s.device = device
    · exact Session.parting_of_apart (alone s (here ▸ Roster.get?_of_mem distinct mem)) [device]
    · simp [parting, here]

end Broker

end CameraRelay
