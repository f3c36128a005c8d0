import CameraRelay.Proofs.Broker.Offers
import CameraRelay.Proofs.Relay.Decoders

/-!
# Subscribers do not affect each other

A scene is a session with the mailboxes of all clients, and a run of it is any list of turns: frames
that are broadcast, and what clients do with their mailboxes and their place in the session. What
becomes of the deliveries to one subscriber, and what it receives, is read off the broadcasts and its
own turns alone. Main statement: `bystanders_apart`.
-/

namespace CameraRelay

open Relay (handle Own)

/-- A session with the mailboxes around it. Clients are there by their own handles, each once. -/
structure Scene where
  session : Session
  boxes : Mailboxes
  own : ∀ subscriber ∈ session.subscribers, Own subscriber
  distinct : (session.subscribers.map (·.id)).Nodup

inductive Turn where
  | broadcast (frame : Frame)
  | attach (client : SubscriberId)
  | detach (client : SubscriberId)
  /-- A client comes, with an empty mailbox. -/
  | subscribe (client : SubscriberId) (buffer : Nat)
  | receive (client : SubscriberId) (count : Nat)
  | close (client : SubscriberId)
  | drop (client : SubscriberId)
  /-- A client is told something from elsewhere. -/
  | tell (client : SubscriberId) (event : Event)
deriving DecidableEq

/-- What a client sees of a turn: what became of an event for it, or what it took out. -/
inductive Glimpse where
  | offered (delivery : Delivery)
  | took (events : List Event)
deriving DecidableEq

/-- What becomes of an event for a client while it is fanned out to subscribers in turn. -/
def Session.deliveryTo (client : SubscriberId) (event : Event) :
    List Subscriber → Mailboxes → Option Delivery
  | [], _ => none
  | subscriber :: rest, boxes =>
    if subscriber.id = client then some (boxes.deliver subscriber event).2
    else deliveryTo client event rest (boxes.deliver subscriber event).1

namespace Turn

/-- Whether a turn ends what a client has to do with the session, or with its mailbox. -/
def isPartingOf (client : SubscriberId) : Turn → Bool
  | .detach other => other == client
  | .subscribe other _ => other == client
  | .close other => other == client
  | .drop other => other == client
  | _ => false

/-- Whether a turn reaches the mailbox of a subscriber: a broadcast, or one of its own turns. -/
def concerns (client : SubscriberId) : Turn → Bool
  | .broadcast _ => true
  | .receive other _ => other == client
  | .tell other _ => other == client
  | _ => false

end Turn

namespace Scene

def updateBox (scene : Scene) (client : SubscriberId) (change : Mailbox → Mailbox) : Scene :=
  { scene with boxes := scene.boxes.update (handle client).mailbox change }

def step (scene : Scene) : Turn → Scene
  | .broadcast frame =>
    let shown := scene.session.broadcast scene.boxes frame
    { session := shown.1
      boxes := shown.2.1
      own := fun subscriber mem => scene.own subscriber (List.mem_filter.mp mem).1
      distinct := scene.distinct.sublist (List.filter_sublist.map _) }
  | .attach client =>
    { session := (scene.session.attach (handle client)).1
      boxes := scene.boxes
      own := Session.known_attach scene.own rfl
      distinct := Session.distinct_attach scene.distinct (handle client) }
  | .detach client =>
    { session := (scene.session.detach client).1
      boxes := scene.boxes
      own := fun subscriber mem => scene.own subscriber (List.mem_filter.mp mem).1
      distinct := scene.distinct.sublist (List.filter_sublist.map _) }
  | .subscribe client buffer =>
    { scene with boxes := scene.boxes.set (handle client).mailbox (.new buffer) }
  | .receive client count => scene.updateBox client fun box => (box.receiveMany count).1
  | .close client => scene.updateBox client .close
  | .drop client => scene.updateBox client .drop
  | .tell client event => { scene with boxes := (scene.boxes.deliver (handle client) event).1 }

def run (scene : Scene) (turns : List Turn) : Scene := turns.foldl step scene

def mailbox? (scene : Scene) (client : SubscriberId) : Option Mailbox :=
  scene.boxes.get? (handle client).mailbox

def glimpse? (scene : Scene) (client : SubscriberId) : Turn → Option Glimpse
  | .broadcast frame =>
    (Session.deliveryTo client (.frame scene.session.device frame) scene.session.subscribers
      scene.boxes).map .offered
  | .receive other count =>
    if other = client then (scene.mailbox? client).map fun box => .took (box.receiveMany count).2
    else none
  | .tell other event =>
    if other = client then some (.offered (scene.boxes.deliver (handle client) event).2) else none
  | _ => none

/-- What a client sees of a run, in order. -/
def glimpses (scene : Scene) (client : SubscriberId) : List Turn → List Glimpse
  | [] => []
  | turn :: rest => (scene.glimpse? client turn).toList ++ (scene.step turn).glimpses client rest

end Scene

/-! ### A mailbox by itself -/

namespace Mailbox

/-- What a turn makes of the mailbox of a subscriber of a device, and what its client sees. -/
def react (box : Mailbox) (device : Device) : Turn → Mailbox × Option Glimpse
  | .broadcast frame =>
    ((box.deliver (.frame device frame)).1, some (.offered (box.deliver (.frame device frame)).2))
  | .receive _ count => ((box.receiveMany count).1, some (.took (box.receiveMany count).2))
  | .tell _ event => ((box.deliver event).1, some (.offered (box.deliver event).2))
  | _ => (box, none)

def reactAll (box : Mailbox) (device : Device) : List Turn → Mailbox × List Glimpse
  | [] => (box, [])
  | turn :: rest =>
    let (last, later) := (box.react device turn).1.reactAll device rest
    (last, (box.react device turn).2.toList ++ later)

end Mailbox

namespace Scene

variable {scene first second : Scene} {client : SubscriberId} {box : Mailbox} {turn : Turn}

/-- A client watches the session and its mailbox is open. -/
structure Seats (scene : Scene) (client : SubscriberId) (box : Mailbox) : Prop where
  watches : scene.session.hasSubscriber client = true
  mailbox : scene.mailbox? client = some box
  listens : box.isClosed = false

theorem mem_of_watches (watches : scene.session.hasSubscriber client = true) :
    handle client ∈ scene.session.subscribers := by
  obtain ⟨subscriber, mem, rfl⟩ :=
    List.mem_map.mp ((scene.session.hasSubscriber_iff client).mp watches)
  have own : subscriber = handle subscriber.id := scene.own subscriber mem
  rwa [← own]

theorem deliveryTo_eq {subscribers : List Subscriber} {boxes : Mailboxes} {event : Event}
    (own : ∀ subscriber ∈ subscribers, Own subscriber) (mem : handle client ∈ subscribers)
    (found : boxes.get? (handle client).mailbox = some box) :
    Session.deliveryTo client event subscribers boxes = some (box.deliver event).2 := by
  induction subscribers generalizing boxes with
  | nil => cases mem
  | cons subscriber rest ih =>
    have here : subscriber = handle subscriber.id := own subscriber (List.mem_cons_self ..)
    by_cases same : subscriber.id = client
    · rw [same] at here
      rw [Session.deliveryTo, if_pos same, here]
      simp only [Mailboxes.deliver, found]
    · -- The mailbox of another subscriber is another mailbox.
      have apart : (handle client).mailbox ≠ subscriber.mailbox := by
        rw [here]
        exact fun eq => same eq.symm
      have behind : handle client ∈ rest := by
        refine (List.mem_cons.mp mem).resolve_left fun eq => same ?_
        rw [← eq]
        rfl
      rw [Session.deliveryTo, if_neg same]
      refine ih (fun other mem => own other (List.mem_cons_of_mem _ mem)) behind ?_
      rw [Mailboxes.get?_deliver_of_ne _ apart, found]

namespace Seats

theorem broadcast (h : scene.Seats client box) (frame : Frame) :
    (scene.step (.broadcast frame)).Seats client
        (box.deliver (.frame scene.session.device frame)).1 ∧
      scene.glimpse? client (.broadcast frame) =
        some (.offered (box.deliver (.frame scene.session.device frame)).2) := by
  have mem := mem_of_watches h.watches
  have mailboxes : scene.session.subscribers.map (·.mailbox) =
      scene.session.subscribers.map (·.id) :=
    List.map_congr_left fun subscriber mem => congrArg (·.mailbox) (scene.own subscriber mem)
  have distinct := scene.distinct
  rw [← mailboxes] at distinct
  constructor
  · refine ⟨?_, ?_, ?_⟩
    · refine (Session.hasSubscriber_iff _ client).mpr (List.mem_map.mpr ⟨handle client, ?_, rfl⟩)
      refine List.mem_filter.mpr ⟨mem, ?_⟩
      -- Only those who do not listen are detached.
      have kept : (handle client).id ∉ (Session.fanOut (.frame scene.session.device frame)
          scene.session.subscribers scene.boxes).2.failed := by
        intro failed
        obtain ⟨other, there, same, closed⟩ := Session.mem_failed.mp failed
        have own : other = handle other.id := scene.own other there
        have found : scene.boxes.get? other.mailbox = some box := by
          rw [own, same]
          exact h.mailbox
        simp [Mailboxes.isClosed, found, h.listens] at closed
      simpa using kept
    · have found : scene.boxes.get? (handle client).mailbox = some box := h.mailbox
      show (Session.fanOut _ _ _).1.get? (handle client).mailbox = _
      rw [Session.get?_fanOut_eq _ distinct, if_pos (List.mem_map_of_mem mem), found,
        Option.map_some]
    · rw [Mailbox.isClosed_deliver, h.listens]
  · simp only [glimpse?]
    rw [deliveryTo_eq scene.own mem h.mailbox]
    rfl

theorem updated (h : scene.Seats client box) {change : Mailbox → Mailbox}
    (keeps : (change box).isClosed = box.isClosed) :
    (scene.updateBox client change).Seats client (change box) := by
  have found : scene.boxes.get? (handle client).mailbox = some box := h.mailbox
  refine ⟨h.watches, ?_, keeps.trans h.listens⟩
  simp only [mailbox?, updateBox, Mailboxes.get?_update, found, Option.map_some]

theorem untouched (h : scene.Seats client box) {other : SubscriberId} (apart : other ≠ client)
    (change : Mailbox → Mailbox) : (scene.updateBox other change).Seats client box := by
  have away : (handle client).mailbox ≠ (handle other).mailbox := fun same => apart same.symm
  refine ⟨h.watches, ?_, h.listens⟩
  show (scene.boxes.update _ _).get? _ = _
  rw [Mailboxes.get?_update_of_ne _ away]
  exact h.mailbox

/-- A turn that reaches the mailbox of a client does to it what it does to the mailbox by itself. -/
theorem concerned (h : scene.Seats client box) (concerns : turn.concerns client = true) :
    (scene.step turn).Seats client (box.react scene.session.device turn).1 ∧
      scene.glimpse? client turn = (box.react scene.session.device turn).2 := by
  cases turn with
  | broadcast frame => exact h.broadcast frame
  | receive other count =>
    obtain rfl : other = client := eq_of_beq concerns
    refine ⟨h.updated rfl, ?_⟩
    simp [glimpse?, h.mailbox, Mailbox.react]
  | tell other event =>
    obtain rfl : other = client := eq_of_beq concerns
    have found : scene.boxes.get? (handle other).mailbox = some box := h.mailbox
    refine ⟨⟨h.watches, ?_, ?_⟩, ?_⟩
    · show (scene.boxes.deliver (handle other) event).1.get? _ = _
      rw [Mailboxes.get?_deliver_self, found]
      rfl
    · rw [Mailbox.react, Mailbox.isClosed_deliver, h.listens]
    · simp [glimpse?, Mailboxes.deliver, found, Mailbox.react]
  | _ => cases concerns

/-- No other turn reaches it, whatever it does to the session and to the mailboxes of others. -/
theorem unconcerned (h : scene.Seats client box) (stays : turn.isPartingOf client = false)
    (apart : turn.concerns client = false) :
    (scene.step turn).Seats client box ∧ scene.glimpse? client turn = none := by
  cases turn with
  | broadcast frame => cases apart
  | attach other =>
    refine ⟨⟨?_, h.mailbox, h.listens⟩, rfl⟩
    exact (Session.hasSubscriber_attach ..).mpr (.inl h.watches)
  | detach other =>
    have differs : client ≠ other := by
      rintro rfl
      simp [Turn.isPartingOf] at stays
    refine ⟨⟨?_, h.mailbox, h.listens⟩, rfl⟩
    exact (Session.hasSubscriber_detach ..).mpr ⟨h.watches, differs⟩
  | subscribe other buffer =>
    have differs : (handle client).mailbox ≠ (handle other).mailbox := by
      intro same
      obtain rfl : client = other := same
      simp [Turn.isPartingOf] at stays
    refine ⟨⟨h.watches, ?_, h.listens⟩, rfl⟩
    show (scene.boxes.set _ _).get? _ = _
    rw [Mailboxes.get?_set_of_ne _ differs]
    exact h.mailbox
  | receive other count =>
    have differs : other ≠ client := by simpa [Turn.concerns] using apart
    exact ⟨h.untouched differs _, if_neg differs⟩
  | close other =>
    have differs : other ≠ client := by simpa [Turn.isPartingOf] using stays
    exact ⟨h.untouched differs _, rfl⟩
  | drop other =>
    have differs : other ≠ client := by simpa [Turn.isPartingOf] using stays
    exact ⟨h.untouched differs _, rfl⟩
  | tell other event =>
    have differs : other ≠ client := by simpa [Turn.concerns] using apart
    have away : (handle client).mailbox ≠ (handle other).mailbox := fun same => differs same.symm
    refine ⟨⟨h.watches, ?_, h.listens⟩, if_neg differs⟩
    show (scene.boxes.deliver _ _).1.get? _ = _
    rw [Mailboxes.get?_deliver_of_ne _ away]
    exact h.mailbox

end Seats

theorem device_step (scene : Scene) (turn : Turn) :
    (scene.step turn).session.device = scene.session.device := by
  cases turn with
  | attach client => exact Session.device_attach ..
  | _ => rfl

/-- Over a run the mailbox of a client that stays goes through the turns that concern it, and what
the client sees is what it sees of them. -/
theorem Seats.run (h : scene.Seats client box) {turns : List Turn}
    (stays : ∀ turn ∈ turns, turn.isPartingOf client = false) :
    let all := box.reactAll scene.session.device (turns.filter (·.concerns client))
    (scene.run turns).Seats client all.1 ∧ scene.glimpses client turns = all.2 := by
  induction turns generalizing scene box with
  | nil => exact ⟨h, rfl⟩
  | cons turn rest ih =>
    have later : ∀ turn ∈ rest, turn.isPartingOf client = false := fun turn mem =>
      stays turn (List.mem_cons_of_mem _ mem)
    by_cases concerns : turn.concerns client = true
    · obtain ⟨next, seen⟩ := h.concerned concerns
      obtain ⟨last, more⟩ := ih next later
      rw [device_step] at last more
      rw [List.filter_cons_of_pos concerns]
      refine ⟨last, ?_⟩
      rw [glimpses, seen, more]
      rfl
    · obtain ⟨next, unseen⟩ := h.unconcerned (stays turn (List.mem_cons_self ..))
        (by simpa using concerns)
      obtain ⟨last, more⟩ := ih next later
      rw [device_step] at last more
      rw [List.filter_cons_of_neg concerns]
      refine ⟨last, ?_⟩
      rw [glimpses, unseen, more]
      rfl

end Scene

namespace Mailbox

theorem deliver_ne_closed {box : Mailbox} (listens : box.isClosed = false) (event : Event) :
    (box.deliver event).2 ≠ .closed := by
  simp only [deliver_eq, verdict, listens, Bool.false_eq_true, if_false]
  by_cases room : (if event.isFrame then controlReserve else 0) < box.free <;> simp [room]

theorem ne_closed_of_reactAll {box : Mailbox} (listens : box.isClosed = false) (device : Device)
    (turns : List Turn) {delivery : Delivery}
    (offered : .offered delivery ∈ (box.reactAll device turns).2) : delivery ≠ .closed := by
  induction turns generalizing box with
  | nil => cases offered
  | cons turn rest ih =>
    have still : (box.react device turn).1.isClosed = false := by
      cases turn with
      | broadcast frame => rw [react, isClosed_deliver, listens]
      | tell client event => rw [react, isClosed_deliver, listens]
      | _ => exact listens
    rcases List.mem_append.mp offered with now | later
    · cases turn with
      | broadcast frame =>
        obtain rfl := Glimpse.offered.inj (List.mem_singleton.mp now)
        exact deliver_ne_closed listens _
      | tell client event =>
        obtain rfl := Glimpse.offered.inj (List.mem_singleton.mp now)
        exact deliver_ne_closed listens _
      | receive client count => cases List.mem_singleton.mp now
      | _ => cases now
    · exact ih still later

end Mailbox

namespace Scene

/-- Take two runs of a session in which a client stays and keeps its mailbox open, with the same
broadcasts and the same turns of that client in the same order. Whatever other clients do in either,
the client sees the same in both: what becomes of each event for it, which is never refused, and what
it takes out at each of its turns. Its mailbox is the same in the end, and it is attached
throughout. -/
theorem bystanders_apart {first second : Scene} {client : SubscriberId} {box : Mailbox}
    {turns turns' : List Turn} (device : second.session.device = first.session.device)
    (seats : first.Seats client box) (seats' : second.Seats client box)
    (stays : ∀ turn ∈ turns, turn.isPartingOf client = false)
    (stays' : ∀ turn ∈ turns', turn.isPartingOf client = false)
    (same : turns.filter (·.concerns client) = turns'.filter (·.concerns client)) :
    first.glimpses client turns = second.glimpses client turns' ∧
    (∀ delivery, .offered delivery ∈ first.glimpses client turns →
      delivery = .sent ∨ delivery = .dropped) ∧
    (first.run turns).mailbox? client = (second.run turns').mailbox? client ∧
    (∀ earlier later, turns = earlier ++ later →
      (first.run earlier).session.hasSubscriber client = true) ∧
    (∀ earlier later, turns' = earlier ++ later →
      (second.run earlier).session.hasSubscriber client = true) := by
  obtain ⟨last, seen⟩ := seats.run stays
  obtain ⟨last', seen'⟩ := seats'.run stays'
  rw [device, ← same] at last' seen'
  refine ⟨seen.trans seen'.symm, fun delivery offered => ?_, last.mailbox.trans last'.mailbox.symm,
    ?_, ?_⟩
  · rw [seen] at offered
    have open' := Mailbox.ne_closed_of_reactAll seats.listens _ _ offered
    cases delivery with
    | sent => exact .inl rfl
    | dropped => exact .inr rfl
    | closed => exact absurd rfl open'
  · rintro earlier later rfl
    exact (seats.run fun turn mem => stays turn (List.mem_append_left _ mem)).1.watches
  · rintro earlier later rfl
    exact (seats'.run fun turn mem => stays' turn (List.mem_append_left _ mem)).1.watches

/-- One client watches, with room for one frame. -/
def lone : Scene where
  session :=
    { id := 1, device := ⟨"cam-1"⟩, locator := "rtsp://127.0.0.1/cam-1", subscribers := [handle 1] }
  boxes := { boxes := [(1, .new 1)] }
  own := fun subscriber mem => by rw [List.mem_singleton.mp mem]; rfl
  distinct := by decide

/-- Two other clients stall, close their mailbox or leave, or nobody else is there at all. -/
theorem bystanders_apart_crowded :
    let frame (number : Nat) : Frame := { data := [255], sequence := number }
    let crowded : List Turn :=
      [.subscribe 2 1, .attach 2, .subscribe 3 7, .attach 3, .broadcast (frame 0), .close 2,
       .receive 1 1, .broadcast (frame 1), .detach 3, .broadcast (frame 2), .drop 2]
    let alone : List Turn :=
      [.broadcast (frame 0), .receive 1 1, .broadcast (frame 1), .broadcast (frame 2)]
    lone.glimpses 1 crowded = lone.glimpses 1 alone ∧
      lone.glimpses 1 alone =
        [.offered .sent, .took [.frame ⟨"cam-1"⟩ (frame 0)], .offered .sent, .offered .dropped] := by
  intro frame crowded alone
  have seats : lone.Seats 1 (.new 1) := ⟨by decide, rfl, rfl⟩
  have same : crowded.filter (·.concerns 1) = alone.filter (·.concerns 1) := by decide
  obtain ⟨seen, _⟩ := bystanders_apart rfl seats seats (by decide) (by decide) same
  exact ⟨seen, by decide⟩

end Scene

end CameraRelay
