import CameraRelay.Proofs.Broker.Lives
import CameraRelay.Proofs.Broker.Shape

/-!
# The roll of sessions

The roll lists every session that ever came, be it in the roster or gone, with its number, its
device and whether it had a decoder. Sessions that go on or leave change nothing in it. A session in
the roster is live and holds its decoder; one that left is terminated; and none was ever asked to
make a move between phases that is not legal.
-/

namespace CameraRelay

open Relation (ReflTransGen)

namespace Session

variable {known newcomer : Subscriber → Prop} {old session : Session}

theorem ids_attach_of_present {subscriber : Subscriber}
    (present : session.hasSubscriber subscriber.id = true) :
    (session.attach subscriber).1.subscribers.map (·.id) = session.subscribers.map (·.id) := by
  simp only [attach, present, if_true, List.map_map]
  apply List.map_congr_left
  intro s _
  by_cases same : s.id = subscriber.id <;> simp [same]

theorem distinct_attach (distinct : (session.subscribers.map (·.id)).Nodup)
    (subscriber : Subscriber) :
    ((session.attach subscriber).1.subscribers.map (·.id)).Nodup := by
  by_cases present : session.hasSubscriber subscriber.id = true
  · rwa [ids_attach_of_present present]
  · have absent : subscriber.id ∉ session.subscribers.map (·.id) := fun mem =>
      present ((session.hasSubscriber_iff subscriber.id).mpr mem)
    have appended : (session.attach subscriber).1.subscribers =
        session.subscribers ++ [subscriber] := by
      rw [attach, if_neg present]
    rw [appended, List.map_append]
    exact List.nodup_append_comm.mp (List.nodup_cons.mpr ⟨absent, distinct⟩)

theorem known_attach (knows : ∀ s ∈ session.subscribers, known s) {subscriber : Subscriber}
    (new : known subscriber) : ∀ s ∈ (session.attach subscriber).1.subscribers, known s := by
  intro s mem
  simp only [attach] at mem
  split at mem
  · obtain ⟨before, here, rfl⟩ := List.mem_map.mp mem
    split
    · exact new
    · exact knows before here
  · rcases List.mem_append.mp mem with before | last
    · exact knows s before
    · rw [List.mem_singleton.mp last]
      exact new

/-- How a session is in the roster. -/
structure Thrives (known : Subscriber → Prop) (session : Session) : Prop where
  phase : session.phase = .live
  decoder : session.decoder = .running
  refusedMoves : session.refusedMoves = 0
  distinct : (session.subscribers.map (·.id)).Nodup
  knows : ∀ subscriber ∈ session.subscribers, known subscriber

/-- How a session is when it left the roster. -/
structure Rests (session : Session) : Prop where
  phase : session.phase = .terminated
  refusedMoves : session.refusedMoves = 0

theorem Thrives.continues (h : old.Thrives known) (continues : old.Continues newcomer session)
    (wider : ∀ subscriber, newcomer subscriber → known subscriber) : session.Thrives known := by
  refine ⟨continues.phase.trans h.phase, continues.decoder.trans h.decoder,
    continues.refusedMoves.trans h.refusedMoves, ?_, ?_⟩
  · rcases continues.subscribers with fewer | ⟨subscriber, _, eq⟩
    · exact h.distinct.sublist (fewer.map _)
    · rw [eq]
      exact distinct_attach h.distinct subscriber
  · rcases continues.subscribers with fewer | ⟨subscriber, new, eq⟩
    · exact fun subscriber mem => h.knows subscriber (fewer.subset mem)
    · rw [eq]
      exact known_attach h.knows (wider subscriber new)

theorem stopDecoder_fst (session : Session) :
    session.stopDecoder.1 =
      { session with decoder := if session.decoder = .running then .told else session.decoder } := by
  simp only [stopDecoder]
  split
  · next held => rw [if_pos held]
  · next apart => rw [if_neg apart]

/-- Every way out leads a live session over legal moves to the last phase. -/
theorem Thrives.concluded (h : session.Thrives known) (reason : Teardown) :
    (session.concluded reason).Rests := by
  cases reason with
  | exit exit =>
    cases exit <;> constructor <;>
      simp [Session.concluded, stopDecoder_fst, advance, Phase.advance, Phase.canMoveTo, h.phase,
        h.refusedMoves]
  | _ =>
    constructor <;>
      simp [Session.concluded, stopDecoder_fst, advance, Phase.advance, Phase.canMoveTo, h.phase,
        h.refusedMoves]

/-- What the roll says of a session. -/
def entry (session : Session) : Nat × Device × Bool :=
  (session.id, session.device, session.decoder != .absent)

theorem Thrives.entry_eq (h : session.Thrives known) :
    session.entry = (session.id, session.device, true) := by
  simp [entry, h.decoder]

theorem Thrives.entry_concluded (h : session.Thrives known) (reason : Teardown) :
    (session.concluded reason).entry = session.entry := by
  rw [h.entry_eq]
  cases reason with
  | exit exit => cases exit <;> simp [entry, Session.concluded, stopDecoder_fst, advance, h.decoder]
  | _ => simp [entry, Session.concluded, stopDecoder_fst, advance, h.decoder]

theorem id_concluded (session : Session) (reason : Teardown) :
    (session.concluded reason).id = session.id := by
  cases reason with
  | exit exit => cases exit <;> simp [concluded, stopDecoder_fst, advance]
  | _ => simp [concluded, stopDecoder_fst, advance]

/-- A report that ends a session leaves its decoder untold only if the decoder ended by itself. -/
theorem exited_of_running {report : Report} {reason : Teardown} (ends : report.Ends reason)
    (running : (session.concluded reason).decoder = .running) :
    ∃ status, report = .exit (.exited status) := by
  have stopped (session : Session) : session.stopDecoder.1.decoder ≠ .running := by
    rw [stopDecoder_fst]
    split
    · exact fun eq => by cases eq
    · next apart => exact apart
  cases report with
  | exit exit =>
    obtain rfl : reason = .exit exit := ends
    cases exit with
    | stopped => exact absurd running (stopped session)
    | exited status => exact ⟨status, rfl⟩
    | failed message => exact absurd running (stopped _)
  | _ =>
    obtain rfl : reason = .stop := ends
    exact absurd running (stopped session)

/-- A stop tells the decoder of a session that has one. -/
theorem Thrives.told (h : session.Thrives known) : (session.concluded .stop).decoder = .told := by
  simp [Session.concluded, stopDecoder_fst, advance, h.decoder]

end Session

namespace Roster

variable {roster : Roster} {device : Device} {session : Session}

theorem parts (distinct : roster.devices.Nodup) (found : roster.get? device = some session) :
    ∃ front back, roster.sessions = front ++ session :: back ∧
      ∀ other ∈ front ++ back, other.device ≠ device := by
  obtain ⟨mem, rfl⟩ := mem_of_get? found
  obtain ⟨front, back, eq⟩ := List.append_of_mem mem
  refine ⟨front, back, eq, fun other there same => ?_⟩
  rw [devices, eq, List.map_append, List.map_cons, List.nodup_middle, List.nodup_cons,
    ← List.map_append] at distinct
  exact distinct.1 (List.mem_map.mpr ⟨other, there, same⟩)

theorem sessions_remove {front back : List Session}
    (eq : roster.sessions = front ++ session :: back) (here : session.device = device)
    (apart : ∀ other ∈ front ++ back, other.device ≠ device) :
    (roster.remove device).sessions = front ++ back := by
  have kept : (front ++ back).filter (fun s => s.device != device) = front ++ back :=
    List.filter_eq_self.mpr fun other mem => by simpa using apart other mem
  simp only [remove, eq, List.filter_append, List.filter_cons, here, bne_self_eq_false,
    Bool.false_eq_true, if_false]
  rwa [← List.filter_append]

theorem sessions_put {front back : List Session} {old : Session}
    (eq : roster.sessions = front ++ old :: back) (here : old.device = session.device)
    (apart : ∀ other ∈ front ++ back, other.device ≠ session.device) :
    (roster.put session).sessions = front ++ session :: back := by
  have kept (part : List Session) (sub : part ⊆ front ++ back) :
      part.map (fun s => if s.device = session.device then session else s) = part := by
    refine (List.map_congr_left fun other mem => ?_).trans (List.map_id _)
    simp [apart other (sub mem)]
  simp only [put, eq, List.map_append, List.map_cons, here, if_true,
    kept front (List.subset_append_left ..), kept back (List.subset_append_right ..)]

end Roster

def roll (lives : Roster × List Session) : List (Nat × Device × Bool) :=
  (lives.1.sessions ++ lives.2).map Session.entry

/-- Each session that ever came is there once, in the roster or gone, and is as it should be. -/
structure Sound (known : Subscriber → Prop) (lives : Roster × List Session) : Prop where
  devices : lives.1.devices.Nodup
  live : ∀ session ∈ lives.1.sessions, session.Thrives known
  gone : ∀ session ∈ lives.2, session.Rests
  numbers : ((roll lives).map (·.1)).Perm (List.range' 1 lives.1.created)

variable {known newcomer : Subscriber → Prop} {ending : Teardown → Prop} {device : Device}
  {fault : Option SystemFault} {before after : Roster × List Session}

theorem Sound.nodup (sound : Sound known before) :
    ((before.1.sessions ++ before.2).map (·.id)).Nodup := by
  have numbers : (roll before).map (·.1) = (before.1.sessions ++ before.2).map (·.id) := by
    simp only [roll, List.map_map]
    rfl
  rw [← numbers]
  exact sound.numbers.nodup_iff.mpr List.nodup_range'

/-- No session is in the roster and gone. -/
theorem Sound.apart (sound : Sound known before) {session last : Session}
    (here : session ∈ before.1.sessions) (gone : last ∈ before.2) : session.id ≠ last.id := by
  have distinct := sound.nodup
  rw [List.map_append, List.nodup_append] at distinct
  exact distinct.2.2 _ (List.mem_map_of_mem here) _ (List.mem_map_of_mem gone)

theorem Life.created (h : Life ending newcomer before after) :
    after.1.created = before.1.created := by
  cases h <;> rfl

theorem Life.devices (h : Life ending newcomer before after)
    (distinct : before.1.devices.Nodup) : after.1.devices.Nodup := by
  cases h with
  | goOn session =>
    rw [Roster.devices_put]
    exact distinct
  | leave =>
    rw [Roster.devices_remove]
    exact distinct.filter _

theorem Life.roll (h : Life ending newcomer before after) (sound : Sound known before) :
    (CameraRelay.roll after).Perm (CameraRelay.roll before) := by
  cases h with
  | @goOn roster departed old session found continues =>
    have there := (Roster.mem_of_get? found).2
    have distinct : roster.devices.Nodup := sound.devices
    obtain ⟨front, back, eq, apart⟩ := Roster.parts distinct found
    have entry : session.entry = old.entry := by
      simp only [Session.entry, continues.id, there, continues.decoder]
    simp only [CameraRelay.roll, Roster.sessions_put eq there apart, eq, List.map_append,
      List.map_cons, entry]
    exact .refl _
  | @leave roster departed device session reason found ends =>
    have distinct : roster.devices.Nodup := sound.devices
    obtain ⟨front, back, eq, apart⟩ := Roster.parts distinct found
    obtain ⟨mem, there⟩ := Roster.mem_of_get? found
    have entry := (sound.live session mem).entry_concluded reason
    simp only [CameraRelay.roll, Roster.sessions_remove eq there apart, eq, List.map_append,
      List.map_cons, entry]
    -- The session moves from its place in the roster to the head of those that left.
    have moved : (front.map Session.entry ++ session.entry :: back.map Session.entry).Perm
        (session.entry :: (front.map Session.entry ++ back.map Session.entry)) := List.perm_middle
    exact List.perm_middle.trans (moved.append_right (departed.map Session.entry)).symm

theorem Life.sound (h : Life ending newcomer before after) (sound : Sound known before)
    (wider : ∀ subscriber, newcomer subscriber → known subscriber) : Sound known after := by
  refine ⟨h.devices sound.devices, ?_, ?_, ?_⟩
  · cases h with
    | goOn session found continues =>
      intro other mem
      rcases Roster.mem_put mem with rfl | ⟨here, _⟩
      · exact (sound.live _ (Roster.mem_of_get? found).1).continues continues wider
      · exact sound.live other here
    | leave found => exact fun other mem => sound.live other (List.mem_filter.mp mem).1
  · cases h with
    | goOn => exact sound.gone
    | leave found =>
      intro other mem
      rcases List.mem_cons.mp mem with rfl | before
      · exact (sound.live _ (Roster.mem_of_get? found).1).concluded _
      · exact sound.gone other before
  · rw [h.created]
    exact ((h.roll sound).map _).trans sound.numbers

theorem Birth.created (h : Birth newcomer device fault before after) :
    after.1.created = before.1.created + 1 := by
  cases h <;> rfl

theorem Birth.roll (h : Birth newcomer device fault before after) :
    (CameraRelay.roll after).Perm
      ((before.1.created + 1, device, fault.isNone) :: CameraRelay.roll before) := by
  cases h with
  | live =>
    simp only [CameraRelay.roll, Roster.add, List.append_assoc, List.map_append, List.map_cons]
    exact List.perm_middle
  | failed =>
    simp only [CameraRelay.roll, List.map_append, List.map_cons]
    exact List.perm_middle

theorem Birth.sound (h : Birth newcomer device fault before after) (sound : Sound known before)
    (wider : ∀ subscriber, newcomer subscriber → known subscriber) : Sound known after := by
  have numbers : ((CameraRelay.roll after).map (·.1)).Perm (List.range' 1 after.1.created) := by
    rw [h.created, List.range'_concat]
    refine (h.roll.map _).trans ?_
    refine (sound.numbers.cons (before.1.created + 1)).trans ?_
    rw [Nat.one_mul, Nat.add_comm 1]
    exact (List.perm_append_singleton _ _).symm
  cases h with
  | @live roster departed locator subscriber new alone =>
    refine ⟨?_, fun other mem => ?_, sound.gone, numbers⟩
    · exact Roster.distinct_add alone sound.devices
    · rcases List.mem_append.mp mem with here | last
      · exact sound.live other here
      · rw [List.mem_singleton.mp last]
        refine ⟨rfl, rfl, rfl, List.nodup_singleton _, fun subscriber' mem' => ?_⟩
        rw [List.mem_singleton.mp mem']
        exact wider subscriber new
  | failed =>
    refine ⟨sound.devices, sound.live, fun other mem => ?_, numbers⟩
    rcases List.mem_cons.mp mem with rfl | before
    · exact ⟨rfl, rfl⟩
    · exact sound.gone other before

/-! ### Steps of the broker -/

theorem sound_of_lives (h : ReflTransGen (Life ending newcomer) before after)
    (sound : Sound known before) (wider : ∀ subscriber, newcomer subscriber → known subscriber) :
    Sound known after ∧ (roll after).Perm (roll before) := by
  induction h with
  | refl => exact ⟨sound, .refl _⟩
  | tail _ life ih => exact ⟨life.sound ih.1 wider, (life.roll ih.1).trans ih.2⟩

theorem created_of_lives (h : ReflTransGen (Life ending newcomer) before after) :
    after.1.created = before.1.created := by
  induction h with
  | refl => rfl
  | tail _ life ih => exact life.created.trans ih

/-- Who left stays gone. -/
theorem departed_of_lives (h : ReflTransGen (Life ending newcomer) before after) :
    before.2 ⊆ after.2 := by
  induction h with
  | refl => exact List.Subset.refl _
  | tail _ life ih =>
    cases life with
    | goOn => exact ih
    | leave => exact List.Subset.trans ih (List.subset_cons_self ..)

/-- Sessions that are stopped had their decoders told. -/
theorem told_of_lives (h : ReflTransGen (Life (· = .stop) newcomer) before after)
    (sound : Sound known before) (wider : ∀ subscriber, newcomer subscriber → known subscriber)
    {session : Session} (gone : session ∈ after.2) :
    session ∈ before.2 ∨ session.decoder = .told := by
  induction h with
  | refl => exact .inl gone
  | tail lives life ih =>
    cases life with
    | goOn => exact ih gone
    | leave found ends =>
      obtain rfl := ends
      rcases List.mem_cons.mp gone with rfl | before
      · have here := (Roster.mem_of_get? found).1
        exact .inr (((sound_of_lives lives sound wider).1.live _ here).told)
      · exact ih before

namespace Broker

variable {first second : Broker}

theorem Ages.sound (h : Ages ending (fun _ => False) first second)
    (sound : Sound known first.lives) :
    Sound known second.lives ∧
      (CameraRelay.roll second.lives).Perm (CameraRelay.roll first.lives) :=
  sound_of_lives h sound fun _ never => never.elim

theorem Hosts.sound (h : Hosts device fault ending newcomer first second)
    (sound : Sound known first.lives)
    (wider : ∀ subscriber, newcomer subscriber → known subscriber) :
    Sound known second.lives := by
  rcases h with ages | ⟨lives, birth, ages⟩
  · exact (sound_of_lives ages sound wider).1
  · exact (sound_of_lives ages (birth.sound sound wider) wider).1

/-- A step adds to the roll at most one session, with the latest number. -/
theorem Hosts.roll (h : Hosts device fault ending newcomer first second)
    (sound : Sound known first.lives)
    (wider : ∀ subscriber, newcomer subscriber → known subscriber) :
    (second.roster.created = first.roster.created ∧
      (CameraRelay.roll second.lives).Perm (CameraRelay.roll first.lives)) ∨
    (second.roster.created = first.roster.created + 1 ∧
      (CameraRelay.roll second.lives).Perm
        ((second.roster.created, device, fault.isNone) :: CameraRelay.roll first.lives)) := by
  rcases h with ages | ⟨lives, birth, ages⟩
  · exact .inl ⟨created_of_lives ages, (sound_of_lives ages sound wider).2⟩
  · have created : second.roster.created = first.roster.created + 1 :=
      (created_of_lives ages).trans birth.created
    rw [created]
    exact .inr ⟨rfl, (sound_of_lives ages (birth.sound sound wider) wider).2.trans birth.roll⟩

theorem Hosts.departed (h : Hosts device fault ending newcomer first second) :
    first.departed ⊆ second.departed := by
  rcases h with ages | ⟨lives, birth, ages⟩
  · exact departed_of_lives ages
  · refine List.Subset.trans ?_ (departed_of_lives ages)
    cases birth with
    | live => exact List.Subset.refl _
    | failed => exact List.subset_cons_self ..

/-- A decoder of a session that a request ended was told to stop, if it started at all. -/
theorem Hosts.told (h : Hosts device fault (· = .stop) newcomer first second)
    (sound : Sound known first.lives)
    (wider : ∀ subscriber, newcomer subscriber → known subscriber)
    {session : Session} (gone : session ∈ second.departed) :
    session ∈ first.departed ∨ session.decoder ≠ .running := by
  rcases h with ages | ⟨lives, birth, ages⟩
  · refine (told_of_lives ages sound wider gone).imp_right fun told => ?_
    rw [told]
    decide
  · rcases told_of_lives ages (birth.sound sound wider) wider gone with before | told
    · cases birth with
      | live => exact .inl before
      | failed =>
        rcases List.mem_cons.mp before with rfl | before
        · exact .inr fun running => by cases running
        · exact .inl before
    · refine .inr ?_
      rw [told]
      decide

end Broker

end CameraRelay
