import CameraRelay.Decoder.Supervisor

/-!
# What becomes of the bytes of a decoder

By size, a frame is all that is held when this is more than the threshold for the first time. So the
reads fall into groups, one to each frame, and the bytes of the last reads, which are no frame yet,
are held. Between the splitter and its reports a supervisor keeps account of every byte (`Accounts`):
it is in a frame that was reported, in one that is about to be, or held. Whatever sink it reports to,
the account stands as long as the sink wants more. Main statement: `accounts_run`.
-/

namespace CameraRelay

/-! ### Cutting by size -/

/-- How reads are divided into frames by size, and what is held in the end. -/
structure Divides (threshold : Nat) (reads frames : List Bytes) (held : Bytes) : Prop where
  joined : frames.flatten ++ held = reads.flatten
  exceeds : ∀ frame ∈ frames, threshold < frame.length
  pending : held.length ≤ threshold
  /-- A frame ends with the first read at which more than the threshold was held. -/
  boundaries : ∃ (groups : List (List Bytes)) (last : List Bytes),
    reads = groups.flatten ++ last ∧ frames = groups.map List.flatten ∧ held = last.flatten ∧
      ∀ group ∈ groups, ∀ earlier, earlier <+: group → earlier ≠ group →
        earlier.flatten.length ≤ threshold

theorem divides_nil (threshold : Nat) : Divides threshold [] [] [] where
  joined := rfl
  exceeds := by simp
  pending := Nat.zero_le _
  boundaries := ⟨[], [], rfl, rfl, rfl, by simp⟩

namespace Divides

variable {threshold : Nat} {reads frames : List Bytes} {held : Bytes}

theorem wait (h : Divides threshold reads frames held) (chunk : Bytes)
    (few : (held ++ chunk).length ≤ threshold) :
    Divides threshold (reads ++ [chunk]) frames (held ++ chunk) := by
  obtain ⟨groups, last, split, cut, rest, first⟩ := h.boundaries
  refine ⟨?_, h.exceeds, few, groups, last ++ [chunk], ?_, cut, ?_, first⟩
  · rw [← List.append_assoc, h.joined, List.flatten_append, List.flatten_singleton]
  · rw [split, List.append_assoc]
  · rw [rest, List.flatten_append, List.flatten_singleton]

theorem flush (h : Divides threshold reads frames held) (chunk : Bytes)
    (many : threshold < (held ++ chunk).length) :
    Divides threshold (reads ++ [chunk]) (frames ++ [held ++ chunk]) [] := by
  obtain ⟨groups, last, split, cut, rest, first⟩ := h.boundaries
  have unit : held ++ chunk = (last ++ [chunk]).flatten := by
    rw [rest, List.flatten_append, List.flatten_singleton]
  refine ⟨?_, fun frame mem => ?_, Nat.zero_le _, groups ++ [last ++ [chunk]], [], ?_, ?_, rfl,
    fun group mem earlier initial apart => ?_⟩
  · rw [List.append_nil, List.flatten_append, List.flatten_append, List.flatten_singleton,
      List.flatten_singleton, ← List.append_assoc, h.joined]
  · rcases List.mem_append.mp mem with before | now
    · exact h.exceeds frame before
    · rwa [List.mem_singleton.mp now]
  · rw [split, List.flatten_append, List.flatten_singleton, List.append_nil, List.append_assoc]
  · rw [cut, unit, List.map_append, List.map_singleton]
  · rcases List.mem_append.mp mem with before | now
    · exact first group before earlier initial apart
    · -- Without the read that completes the frame no more was there than is held.
      obtain rfl := List.mem_singleton.mp now
      obtain ⟨more, eq⟩ := (List.prefix_concat_iff.mp initial).resolve_left apart
      have pending := h.pending
      rw [rest, ← eq, List.flatten_append, List.length_append] at pending
      omega

end Divides

namespace Splitter

variable {splitter : Splitter}

theorem push_of_few (bySize : splitter.framing = .bySize) {chunk : Bytes}
    (few : (splitter.held ++ chunk).length ≤ splitter.threshold) :
    splitter.push chunk = ({ splitter with held := splitter.held ++ chunk }, []) := by
  simp only [push, bySize]
  exact if_neg (Nat.not_lt_of_le few)

theorem push_of_many (bySize : splitter.framing = .bySize) {chunk : Bytes}
    (many : splitter.threshold < (splitter.held ++ chunk).length) :
    splitter.push chunk = ({ splitter with held := [] }, [splitter.held ++ chunk]) := by
  simp only [push, bySize]
  exact if_pos many

theorem framing_push (splitter : Splitter) (chunk : Bytes) :
    (splitter.push chunk).1.framing = splitter.framing := by
  simp only [push]
  split
  · split <;> rfl
  · rfl

theorem threshold_push (splitter : Splitter) (chunk : Bytes) :
    (splitter.push chunk).1.threshold = splitter.threshold := by
  simp only [push]
  split
  · split <;> rfl
  · rfl

/-- One read completes one frame at most. -/
theorem length_units_le (bySize : splitter.framing = .bySize) (chunk : Bytes) :
    (splitter.push chunk).2.length ≤ 1 := by
  by_cases few : (splitter.held ++ chunk).length ≤ splitter.threshold
  · rw [push_of_few bySize few]
    exact Nat.zero_le _
  · rw [push_of_many bySize (Nat.lt_of_not_le few)]
    exact Nat.le_refl _

theorem divides_push (bySize : splitter.framing = .bySize) {reads frames : List Bytes}
    (h : Divides splitter.threshold reads frames splitter.held) (chunk : Bytes) :
    Divides splitter.threshold (reads ++ [chunk]) (frames ++ (splitter.push chunk).2)
      (splitter.push chunk).1.held := by
  by_cases few : (splitter.held ++ chunk).length ≤ splitter.threshold
  · rw [push_of_few bySize few, List.append_nil]
    exact h.wait chunk few
  · have many := Nat.lt_of_not_le few
    rw [push_of_many bySize many]
    exact h.flush chunk many

end Splitter

/-! ### The account of a supervisor -/

def Report.count : Report → Nat
  | .bytes count => count
  | _ => 0

def Report.frame? : Report → Option Frame
  | .frame image => some image
  | _ => none

namespace Watch

/-- What was read and is not counted yet. -/
def uncounted : Watch → List Bytes
  | .counting chunk => [chunk]
  | _ => []

/-- What was cut and is not reported yet. -/
def unreported : Watch → List Bytes
  | .offering unit more => unit :: more
  | _ => []

/-- How many reports are to be made, at most, before the next read; none if there is no next. -/
def ahead? : Watch → Option Nat
  | .watching => some 0
  | .counting _ => some 2
  | .offering _ more => some (more.length + 1)
  | _ => none

end Watch

namespace Supervisor

/-- The bytes that are taken in with an observation. -/
def intake? (supervisor : Supervisor) : Observation → Option Bytes
  | .read chunk =>
    if supervisor.watch = .watching ∧ supervisor.outputOpen = true ∧ chunk ≠ [] then some chunk
    else none
  | _ => none

/-- Where the bytes of the reads are, when so many of them were counted and these frames were
reported. -/
structure Accounts (supervisor : Supervisor) (threshold : Nat) (reads : List Bytes) (count : Nat)
    (frames : List Frame) : Prop where
  bySize : supervisor.splitter.framing = .bySize
  limit : supervisor.splitter.threshold = threshold
  numbers : frames.map (·.sequence) = List.range supervisor.sequence
  divides : ∃ counted, reads = counted ++ supervisor.watch.uncounted ∧
    count = counted.flatten.length ∧
    Divides threshold counted (frames.map (·.data) ++ supervisor.watch.unreported)
      supervisor.splitter.held

variable {supervisor : Supervisor} {threshold count : Nat} {reads : List Bytes}
  {frames : List Frame}

theorem accounts_start {settings : DecoderSettings} (bySize : settings.framing = .bySize)
    (device : Device) (session : Nat) :
    (start settings device session).Accounts (max settings.flushThreshold 1) [] 0 [] :=
  ⟨bySize, rfl, rfl, [], rfl, rfl, divides_nil _⟩

@[simp] theorem splitter_offer (supervisor : Supervisor) (units : List Bytes) :
    (supervisor.offer units).splitter = supervisor.splitter := by
  cases units <;> rfl

@[simp] theorem sequence_offer (supervisor : Supervisor) (units : List Bytes) :
    (supervisor.offer units).sequence = supervisor.sequence := by
  cases units <;> rfl

@[simp] theorem outputOpen_offer (supervisor : Supervisor) (units : List Bytes) :
    (supervisor.offer units).outputOpen = supervisor.outputOpen := by
  cases units <;> rfl

theorem uncounted_offer (supervisor : Supervisor) (units : List Bytes) :
    (supervisor.offer units).watch.uncounted = [] := by
  cases units <;> rfl

theorem unreported_offer (supervisor : Supervisor) (units : List Bytes) :
    (supervisor.offer units).watch.unreported = units := by
  cases units <;> rfl

theorem ahead?_offer (supervisor : Supervisor) (units : List Bytes) :
    (supervisor.offer units).watch.ahead? = some units.length := by
  cases units <;> rfl

theorem answer_of_counting {chunk : Bytes} (watch : supervisor.watch = .counting chunk) :
    supervisor.answer true =
      ({ supervisor with splitter := (supervisor.splitter.push chunk).1 } : Supervisor).offer
        (supervisor.splitter.push chunk).2 := by
  simp only [answer, watch, if_true]

theorem answer_of_offering {unit : Bytes} {more : List Bytes}
    (watch : supervisor.watch = .offering unit more) :
    supervisor.answer true =
      ({ supervisor with sequence := supervisor.sequence + 1 } : Supervisor).offer more := by
  simp only [answer, watch, if_true]

theorem splitter_observe (supervisor : Supervisor) (observation : Observation) :
    (supervisor.observe observation).splitter = supervisor.splitter := by
  unfold observe
  split
  any_goals rfl
  split <;> rfl

theorem sequence_observe (supervisor : Supervisor) (observation : Observation) :
    (supervisor.observe observation).sequence = supervisor.sequence := by
  unfold observe
  split
  any_goals rfl
  split <;> rfl

theorem uncounted_observe (supervisor : Supervisor) (observation : Observation) :
    (supervisor.observe observation).watch.uncounted =
      supervisor.watch.uncounted ++ (supervisor.intake? observation).toList := by
  cases watch : supervisor.watch with
  | watching =>
    cases observation with
    | read chunk =>
      cases chunk with
      | nil => simp [observe, intake?, watch, Watch.uncounted]
      | cons byte rest =>
        cases opened : supervisor.outputOpen <;>
          simp [observe, intake?, watch, opened, Watch.uncounted]
    | _ => simp [observe, intake?, watch, Watch.uncounted]
  | _ => cases observation <;> simp [observe, intake?, watch, Watch.uncounted]

theorem unreported_observe (supervisor : Supervisor) (observation : Observation) :
    (supervisor.observe observation).watch.unreported = supervisor.watch.unreported := by
  cases watch : supervisor.watch with
  | watching =>
    cases observation with
    | read chunk =>
      simp only [observe, watch]
      split <;> simp [watch, Watch.unreported]
    | _ => simp [observe, watch, Watch.unreported]
  | _ => cases observation <;> simp [observe, watch, Watch.unreported]

namespace Accounts

theorem observe (h : supervisor.Accounts threshold reads count frames)
    (observation : Observation) :
    (supervisor.observe observation).Accounts threshold
      (reads ++ (supervisor.intake? observation).toList) count frames := by
  obtain ⟨counted, split, total, divides⟩ := h.divides
  refine ⟨?_, ?_, ?_, counted, ?_, total, ?_⟩
  · rw [splitter_observe]
    exact h.bySize
  · rw [splitter_observe]
    exact h.limit
  · rw [sequence_observe]
    exact h.numbers
  · rw [uncounted_observe, split, List.append_assoc]
  · rwa [splitter_observe, unreported_observe]

/-- A report that is wanted moves bytes on, and loses none. -/
theorem answer (h : supervisor.Accounts threshold reads count frames) {report : Report}
    (due : supervisor.due? = some report) (inner : ∀ exit, report ≠ .exit exit) :
    (supervisor.answer true).Accounts threshold reads (count + report.count)
      (frames ++ report.frame?.toList) := by
  obtain ⟨bySize, rfl, numbers, counted, split, total, divides⟩ := h
  simp only [due?] at due
  split at due
  · next chunk watch =>
    obtain rfl := Option.some.inj due
    rw [watch] at split divides
    simp only [Watch.unreported, List.append_nil] at divides
    rw [answer_of_counting watch]
    refine ⟨?_, ?_, ?_, counted ++ [chunk], ?_, ?_, ?_⟩
    · rw [splitter_offer]
      exact (supervisor.splitter.framing_push chunk).trans bySize
    · rw [splitter_offer]
      exact supervisor.splitter.threshold_push chunk
    · simpa [Report.frame?] using numbers
    · rw [split, uncounted_offer, List.append_nil]
      rfl
    · simp [Report.count, total]
    · rw [splitter_offer, unreported_offer]
      simpa [Report.frame?] using Splitter.divides_push bySize divides chunk
  · next unit more watch =>
    obtain rfl := Option.some.inj due
    rw [watch] at split divides
    rw [answer_of_offering watch]
    refine ⟨?_, ?_, ?_, counted, ?_, ?_, ?_⟩
    · rw [splitter_offer]
      exact bySize
    · rw [splitter_offer]
    · rw [sequence_offer, List.range_succ, ← numbers]
      simp [Report.frame?]
    · rw [split, uncounted_offer]
      rfl
    · exact total
    · rw [splitter_offer, unreported_offer]
      simpa [Report.frame?, Watch.unreported] using divides
  · next exit watch => exact absurd (Option.some.inj due).symm (inner exit)
  · cases due

theorem numbered (h : supervisor.Accounts threshold reads count frames) :
    frames.map (·.sequence) = List.range frames.length := by
  have total := congrArg List.length h.numbers
  rw [List.length_map, List.length_range] at total
  rw [h.numbers, total]

theorem rest (h : supervisor.Accounts threshold reads count frames)
    (quiet : supervisor.due? = none) :
    count = reads.flatten.length ∧
      Divides threshold reads (frames.map (·.data)) supervisor.splitter.held := by
  obtain ⟨counted, split, total, divides⟩ := h.divides
  have nothing : supervisor.watch.uncounted = [] ∧ supervisor.watch.unreported = [] := by
    cases watch : supervisor.watch with
    | counting chunk => simp [due?, watch] at quiet
    | offering unit more => simp [due?, watch] at quiet
    | _ => exact ⟨rfl, rfl⟩
  rw [nothing.1, List.append_nil] at split
  rw [nothing.2, List.append_nil] at divides
  rw [split]
  exact ⟨total, divides⟩

end Accounts

/-! ### Reports to a sink -/

section

variable {σ : Type} (sink : σ → Device → Nat → Report → σ × Bool)

/-- The sink, with a log of the reports that were made to it and of its answers. -/
def logging (state : σ × List (Report × Bool)) (device : Device) (session : Nat)
    (report : Report) : (σ × List (Report × Bool)) × Bool :=
  let (next, wanted) := sink state.1 device session report
  ((next, state.2 ++ [(report, wanted)]), wanted)

/-- How many bytes were reported. -/
def countOf (log : List (Report × Bool)) : Nat :=
  log.foldl (fun total entry => total + entry.1.count) 0

def framesOf (log : List (Report × Bool)) : List Frame := log.filterMap (·.1.frame?)

/-- The log makes no difference to a sink. -/
theorem reportUpTo_logging (fuel : Nat) (supervisor : Supervisor)
    (state : σ × List (Report × Bool)) :
    ((reportUpTo (logging sink) fuel supervisor state).1,
        (reportUpTo (logging sink) fuel supervisor state).2.1) =
      reportUpTo sink fuel supervisor state.1 := by
  induction fuel generalizing supervisor state with
  | zero => rfl
  | succ fuel ih =>
    unfold reportUpTo
    split
    · rfl
    · exact ih _ _

theorem run_logging (supervisor : Supervisor) (state : σ × List (Report × Bool))
    (observations : List Observation) :
    ((supervisor.run (logging sink) state observations).1,
        (supervisor.run (logging sink) state observations).2.1) =
      supervisor.run sink state.1 observations := by
  induction observations generalizing supervisor state with
  | nil => rfl
  | cons observation rest ih =>
    have reports := reportUpTo_logging sink (supervisor.observe observation).reportsLeft
      (supervisor.observe observation) state
    simp only [run, reportAll, ← reports]
    exact ih _ _

theorem log_prefix_reportUpTo (fuel : Nat) (supervisor : Supervisor)
    (state : σ × List (Report × Bool)) :
    state.2 <+: (reportUpTo (logging sink) fuel supervisor state).2.2 := by
  induction fuel generalizing supervisor state with
  | zero => exact List.prefix_refl _
  | succ fuel ih =>
    unfold reportUpTo
    split
    · exact List.prefix_refl _
    · next report _ =>
      let made := logging sink state supervisor.device supervisor.session report
      have later : made.1.2 <+: (reportUpTo (logging sink) fuel (supervisor.answer made.2)
          made.1).2.2 := ih _ _
      exact (List.prefix_append state.2 _).trans later

theorem log_prefix_run (supervisor : Supervisor) (state : σ × List (Report × Bool))
    (observations : List Observation) :
    state.2 <+: (supervisor.run (logging sink) state observations).2.2 := by
  induction observations generalizing supervisor state with
  | nil => exact List.prefix_refl _
  | cons observation rest ih => exact (log_prefix_reportUpTo ..).trans (ih ..)

variable {sink} {state : σ × List (Report × Bool)}

theorem watching_of_quiet {left : Nat} (ahead : supervisor.watch.ahead? = some left)
    (quiet : supervisor.due? = none) : supervisor.watch = .watching := by
  cases watch : supervisor.watch with
  | watching => rfl
  | counting chunk => simp [due?, watch] at quiet
  | offering unit more => simp [due?, watch] at quiet
  | _ => simp [Watch.ahead?, watch] at ahead

theorem ahead?_answer (bySize : supervisor.splitter.framing = .bySize) {left : Nat}
    (ahead : supervisor.watch.ahead? = some left) {report : Report}
    (due : supervisor.due? = some report) :
    (∀ exit, report ≠ .exit exit) ∧
      ∃ fewer, (supervisor.answer true).watch.ahead? = some fewer ∧ fewer < left := by
  cases watch : supervisor.watch with
  | counting chunk =>
    obtain rfl : Report.bytes chunk.length = report := by simpa [due?, watch] using due
    obtain rfl : 2 = left := by simpa [Watch.ahead?, watch] using ahead
    refine ⟨fun exit => by simp, _, ?_, Nat.lt_succ_of_le (Splitter.length_units_le bySize chunk)⟩
    rw [answer_of_counting watch, ahead?_offer]
  | offering unit more =>
    obtain rfl : Report.frame ⟨supervisor.sequence, unit⟩ = report := by
      simpa [due?, watch] using due
    obtain rfl : more.length + 1 = left := by simpa [Watch.ahead?, watch] using ahead
    refine ⟨fun exit => by simp, _, ?_, Nat.lt_succ_self _⟩
    rw [answer_of_offering watch, ahead?_offer]
  | watching => simp [due?, watch] at due
  | _ => simp [Watch.ahead?, watch] at ahead

theorem outputOpen_answer (supervisor : Supervisor) (wanted : Bool) :
    (supervisor.answer wanted).outputOpen = supervisor.outputOpen := by
  simp only [answer]
  split
  · split <;> simp
  · split <;> simp
  · rfl
  · rfl

/-- When all its reports are wanted a supervisor reads on, with its account in order. -/
theorem accounts_reportUpTo {fuel left : Nat}
    (accounts : supervisor.Accounts threshold reads (countOf state.2) (framesOf state.2))
    (ahead : supervisor.watch.ahead? = some left) (enough : left ≤ fuel)
    (wanted : ∀ entry ∈ (reportUpTo (logging sink) fuel supervisor state).2.2, entry.2 = true) :
    let result := reportUpTo (logging sink) fuel supervisor state
    result.1.Accounts threshold reads (countOf result.2.2) (framesOf result.2.2) ∧
      result.1.watch = .watching ∧ result.1.outputOpen = supervisor.outputOpen := by
  induction fuel generalizing supervisor state left with
  | zero =>
    obtain rfl : left = 0 := Nat.le_zero.mp enough
    refine ⟨accounts, ?_, rfl⟩
    cases watch : supervisor.watch with
    | watching => exact watch
    | _ => simp [Watch.ahead?, watch] at ahead
  | succ fuel ih =>
    cases due : supervisor.due? with
    | none =>
      simp only [reportUpTo, due]
      exact ⟨accounts, watching_of_quiet ahead due, trivial⟩
    | some report =>
      simp only [reportUpTo, due] at wanted ⊢
      obtain ⟨inner, fewer, next, less⟩ := ahead?_answer accounts.bySize ahead due
      -- The answer to this report is in the log, and stays there.
      have yes : (sink state.1 supervisor.device supervisor.session report).2 = true := by
        let made := logging sink state supervisor.device supervisor.session report
        have kept := log_prefix_reportUpTo sink fuel (supervisor.answer made.2) made.1
        exact wanted _ (kept.subset (List.mem_append_right state.2 (List.mem_singleton_self _)))
      have moved := accounts.answer due inner
      simp only [logging, yes] at wanted ⊢
      have counted : countOf (state.2 ++ [(report, true)]) = countOf state.2 + report.count := by
        simp [countOf]
      have framed : framesOf (state.2 ++ [(report, true)]) =
          framesOf state.2 ++ report.frame?.toList := by
        cases shown : report.frame? <;> simp [framesOf, shown]
      rw [← counted, ← framed] at moved
      obtain ⟨done, watches, opened⟩ := ih moved next (by omega) wanted
      exact ⟨done, watches, opened.trans (supervisor.outputOpen_answer true)⟩

/-- Whatever the reads, and whatever the sink, the account stands after a run in which all reports
were wanted. -/
theorem accounts_run {chunks : List Bytes} (some : ∀ chunk ∈ chunks, chunk ≠ [])
    (accounts : supervisor.Accounts threshold reads (countOf state.2) (framesOf state.2))
    (watch : supervisor.watch = .watching) (opened : supervisor.outputOpen = true)
    (wanted : ∀ entry ∈ (supervisor.run (logging sink) state (chunks.map .read)).2.2,
      entry.2 = true) :
    let result := supervisor.run (logging sink) state (chunks.map .read)
    result.1.Accounts threshold (reads ++ chunks) (countOf result.2.2) (framesOf result.2.2) ∧
      result.1.watch = .watching := by
  induction chunks generalizing supervisor state reads with
  | nil => simpa [run] using ⟨accounts, watch⟩
  | cons chunk rest ih =>
    have nonempty := some chunk List.mem_cons_self
    let reading := supervisor.observe (.read chunk)
    have counting : reading.watch = .counting chunk := by
      simp [reading, Supervisor.observe, watch, opened, nonempty]
    have taken : reading.Accounts threshold (reads ++ [chunk]) (countOf state.2)
        (framesOf state.2) := by
      simpa [intake?, watch, opened, nonempty] using accounts.observe (.read chunk)
    have ahead : reading.watch.ahead? = Option.some 2 := by rw [counting]; rfl
    have enough : 2 ≤ reading.reportsLeft := by
      rw [reportsLeft, counting]
      exact Nat.le_add_right ..
    let reported := reading.reportAll (logging sink) state
    -- The log of this read is the beginning of the whole log, so its answers are among those.
    have settled := accounts_reportUpTo taken ahead enough fun entry mem =>
      wanted entry ((log_prefix_run sink reported.1 reported.2 (rest.map .read)).subset mem)
    obtain ⟨moved, watches, same⟩ := settled
    have stillOpen : reported.1.outputOpen = true := by
      refine same.trans ?_
      simp [reading, Supervisor.observe, watch, opened, nonempty]
    have split : reads ++ chunk :: rest = (reads ++ [chunk]) ++ rest := by simp
    rw [split]
    exact ih (fun later mem => some later (List.mem_cons_of_mem _ mem)) moved watches stillOpen
      wanted

end

end Supervisor

end CameraRelay
