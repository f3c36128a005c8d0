import CameraRelay.Proofs.Decoder.Intake
import CameraRelay.Proofs.Splitter.Images

/-!
# The reports of a supervisor

What a supervisor would report of some reads is its script: for each read the count of its bytes and
then the frames that it completes. The sink is given the script report by report, up to the first
report that it does not want. One exit report follows an end that is observed or a report that is not
wanted, and nothing follows that. Main statement: `reports_in_order`.
-/

namespace CameraRelay

/-! ### How many units a read completes -/

namespace Image

/-- Each piece takes at least the byte that completes its end marker. -/
theorem length_cutFrom_le (piece stream : Bytes) :
    (cutFrom piece stream).1.length ≤ stream.length := by
  induction stream generalizing piece with
  | nil => exact Nat.le_refl _
  | cons byte rest ih =>
    rw [cutFrom]
    split
    · exact Nat.succ_le_succ (ih [])
    · exact Nat.le_succ_of_le (ih _)

end Image

namespace Splitter

open Image (cut)

variable {splitter : Splitter}

/-- A splitter as chunks leave it: by image, it has searched all that it holds. -/
def Kept (splitter : Splitter) : Prop := splitter.framing = .byImage → splitter.Searched

theorem kept_new (framing : Framing) (threshold : Nat) : (new framing threshold).Kept := by
  intro byImage
  obtain rfl : framing = .byImage := byImage
  exact searched_new threshold

theorem Kept.push (h : splitter.Kept) (chunk : Bytes) : (splitter.push chunk).1.Kept := by
  intro byImage
  rw [framing_push] at byImage
  exact (h byImage).push chunk

theorem Searched.length_units_le (h : splitter.Searched) (chunk : Bytes) :
    (splitter.push chunk).2.length ≤ chunk.length := by
  have held : Image.cutFrom [] splitter.held = ([], splitter.held) := Image.cutFrom_of_clear h.clear
  have resumed : cut (splitter.held ++ chunk) = Image.cutFrom splitter.held chunk := by
    rw [cut, Image.cutFrom_append, held]
    rfl
  rw [h.push_eq, resumed]
  exact Nat.le_trans (List.length_filterMap_le ..) (Image.length_cutFrom_le ..)

theorem Kept.length_units_lt (h : splitter.Kept) (chunk : Bytes) :
    (splitter.push chunk).2.length < 2 + chunk.length := by
  cases framing : splitter.framing with
  | bySize =>
    have few := length_units_le framing chunk
    omega
  | byImage =>
    have few := (h framing).length_units_le chunk
    omega

end Splitter

/-! ### What there is to report -/

def Observation.exit? : Observation → Option DecoderExit
  | .stopRequest => some .stopped
  | .exit status => some (.exited status)
  | .waitFailure message => some (.failed message)
  | _ => none

/-- The end that is observed first. -/
def verdict? (seen : List Observation) : Option DecoderExit := seen.findSome? (·.exit?)

/-- The reads up to the end, or up to the end of the output. -/
def heard : List Observation → List Bytes
  | [] => []
  | .read chunk :: rest => if chunk = [] then heard rest else chunk :: heard rest
  | .terminated :: rest => heard rest
  | _ :: _ => []

/-- Units as frames, numbered from a number on. -/
def framesFrom (sequence : Nat) : List Bytes → List Report
  | [] => []
  | unit :: more => .frame ⟨sequence, unit⟩ :: framesFrom (sequence + 1) more

/-- What there is to report of some reads: of each how much it is, then the frames it completes. -/
def script (splitter : Splitter) (sequence : Nat) : List Bytes → List Report
  | [] => []
  | chunk :: rest =>
    let (next, units) := splitter.push chunk
    .bytes chunk.length ::
      (framesFrom sequence units ++ script next (sequence + units.length) rest)

/-- Reports that were made along a script, up to the first that was not wanted. -/
inductive Made : List Report → List (Report × Bool) → Prop
  | nil : Made [] []
  | refused (report : Report) (script : List Report) : Made (report :: script) [(report, false)]
  | wanted {script : List Report} {made : List (Report × Bool)} (report : Report)
    (rest : Made script made) : Made (report :: script) ((report, true) :: made)

def allWanted (made : List (Report × Bool)) : Bool := made.all (·.2)

/-- The end that supervision comes to: it was stopped if something was not wanted. -/
def ending? (seen : List Observation) (made : List (Report × Bool)) : Option DecoderExit :=
  if allWanted made then verdict? seen else some .stopped

namespace Made

variable {first second : List Report} {made more : List (Report × Bool)}

theorem append_of_wanted (h : Made first made) (all : allWanted made = true)
    (h' : Made second more) : Made (first ++ second) (made ++ more) := by
  induction h with
  | nil => exact h'
  | refused => simp [allWanted] at all
  | wanted report _ ih =>
    refine .wanted report (ih ?_)
    simpa [allWanted] using all

theorem append_of_refused (h : Made first made) (some : allWanted made = false)
    (second : List Report) : Made (first ++ second) made := by
  induction h with
  | nil => simp [allWanted] at some
  | refused report script => exact .refused report _
  | wanted report _ ih =>
    refine .wanted report (ih ?_)
    simpa [allWanted] using some

theorem isPrefix (h : Made first made) : made.map (·.1) <+: first := by
  induction h with
  | nil => exact List.prefix_refl _
  | refused => simp
  | wanted report _ ih => simpa using ih

theorem whole (h : Made first made) (all : allWanted made = true) : made.map (·.1) = first := by
  induction h with
  | nil => rfl
  | refused => simp [allWanted] at all
  | wanted report _ ih =>
    have rest := ih (by simpa [allWanted] using all)
    rw [List.map_cons, rest]

theorem wanted_of_mem_dropLast (h : Made first made) {entry : Report × Bool}
    (mem : entry ∈ made.dropLast) : entry.2 = true := by
  induction h with
  | nil => cases mem
  | refused => cases mem
  | @wanted script made report rest ih =>
    cases made with
    | nil => cases mem
    | cons next later =>
      rw [List.dropLast_cons_cons] at mem
      rcases List.mem_cons.mp mem with rfl | behind
      · rfl
      · exact ih behind

end Made

/-- How a supervisor stands and what it reported of its end, if it has an end to report. -/
inductive Concluded : Option DecoderExit → Watch → List (Report × Bool) → Prop
  | on : Concluded none .watching []
  /-- It told its decoder to stop, and waits until it is gone. -/
  | stopping : Concluded (some .stopped) .stopping []
  | finished (exit : DecoderExit) (answer : Bool) :
    Concluded (some exit) .finished [(.exit exit, answer)]

/-! ### Reports along a script -/

namespace Supervisor

variable {σ : Type} {sink : σ → Device → Nat → Report → σ × Bool} {supervisor : Supervisor}

theorem reportUpTo_of_quiet (quiet : supervisor.due? = none) (fuel : Nat) (state : σ) :
    reportUpTo sink fuel supervisor state = (supervisor, state) := by
  cases fuel with
  | zero => rfl
  | succ fuel => simp only [reportUpTo, quiet]

theorem offer_with (supervisor : Supervisor) (watch : Watch) (units : List Bytes) :
    ({ supervisor with watch } : Supervisor).offer units = supervisor.offer units := by
  cases units <;> rfl

/-- A report is made, and its answer written down with it. -/
theorem reportUpTo_of_due (sink : σ → Device → Nat → Report → σ × Bool) {report : Report}
    (due : supervisor.due? = some report) (fuel : Nat) (state : σ × List (Report × Bool)) :
    ∃ wanted next, reportUpTo (logging sink) (fuel + 1) supervisor state =
      reportUpTo (logging sink) fuel (supervisor.answer wanted)
        (next, state.2 ++ [(report, wanted)]) := by
  let made := sink state.1 supervisor.device supervisor.session report
  refine ⟨made.2, made.1, ?_⟩
  simp only [reportUpTo, due, logging, made]

theorem reportUpTo_offer (sink : σ → Device → Nat → Report → σ × Bool) (units : List Bytes)
    {fuel : Nat} (enough : units.length ≤ fuel) (supervisor : Supervisor)
    (state : σ × List (Report × Bool)) :
    let result := reportUpTo (logging sink) fuel (supervisor.offer units) state
    ∃ made, result.2.2 = state.2 ++ made ∧ Made (framesFrom supervisor.sequence units) made ∧
      (allWanted made = true →
        result.1 =
          { supervisor with
            sequence := supervisor.sequence + units.length
            watch := .watching }) ∧
      (allWanted made = false → result.1.watch = .stopping) := by
  induction units generalizing supervisor state fuel with
  | nil =>
    have quiet : (supervisor.offer []).due? = none := rfl
    rw [reportUpTo_of_quiet quiet]
    exact ⟨[], (List.append_nil _).symm, .nil, fun _ => rfl, fun refused => by cases refused⟩
  | cons unit more ih =>
    obtain ⟨fuel, rfl⟩ := Nat.exists_eq_add_one.mpr (Nat.lt_of_lt_of_le (Nat.zero_lt_succ _) enough)
    let report := Report.frame ⟨supervisor.sequence, unit⟩
    have due : (supervisor.offer (unit :: more)).due? = some report := rfl
    obtain ⟨wanted, next, eq⟩ := reportUpTo_of_due sink due fuel state
    rw [eq]
    let numbered := { supervisor with sequence := supervisor.sequence + 1 }
    cases wanted with
    | false =>
      have told : (supervisor.offer (unit :: more)).answer false =
          { numbered with watch := .stopping } := rfl
      have quiet : ({ numbered with watch := .stopping } : Supervisor).due? = none := rfl
      rw [told, reportUpTo_of_quiet quiet]
      exact ⟨[(report, false)], rfl, .refused .., fun all => (by cases all), fun _ => rfl⟩
    | true =>
      have goesOn : (supervisor.offer (unit :: more)).answer true = numbered.offer more := by
        rw [answer_of_offering rfl]
        exact offer_with numbered (.offering unit more) more
      obtain ⟨made, log, along, all, refused⟩ := ih (Nat.le_of_succ_le_succ enough) numbered
        (next, state.2 ++ [(report, true)])
      rw [goesOn]
      refine ⟨(report, true) :: made, ?_, .wanted report along, fun rest => ?_, fun some => ?_⟩
      · rw [log]
        simp
      · rw [all (by simpa [allWanted] using rest)]
        simp only [numbered, List.length_cons, Nat.add_assoc, Nat.add_comm 1]
      · exact refused (by simpa [allWanted] using some)

/-- A read is reported along its script, and then the supervisor goes on or stops its decoder. -/
theorem reportAll_of_counting (sink : σ → Device → Nat → Report → σ × Bool) {chunk : Bytes}
    (kept : supervisor.splitter.Kept) (watch : supervisor.watch = .counting chunk)
    (state : σ × List (Report × Bool)) :
    let result := supervisor.reportAll (logging sink) state
    let pushed := supervisor.splitter.push chunk
    ∃ made, result.2.2 = state.2 ++ made ∧
      Made (.bytes chunk.length :: framesFrom supervisor.sequence pushed.2) made ∧
      (allWanted made = true →
        result.1 =
          { supervisor with
            splitter := pushed.1
            sequence := supervisor.sequence + pushed.2.length
            watch := .watching }) ∧
      (allWanted made = false → result.1.watch = .stopping) := by
  intro result pushed
  have enough : pushed.2.length ≤ 1 + chunk.length := by
    have few : pushed.2.length < 2 + chunk.length := kept.length_units_lt chunk
    omega
  have left : supervisor.reportsLeft = 1 + chunk.length + 1 := by
    simp only [reportsLeft, watch]
    omega
  have due : supervisor.due? = some (.bytes chunk.length) := by
    rw [due?, watch]
  obtain ⟨wanted, next, eq⟩ := reportUpTo_of_due sink due (1 + chunk.length) state
  have reported : result = reportUpTo (logging sink) (1 + chunk.length)
      (supervisor.answer wanted) (next, state.2 ++ [(.bytes chunk.length, wanted)]) := by
    rw [← eq, ← left]
    rfl
  rw [reported]
  let cut := { supervisor with splitter := pushed.1 }
  cases wanted with
  | false =>
    have told : supervisor.answer false = { cut with watch := .stopping } := by
      simp only [answer, watch]
      rfl
    have quiet : ({ cut with watch := .stopping } : Supervisor).due? = none := rfl
    rw [told, reportUpTo_of_quiet quiet]
    exact ⟨[(.bytes chunk.length, false)], rfl, .refused .., fun all => (by cases all),
      fun _ => rfl⟩
  | true =>
    obtain ⟨made, log, along, all, refused⟩ := reportUpTo_offer sink pushed.2 enough cut
      (next, state.2 ++ [(.bytes chunk.length, true)])
    rw [answer_of_counting watch]
    refine ⟨(.bytes chunk.length, true) :: made, ?_, .wanted _ along, fun rest => ?_,
      fun some => ?_⟩
    · exact log.trans (by simp)
    · exact all (by simpa [allWanted] using rest)
    · exact refused (by simpa [allWanted] using some)

/-- The exit report is made once, whatever its answer. -/
theorem reportAll_of_leaving (sink : σ → Device → Nat → Report → σ × Bool) {exit : DecoderExit}
    (watch : supervisor.watch = .leaving exit) (state : σ × List (Report × Bool)) :
    ∃ answer, (supervisor.reportAll (logging sink) state).1.watch = .finished ∧
      (supervisor.reportAll (logging sink) state).2.2 = state.2 ++ [(.exit exit, answer)] := by
  have left : supervisor.reportsLeft = 0 + 1 := by
    rw [reportsLeft, watch]
  have due : supervisor.due? = some (.exit exit) := by
    rw [due?, watch]
  obtain ⟨answer, next, eq⟩ := reportUpTo_of_due sink due 0 state
  refine ⟨answer, ?_, ?_⟩
  · rw [reportAll, left, eq]
    simp only [reportUpTo, Supervisor.answer, watch]
  · rw [reportAll, left, eq]
    rfl

/-! ### Whatever there is to see -/

theorem reportAll_of_quiet (quiet : supervisor.due? = none) (state : σ) :
    supervisor.reportAll sink state = (supervisor, state) :=
  reportUpTo_of_quiet quiet _ state

theorem attend_cons (sight : Sight) (rest : List Sight) (state : σ) :
    supervisor.attend sink state (sight :: rest) =
      ((supervisor.look sight).reportAll sink state).1.attend sink
        ((supervisor.look sight).reportAll sink state).2 rest := rfl

theorem look_of_some {sight : Sight} {observation : Observation}
    (first : sight.first? = some observation) :
    supervisor.look sight = supervisor.observe observation := by
  simp only [look, first]

theorem look_of_none {sight : Sight} (nothing : sight.first? = none) :
    supervisor.look sight = supervisor := by
  simp only [look, nothing]

theorem attend_of_finished (watch : supervisor.watch = .finished) (sights : List Sight)
    (state : σ) : supervisor.attend sink state sights = (supervisor, state) := by
  have quiet : supervisor.due? = none := by
    simp only [due?, watch]
  induction sights with
  | nil => rfl
  | cons sight rest ih =>
    have same : supervisor.look sight = supervisor := by
      cases first : sight.first? with
      | none => exact look_of_none first
      | some observation =>
        rw [look_of_some first]
        cases observation <;> simp only [observe, watch]
    rw [attend_cons, same, reportAll_of_quiet quiet]
    exact ih

/-- A supervisor that stops its decoder reports its end when the decoder is gone, and no more. -/
theorem attend_of_stopping (sink : σ → Device → Nat → Report → σ × Bool)
    (watch : supervisor.watch = .stopping) (sights : List Sight)
    (state : σ × List (Report × Bool)) :
    let result := supervisor.attend (logging sink) state sights
    ∃ exits, result.2.2 = state.2 ++ exits ∧ Concluded (some .stopped) result.1.watch exits := by
  have quiet : supervisor.due? = none := by
    simp only [due?, watch]
  induction sights with
  | nil =>
    refine ⟨[], (List.append_nil _).symm, ?_⟩
    show Concluded _ supervisor.watch _
    rw [watch]
    exact .stopping
  | cons sight rest ih =>
    by_cases gone : sight.first? = some .terminated
    · have leaving : (supervisor.observe .terminated).watch = .leaving .stopped := by
        simp only [observe, watch]
      obtain ⟨answer, finished, log⟩ := reportAll_of_leaving sink leaving state
      rw [attend_cons, look_of_some gone, attend_of_finished finished]
      refine ⟨_, log, ?_⟩
      rw [finished]
      exact .finished ..
    · have same : supervisor.look sight = supervisor := by
        cases first : sight.first? with
        | none => exact look_of_none first
        | some observation =>
          rw [look_of_some first]
          cases observation with
          | terminated => exact absurd first gone
          | _ => simp only [observe, watch]
      rw [attend_cons, same, reportAll_of_quiet quiet]
      exact ih

/-- The reports of a supervisor at rest over what it sees are those of its script, and that of its
end. -/
def Abides (supervisor : Supervisor) (seen : List Observation) (watch : Watch)
    (log : List (Report × Bool)) : Prop :=
  ∃ made exits, log = made ++ exits ∧
    Made (script supervisor.splitter supervisor.sequence
      (if supervisor.outputOpen then heard seen else [])) made ∧
    Concluded (ending? seen made) watch exits

/-- An end that is observed at rest is all there is to report. -/
theorem abides_of_end {observation : Observation} {exit : DecoderExit}
    (ends : observation.exit? = some exit) (rest : List Observation) {watch : Watch}
    {exits : List (Report × Bool)} (concluded : Concluded (some exit) watch exits) :
    supervisor.Abides (observation :: rest) watch exits := by
  have silent : heard (observation :: rest) = [] := by
    cases observation with
    | stopRequest => rfl
    | exit status => rfl
    | waitFailure message => rfl
    | _ => cases ends
  have verdict : verdict? (observation :: rest) = some exit := by
    simp only [verdict?, List.findSome?_cons, ends]
  refine ⟨[], exits, rfl, ?_, ?_⟩
  · rw [silent, ite_self]
    exact .nil
  · show Concluded (verdict? (observation :: rest)) watch exits
    rwa [verdict]

/-- What is observed makes no difference to what there is to report. -/
theorem Abides.pass {before after : Supervisor} {observation : Observation}
    {seen : List Observation} {watch : Watch} {log : List (Report × Bool)}
    (h : after.Abides seen watch log) (splitter : after.splitter = before.splitter)
    (sequence : after.sequence = before.sequence)
    (reads : (if before.outputOpen then heard (observation :: seen) else []) =
      if after.outputOpen then heard seen else [])
    (goesOn : observation.exit? = none) : before.Abides (observation :: seen) watch log := by
  obtain ⟨made, exits, split, along, concluded⟩ := h
  have verdict : verdict? (observation :: seen) = verdict? seen := by
    simp only [verdict?, List.findSome?_cons, goesOn]
  refine ⟨made, exits, split, ?_, ?_⟩
  · rwa [reads, ← splitter, ← sequence]
  · rwa [ending?, verdict]

/-- A read is reported before all that comes later; if one of its reports is not wanted, nothing but
the end comes later. -/
theorem abides_of_read (after : Supervisor) {chunk : Bytes} (nonempty : chunk ≠ [])
    (opened : supervisor.outputOpen = true) (seen : List Observation) {made : List (Report × Bool)}
    (along : Made (.bytes chunk.length ::
      framesFrom supervisor.sequence (supervisor.splitter.push chunk).2) made) {watch : Watch}
    {log : List (Report × Bool)}
    (goesOn : allWanted made = true →
      after.splitter = (supervisor.splitter.push chunk).1 ∧
      after.sequence = supervisor.sequence + (supervisor.splitter.push chunk).2.length ∧
      after.outputOpen = true ∧ after.Abides seen watch log)
    (stops : allWanted made = false → Concluded (some .stopped) watch log) :
    supervisor.Abides (.read chunk :: seen) watch (made ++ log) := by
  have hears : heard (.read chunk :: seen) = chunk :: heard seen := by
    rw [heard, if_neg nonempty]
  unfold Abides
  rw [opened, if_pos rfl, hears, script]
  cases wanted : allWanted made with
  | true =>
    obtain ⟨splitter, sequence, still, more, exits, rfl, rest, concluded⟩ := goesOn wanted
    rw [still, if_pos rfl, splitter, sequence] at rest
    refine ⟨made ++ more, exits, (List.append_assoc ..).symm, ?_, ?_⟩
    · exact along.append_of_wanted wanted rest
    · have both : allWanted (made ++ more) = allWanted more := by
        rw [allWanted, List.all_append]
        exact (congrArg (· && allWanted more) wanted).trans (Bool.true_and _)
      rwa [ending?, both]
  | false =>
    refine ⟨made, log, rfl, along.append_of_refused wanted _, ?_⟩
    rw [ending?, wanted]
    exact stops wanted

/-- A log is continued as it should be over what is seen. -/
def Reports (supervisor : Supervisor) (seen : List Observation) (state : σ × List (Report × Bool))
    (result : Supervisor × σ × List (Report × Bool)) : Prop :=
  ∃ log, result.2.2 = state.2 ++ log ∧ supervisor.Abides seen result.1.watch log

theorem reports_of_leaving (sink : σ → Device → Nat → Report → σ × Bool)
    {observation : Observation} {exit : DecoderExit} (ends : observation.exit? = some exit)
    (leaving : (supervisor.observe observation).watch = .leaving exit) (seen : List Observation)
    (rest : List Sight) (state : σ × List (Report × Bool)) :
    let reported := (supervisor.observe observation).reportAll (logging sink) state
    supervisor.Reports (observation :: seen) state
      (reported.1.attend (logging sink) reported.2 rest) := by
  intro reported
  obtain ⟨answer, finished, log⟩ := reportAll_of_leaving sink leaving state
  have still : reported.1.attend (logging sink) reported.2 rest = reported :=
    attend_of_finished finished rest reported.2
  rw [still]
  refine ⟨_, log, abides_of_end ends _ ?_⟩
  rw [finished]
  exact .finished ..

theorem reports_of_read (sink : σ → Device → Nat → Report → σ × Bool) {chunk : Bytes}
    (kept : supervisor.splitter.Kept) (watch : supervisor.watch = .watching)
    (opened : supervisor.outputOpen = true) (nonempty : chunk ≠ []) {seen : List Observation}
    {rest : List Sight} (state : σ × List (Report × Bool))
    (goesOn : ∀ (next : Supervisor) (state : σ × List (Report × Bool)), next.splitter.Kept →
      next.watch = .watching → next.Reports seen state (next.attend (logging sink) state rest)) :
    let reported := (supervisor.observe (.read chunk)).reportAll (logging sink) state
    supervisor.Reports (.read chunk :: seen) state
      (reported.1.attend (logging sink) reported.2 rest) := by
  let reading := { supervisor with watch := .counting chunk }
  have reads : supervisor.observe (.read chunk) = reading := by
    simp [observe, watch, opened, nonempty, reading]
  rw [reads]
  intro reported
  obtain ⟨made, eq, along, all, refused⟩ :=
    reportAll_of_counting sink (show reading.splitter.Kept from kept) rfl state
  cases wanted : allWanted made with
  | true =>
    have watches : reported.1 = _ := all wanted
    have kept' : reported.1.splitter.Kept := by
      rw [watches]
      exact kept.push chunk
    obtain ⟨log, more, abides⟩ := goesOn reported.1 reported.2 kept' (by rw [watches])
    refine ⟨made ++ log, ?_, ?_⟩
    · rw [more, eq, List.append_assoc]
    · refine abides_of_read reported.1 nonempty opened _ along (fun _ => ?_) fun some => ?_
      · refine ⟨?_, ?_, ?_, abides⟩
        all_goals rw [watches]
        exact opened
      · rw [wanted] at some
        cases some
  | false =>
    obtain ⟨exits, more, concluded⟩ := attend_of_stopping sink (refused wanted) rest reported.2
    refine ⟨made ++ exits, ?_, ?_⟩
    · rw [more, eq, List.append_assoc]
    · refine abides_of_read reported.1 nonempty opened _ along (fun all => ?_) fun _ => concluded
      rw [wanted] at all
      cases all

/-- Whatever there is to see, and whatever the sink answers. -/
theorem attend_of_watching (sink : σ → Device → Nat → Report → σ × Bool)
    (kept : supervisor.splitter.Kept) (watch : supervisor.watch = .watching)
    (sights : List Sight) (state : σ × List (Report × Bool)) :
    supervisor.Reports (sights.filterMap (·.first?)) state
      (supervisor.attend (logging sink) state sights) := by
  induction sights generalizing supervisor state with
  | nil =>
    refine ⟨[], (List.append_nil _).symm, [], [], rfl, ?_, ?_⟩
    · rw [List.filterMap_nil, heard, ite_self]
      exact .nil
    · show Concluded none supervisor.watch []
      rw [watch]
      exact .on
  | cons sight rest ih =>
    have quiet : supervisor.due? = none := by
      simp only [due?, watch]
    cases first : sight.first? with
    | none =>
      rw [attend_cons, look_of_none first, reportAll_of_quiet quiet, List.filterMap_cons_none first]
      exact ih kept watch state
    | some observation =>
      rw [attend_cons, look_of_some first, List.filterMap_cons_some first]
      let deaf := { supervisor with outputOpen := false }
      -- The output is over; supervision goes on.
      have goesDeaf (closes : supervisor.observe observation = deaf)
          (silent : heard (observation :: rest.filterMap (·.first?)) = [])
          (goesOn : observation.exit? = none) :
          let reported := (supervisor.observe observation).reportAll (logging sink) state
          supervisor.Reports (observation :: rest.filterMap (·.first?)) state
            (reported.1.attend (logging sink) reported.2 rest) := by
        have idle : deaf.due? = none := by simp only [due?, deaf, watch]
        have kept' : deaf.splitter.Kept := kept
        have watch' : deaf.watch = .watching := watch
        obtain ⟨log, eq, abides⟩ := ih kept' watch' state
        rw [closes, reportAll_of_quiet idle]
        refine ⟨log, eq, abides.pass rfl rfl ?_ goesOn⟩
        rw [silent, ite_self]
        rfl
      cases observation with
      | stopRequest =>
        have stops : supervisor.observe .stopRequest = { supervisor with watch := .stopping } := by
          simp only [observe, watch]
        rw [stops, reportAll_of_quiet rfl]
        obtain ⟨exits, log, concluded⟩ := attend_of_stopping sink
          (show ({ supervisor with watch := .stopping } : Supervisor).watch = _ from rfl) rest state
        exact ⟨exits, log, abides_of_end rfl _ concluded⟩
      | exit status =>
        exact reports_of_leaving sink rfl (by simp only [observe, watch]) _ rest state
      | waitFailure message =>
        exact reports_of_leaving sink rfl (by simp only [observe, watch]) _ rest state
      | read chunk =>
        by_cases usable : supervisor.outputOpen = true ∧ chunk ≠ []
        · exact reports_of_read sink kept watch usable.1 usable.2 state
            fun next state kept watch => ih kept watch state
        · have same : supervisor.observe (.read chunk) = supervisor := by
            simp [observe, watch, usable]
          obtain ⟨log, eq, abides⟩ := ih kept watch state
          rw [same, reportAll_of_quiet quiet]
          refine ⟨log, eq, abides.pass rfl rfl ?_ rfl⟩
          cases opened : supervisor.outputOpen with
          | false => rfl
          | true =>
            have empty : chunk = [] := Decidable.byContradiction fun some => usable ⟨opened, some⟩
            simp only [heard, empty, if_true]
      | endOfOutput => exact goesDeaf (by simp only [observe, watch, deaf]) rfl rfl
      | readFailure => exact goesDeaf (by simp only [observe, watch, deaf]) rfl rfl
      | terminated =>
        have same : supervisor.observe .terminated = supervisor := by
          simp only [observe, watch]
        obtain ⟨log, eq, abides⟩ := ih kept watch state
        rw [same, reportAll_of_quiet quiet]
        exact ⟨log, eq, abides.pass rfl rfl rfl rfl⟩

/-! ### Numbers of frames -/

def sequencesOf (reports : List Report) : List Nat :=
  (reports.filterMap (·.frame?)).map (·.sequence)

theorem sequencesOf_append (first second : List Report) :
    sequencesOf (first ++ second) = sequencesOf first ++ sequencesOf second := by
  simp [sequencesOf]

theorem sequencesOf_framesFrom (sequence : Nat) (units : List Bytes) :
    sequencesOf (framesFrom sequence units) = List.range' sequence units.length := by
  induction units generalizing sequence with
  | nil => rfl
  | cons unit more ih =>
    rw [List.length_cons, List.range'_succ, ← ih (sequence + 1)]
    rfl

theorem sequencesOf_script (splitter : Splitter) (sequence : Nat) (reads : List Bytes) :
    ∃ count, sequencesOf (script splitter sequence reads) = List.range' sequence count := by
  induction reads generalizing splitter sequence with
  | nil => exact ⟨0, rfl⟩
  | cons chunk rest ih =>
    obtain ⟨count, later⟩ := ih (splitter.push chunk).1 (sequence + (splitter.push chunk).2.length)
    refine ⟨(splitter.push chunk).2.length + count, ?_⟩
    have head (reports : List Report) :
        sequencesOf (.bytes chunk.length :: reports) = sequencesOf reports := rfl
    rw [script, head, sequencesOf_append, sequencesOf_framesFrom, later, List.range'_append_1]

/-- The frames that are reported are numbered without a gap. -/
theorem numbered_of_made {splitter : Splitter} {reads : List Bytes} {made : List (Report × Bool)}
    (h : Made (script splitter 0 reads) made) :
    (framesOf made).map (·.sequence) = List.range (framesOf made).length := by
  obtain ⟨count, numbers⟩ := sequencesOf_script splitter 0 reads
  have initial : (framesOf made).map (·.sequence) <+: List.range count := by
    have reported : framesOf made = (made.map (·.1)).filterMap (·.frame?) := by
      rw [List.filterMap_map]
      rfl
    rw [List.range_eq_range', ← numbers, reported]
    exact (h.isPrefix.filterMap _).map _
  have few := initial.length_le
  rw [List.length_map, List.length_range] at few
  have taken := List.prefix_iff_eq_take.mp initial
  rwa [List.length_map, List.take_range, Nat.min_eq_left few] at taken

/-- For every splitter, whatever a supervisor sees moment after moment and whatever its sink answers.
Until its end it reports along the script of its reads, each read's bytes and then the frames that
the read completes, numbered from 0 on, up to the first report that is not wanted. It goes on as
long as everything is wanted and no end is observed; the end of the output alone is none. Then it
reports its end, once and last: it was stopped if something was not wanted or a request to stop was
observed first, and a request counts before an end that is there with it. Where it stops its decoder
it reports as soon as the decoder is gone. -/
theorem reports_in_order (sink : σ → Device → Nat → Report → σ × Bool) (state : σ)
    (settings : DecoderSettings) (device : Device) (session : Nat) (sights : List Sight) :
    let result := (start settings device session).attend (logging sink) (state, []) sights
    let seen := sights.filterMap (·.first?)
    let expected := script settings.splitter 0 (heard seen)
    let gone : Sight := { ending := some .terminated }
    ∃ made exits, result.2.2 = made ++ exits ∧
      made.map (·.1) <+: expected ∧
      (∀ entry ∈ made.dropLast, entry.2 = true) ∧
      (allWanted made = true → made.map (·.1) = expected) ∧
      (framesOf made).map (·.sequence) = List.range (framesOf made).length ∧
      (ending? seen made = none ↔ result.1.watch = .watching) ∧
      (ending? seen made = none → exits = []) ∧
      (∀ exit, ending? seen made = some exit →
        (result.1.watch = .finished ∧ ∃ answer, exits = [(.exit exit, answer)]) ∨
        (exit = .stopped ∧ result.1.watch = .stopping ∧ exits = [])) ∧
      (result.1.watch = .stopping →
        ∃ answer, (result.1.attend (logging sink) result.2 [gone]).1.watch = .finished ∧
          (result.1.attend (logging sink) result.2 [gone]).2.2 =
            made ++ [(.exit .stopped, answer)]) ∧
      ∀ earlier sight later, sights = earlier ++ sight :: later → sight.stopRequested = true →
        verdict? (earlier.filterMap (·.first?)) = none → verdict? seen = some .stopped := by
  intro result seen expected gone
  have kept : (start settings device session).splitter.Kept :=
    Splitter.kept_new settings.framing settings.flushThreshold
  obtain ⟨log, eq, made, exits, rfl, along, concluded⟩ :=
    attend_of_watching sink kept rfl sights (state, [])
  have along : Made expected made := along
  have log : result.2.2 = made ++ exits := eq
  refine ⟨made, exits, log, along.isPrefix, fun entry => along.wanted_of_mem_dropLast, along.whole,
    numbered_of_made along, ?_, fun going => ?_, fun exit ends => ?_, fun stops => ?_, ?_⟩
  · generalize ending? seen made = ending, result.1.watch = watch at concluded ⊢
    cases concluded <;> simp
  · rw [going] at concluded
    generalize result.1.watch = watch at concluded
    cases concluded
    rfl
  · rw [ends] at concluded
    generalize result.1.watch = watch at concluded ⊢
    cases concluded with
    | stopping => exact .inr ⟨rfl, rfl, rfl⟩
    | finished exit answer => exact .inl ⟨rfl, answer, rfl⟩
  · have leaving : (result.1.look gone).watch = .leaving .stopped := by
      have first : gone.first? = some .terminated := rfl
      rw [look_of_some first]
      simp only [observe, stops]
    obtain ⟨answer, finished, last⟩ := reportAll_of_leaving sink leaving result.2
    have silent : exits = [] := by
      have concluded : Concluded (ending? seen made) result.1.watch exits := concluded
      rw [stops] at concluded
      generalize ending? seen made = ending at concluded
      cases concluded
      rfl
    refine ⟨answer, finished, ?_⟩
    rw [silent, List.append_nil] at log
    rw [← log]
    exact last
  · intro earlier sight later split asked before
    have first : sight.first? = some .stopRequest := by
      simp only [Sight.first?, asked, if_true]
    have behind : seen =
        earlier.filterMap (·.first?) ++ .stopRequest :: later.filterMap (·.first?) := by
      simp only [seen, split, List.filterMap_append, List.filterMap_cons_some first]
    rw [behind, verdict?, List.findSome?_append]
    rw [verdict?] at before
    rw [before]
    rfl

end Supervisor

end CameraRelay
