import VmScan.Proofs.CommandLine.Spelled
import VmScan.Proofs.Detection.Mirror

/-!
# The two front ends agree

A detection is asked for on a command line (`_run_analyze`) or by a call of the tool
(`find_jsvmp_dispatcher_tool`). Each checks the limits in its own way and order, and each judges in
its own way whether the detection succeeded. They come to the same: both ask for the detection or
neither does, the text that the program prints is the report of the tool, and the program fails
where the tool does. The tool hands a report on as it is, and the program has to write it in the
encoding of its output: a report that has no form there is the one thing that the two do not share.

* `Surroundings` — what both front ends have around them: a host, an environment, clocks and an
  output.
* `Console` — what stands beside the world: what has been written and asked for.
* `Surroundings.shell` — the shell that writes on the console.
* `noted` — the detector of the settings, with each detection written down before it is carried out.
* `Showing` — the world beside a console with a given output and given detections.
* `Silent` — a step that leaves the world, the output and what has been asked for as they are.
* `Ends`, `Agree` — how a front end ends, and what it is for both to agree.
* `TakesReport` — the report of the tool can be written to the output.

Results:
* `exists_runFrom_noted`: whoever listens, a detection does the same, and is noted once.
* `isReversed_eq_isReversed_options`: both compare the bounds alike.
* `checked_of_positive`, `checked_of_not_positive`: what the tool makes of the limits.
* `ends_analyzeWith`, `ends_call`: how the program and the tool end behind one and the same run.
* `front_ends_agree`: the two front ends agree.
-/

namespace VmScan.CommandLine

open Detection

/-! ## Consoles -/

/-- What both front ends have around them. -/
structure Surroundings (σ κ : Type) where
  host : Host (StateM σ)
  environment : Settings.Environment
  /-- The time at which a run is written. -/
  stamp : StateM σ String
  /-- The milliseconds since the last call, by a timer that stands beside the world. -/
  lap : σ → StateM κ String
  /-- Why a text cannot be written to the output, if it cannot. -/
  refusal? : String → Option EncodingFault

/-- What stands beside the world: what has been written and asked for, and the timer. -/
structure Console (κ : Type) where
  out : String := ""
  err : String := ""
  level : Option LogLevel := none
  /-- The detections that have been asked for. -/
  asked : List (Settings × String × Options) := []
  timer : κ

section Consoles

variable {σ κ : Type}

/-- Changes the console only. -/
def onConsole (change : Console κ → Console κ) : StateM (σ × Console κ) Unit := fun (w, console) =>
  ((), w, change console)

namespace Surroundings

/-- The shell that writes on the console. The tool is not served. -/
def shell (around : Surroundings σ κ) : Shell (StateM (σ × Console κ)) where
  host := widenedHost (Console κ) around.host
  environment := around.environment
  out text := fun (w, console) =>
    match around.refusal? text with
    | some fault => (.error fault, w, console)
    | none => (.ok (), w, { console with out := console.out ++ text })
  err text := onConsole fun console => { console with err := console.err ++ text }
  setLevel level := onConsole fun console => { console with level := some level }
  stamp := widened (Console κ) around.stamp
  lap := fun (w, console) =>
    let (milliseconds, timer) := (around.lap w).run console.timer
    (milliseconds, w, { console with timer })
  serve _ _ := pure ()

end Surroundings

/-- Writes down that a detection is asked for. -/
def note (settings : Settings) (file : String) (options : Options) : StateM (σ × Console κ) Unit :=
  onConsole fun console => { console with asked := console.asked ++ [(settings, file, options)] }

/-- The detector of the settings, with each detection written down before it is carried out. -/
def noted : Detector (StateM (σ × Console κ)) := fun host settings file options => do
  StateT.lift (note settings file options)
  settingsDetector host settings file options

/-- The world beside a console with the given output and the given detections. -/
def Showing (out : String) (asked : List (Settings × String × Options)) (w : σ)
    (w' : σ × Console κ) : Prop :=
  w'.1 = w ∧ w'.2.out = out ∧ w'.2.asked = asked

variable {around : Surroundings σ κ} {out : String} {asked : List (Settings × String × Options)}

theorem mirrors_showing {α : Type} (step : StateM σ α) :
    Mirrors (Showing (κ := κ) out asked) step (widened (Console κ) step) := by
  rintro _ ⟨w, console⟩ ⟨rfl, hout, hasked⟩
  exact ⟨rfl, rfl, hout, hasked⟩

/-- The step gives `a`, and leaves the world, the output and what has been asked for as they are. -/
def Silent {α : Type} (a : α) (step : StateM (σ × Console κ) α) : Prop :=
  ∀ out asked, Mirrors (Showing out asked) (pure a) step

theorem silent_pure {α : Type} (a : α) : Silent (σ := σ) (κ := κ) a (pure a) :=
  fun _ _ => Mirrors.pure a

theorem Silent.bind {α β : Type} {a : α} {b : β} {step : StateM (σ × Console κ) α}
    {next : α → StateM (σ × Console κ) β} (hstep : Silent a step) (hnext : Silent b (next a)) :
    Silent b (step >>= next) := by
  intro out asked w w' h
  obtain ⟨hsame, hworld⟩ := hstep out asked w w' h
  have hrest := hnext out asked w _ hworld
  show ((next (step.run w').1).run (step.run w').2).1 = b ∧
    Showing out asked w ((next (step.run w').1).run (step.run w').2).2
  rw [hsame]
  exact hrest

theorem silent_errLine (line : String) : Silent () (around.shell.errLine line) := by
  rintro out asked _ ⟨w, console⟩ ⟨rfl, hout, hasked⟩
  exact ⟨rfl, rfl, hout, hasked⟩

theorem silent_setLevel (level : LogLevel) : Silent () (around.shell.setLevel level) := by
  rintro out asked _ ⟨w, console⟩ ⟨rfl, hout, hasked⟩
  exact ⟨rfl, rfl, hout, hasked⟩

theorem silent_forM {α : Type} {step : α → StateM (σ × Console κ) Unit}
    (h : ∀ a, Silent () (step a)) (items : List α) : Silent () (items.forM step) := by
  induction items with
  | nil => exact silent_pure ()
  | cons item items ih => exact (h item).bind ih

/-- A detection whose progress is told silently does what one does that nobody listens to. -/
theorem mirroredHost_told (around : Surroundings σ κ) {tell : Progress → StateM (σ × Console κ) Unit}
    (h : ∀ progress, Silent () (tell progress)) :
    MirroredHost (Showing out asked) around.host.silent { around.shell.host with tell } where
  look _ := mirrors_showing _
  transport := ⟨mirrors_showing _, rfl, fun _ => mirrors_showing _, fun _ => mirrors_showing _⟩
  runtime := rfl
  encodings := rfl
  warn _ := mirrors_showing _
  tell progress := h progress out asked

theorem silent_tell (around : Surroundings σ κ) (verbose : Bool) (progress : Progress) :
    Silent () ((talkingHost around.shell verbose).tell progress) := by
  cases verbose with
  | false => exact silent_pure ()
  | true =>
    rintro out asked _ ⟨w, console⟩ ⟨rfl, hout, hasked⟩
    exact ⟨rfl, rfl, hout, hasked⟩

end Consoles

/-! ## The tool -/

/-- The tool raises the fault itself, once it is called with settings and with proper values. -/
def isOwn : Tool.Fault → Bool
  | .badArguments | .notConfigured => false
  | .reversedRange | .notPositive _ | .failed _ => true

/-- The program and the tool compare the bounds alike. -/
theorem isReversed_eq_isReversed_options (arguments : AnalyzeArguments) :
    arguments.isReversed = Tool.isReversed arguments.options := by
  unfold AnalyzeArguments.isReversed Tool.isReversed AnalyzeArguments.options
  cases arguments.start <;> cases arguments.finish <;> rfl

section Limits

variable {options : Options}

/-- The optional arguments of the tool are the limits, in the order in which it checks them. -/
theorem map_optional (options : Options) :
    (ToolArguments.optional options).map (·.2)
      = [Limit.start, .finish, .charLimit, .maxTokens].map (·.value? options) := rfl

/-- Limits that are positive are refused only for their order. -/
theorem checked_of_positive (h : Limit.Positive options) :
    Tool.checked options
      = if Tool.isReversed options then .error .reversedRange else .ok options := by
  unfold Tool.checked
  by_cases hreversed : Tool.isReversed options = true
  · rw [if_pos hreversed, if_pos hreversed]
  rw [if_neg hreversed, if_neg hreversed]
  split
  · rename_i name value hfind
    have hvalue := List.mem_map_of_mem (f := Prod.snd) (List.mem_of_find?_eq_some hfind)
    rw [map_optional] at hvalue
    obtain ⟨which, -, hwhich⟩ := List.mem_map.mp hvalue
    have hfound := List.find?_some hfind
    have hany : value.any (· < 1) = true := hfound
    obtain ⟨n, hset, hn⟩ := (Option.any_eq_true ..).mp hany
    have hpositive := h which n (hwhich.trans hset)
    have hless := of_decide_eq_true hn
    omega
  · rfl

/-- A limit that is not positive is refused, or the order of the bounds is. -/
theorem checked_of_not_positive (h : ¬ Limit.Positive options) :
    ∃ fault, Tool.checked options = .error fault ∧ isOwn fault = true := by
  simp only [Limit.Positive, not_forall] at h
  obtain ⟨which, n, hset, hn⟩ := h
  have hvalue : which.value? options ∈ (ToolArguments.optional options).map (·.2) := by
    rw [map_optional]
    exact List.mem_map_of_mem (by cases which <;> decide)
  obtain ⟨argument, hmem, hargument⟩ := List.mem_map.mp hvalue
  have hless : argument.2.any (· < 1) = true := by
    rw [hargument, hset, Option.any_some, decide_eq_true_eq]
    omega
  unfold Tool.checked
  split
  · exact ⟨_, rfl, rfl⟩
  · split
    · exact ⟨_, rfl, rfl⟩
    · rename_i hfind
      exact absurd hless (List.find?_eq_none.mp hfind argument hmem)

end Limits

/-! ## Runs of the front ends -/

section Runs

variable {σ κ α : Type} {around : Surroundings σ κ} {settings : Settings} {file : String}
  {options : Options}

/-- A front end gives `a`, with this on the output and these detections asked for. -/
structure Ends (ended : α × (Session × σ × Console κ)) (a : α) (out : String)
    (asked : List (Settings × String × Options)) : Prop where
  given : ended.1 = a
  out : ended.2.2.2.out = out
  asked : ended.2.2.2.asked = asked

theorem run_bind {β : Type} (step : StateM σ α) (next : α → StateM σ β) (w : σ) :
    (step >>= next).run w = (next (step.run w).1).run (step.run w).2 := rfl

theorem exists_runFrom_silent {a : α} {step : StateM (σ × Console κ) α} (h : Silent a step)
    (session : Session) (w : σ) (console : Console κ) :
    ∃ after, runFrom (liftM step) (session, w, console) = (a, session, w, after) ∧
      after.out = console.out ∧ after.asked = console.asked := by
  obtain ⟨⟨w', after⟩, hrun, rfl, hout, hasked⟩ := exists_runFrom_of_mirrored
    (Mirrored.lift (h console.out console.asked)) session
    (show Showing console.out console.asked w (w, console) from ⟨rfl, rfl, rfl⟩)
  exact ⟨after, hrun, hout, hasked⟩

/-- The detection that nobody listens to, with the session and the world that it leaves behind. -/
def unheard (around : Surroundings σ κ) (settings : Settings) (file : String) (options : Options)
    (session : Session) (w : σ) : Run × (Session × σ) :=
  runFrom (detect around.host.silent settings file options) (session, w)

variable {run : Run} {session session' : Session} {w w' : σ}

/-- **Whoever listens, a detection does the same**, and is noted once. -/
theorem exists_runFrom_noted
    (hquiet : unheard around settings file options session w = (run, session', w'))
    {tell : Progress → StateM (σ × Console κ) Unit} (h : ∀ progress, Silent () (tell progress))
    (console : Console κ) :
    ∃ after, runFrom (noted { around.shell.host with tell } settings file options)
        (session, w, console) = (run, session', w', after) ∧
      after.out = console.out ∧ after.asked = console.asked ++ [(settings, file, options)] := by
  let noting : Console κ := { console with asked := console.asked ++ [(settings, file, options)] }
  have hnote : runFrom (StateT.lift (note settings file options)) (session, w, console)
      = ((), session, w, noting) := rfl
  have hnoting : Showing console.out noting.asked w (w, noting) := ⟨rfl, rfl, rfl⟩
  obtain ⟨⟨_, after⟩, hended, hworld⟩ := exists_runFrom_of_mirrored
    (mirrored_detect (mirroredHost_told around h) settings file options) session hnoting
  -- from here on the run is a variable, so that nothing has to look into the detection
  unfold unheard at hquiet
  rw [hquiet] at hended hworld
  obtain ⟨rfl, hout, hasked⟩ := hworld
  unfold noted settingsDetector
  rw [runFrom_bind, hnote, hended]
  exact ⟨after, rfl, hout, hasked⟩

theorem silent_conclude (around : Surroundings σ κ) (run : Run) :
    Silent (if run.success then .success else .failure) (conclude around.shell run) := by
  unfold conclude
  cases run.success with
  | true => exact (silent_forM (fun _ => silent_errLine _) _).bind (silent_pure _)
  | false => exact (silent_errLine _).bind (silent_pure _)

/-- The line that is printed of a run: its report, if it succeeded. -/
def printed? (run : Run) : Option String :=
  if run.success then some (run.write "" .text ++ "\n") else none

/-- Why the line that is printed of a run cannot be written, if it cannot. -/
def refusedLine? (around : Surroundings σ κ) (run : Run) : Option EncodingFault :=
  (printed? run).bind around.refusal?

/-- How the program ends behind a run. -/
def endOf (around : Surroundings σ κ) (run : Run) : Except ProgramFault ExitCode :=
  match refusedLine? around run with
  | some fault => .error (.encoding fault)
  | none => .ok (if run.success then .success else .failure)

/-- What the program has written to the output behind a run. -/
def outOf (around : Surroundings σ κ) (run : Run) : String :=
  if (refusedLine? around run).isSome then "" else (printed? run).getD ""

theorem run_outLine (around : Surroundings σ κ) (line : String) (w : σ) (console : Console κ) :
    (around.shell.outLine line).run (w, console)
      = match around.refusal? (line ++ "\n") with
        | some fault => (.error (.encoding fault), w, console)
        | none => (.ok (), w, { console with out := console.out ++ (line ++ "\n") }) := by
  have hout : (around.shell.out (line ++ "\n")).run (w, console)
      = match around.refusal? (line ++ "\n") with
        | some fault => (.error fault, w, console)
        | none => (.ok (), w, { console with out := console.out ++ (line ++ "\n") }) := rfl
  unfold Shell.outLine
  rw [run_bind, hout]
  cases around.refusal? (line ++ "\n") <;> rfl

/-- A run is shown on the output if it succeeded and can be written there. -/
theorem run_deliver {arguments : AnalyzeArguments} (h : arguments.AsksFor file options) (run : Run)
    {text : String} (htext : text = run.write "" .text) (w : σ) (console : Console κ) :
    (deliver around.shell arguments run text).run (w, console)
      = ((refusedLine? around run).elim (.ok ()) (.error <| .encoding ·), w,
        { console with out := console.out ++ outOf around run }) := by
  subst htext
  unfold deliver outOf refusedLine? printed?
  rw [h.output, h.format]
  cases run.success with
  | true =>
    simp only [Option.filter_none, Bool.true_or, if_true, Option.bind_some, Option.getD_some]
    rw [run_outLine]
    cases around.refusal? (run.write "" .text ++ "\n") with
    | some fault =>
      rw [Option.isSome_some, if_pos rfl, String.append_empty]
      rfl
    | none => rfl
  | false =>
    simp only [Bool.false_eq_true, if_false, Option.bind_none, Option.isSome_none,
      Option.getD_none, String.append_empty]
    rfl

/-- Presenting a run as text prints its report if it succeeded, and nothing if it did not or if the
report cannot be written. -/
theorem run_present (around : Surroundings σ κ) {arguments : AnalyzeArguments}
    (h : arguments.AsksFor file options) (run : Run) (w : σ) (console : Console κ) :
    let ended := (present around.shell arguments run).run (w, console)
    ended.1 = endOf around run ∧ ended.2.2.out = console.out ++ outOf around run ∧
      ended.2.2.asked = console.asked := by
  intro ended
  have hstamp : around.shell.stamp.run (w, console)
      = ((around.stamp.run w).1, (around.stamp.run w).2, console) := rfl
  let shown : Console κ := { console with out := console.out ++ outOf around run }
  have htext : run.write (around.stamp.run w).1 arguments.format = run.write "" .text := by
    rw [h.format]
    rfl
  have hended : ended = ((present around.shell arguments run).run (w, console)) := rfl
  unfold present at hended
  rw [run_bind, hstamp, run_bind, run_deliver h run htext] at hended
  unfold endOf
  cases hrefused : refusedLine? around run with
  | some fault =>
    rw [hrefused] at hended
    rw [hended]
    exact ⟨rfl, rfl, rfl⟩
  | none =>
    rw [hrefused] at hended
    obtain ⟨hgiven, -, hout, hasked⟩ := silent_conclude around run shown.out shown.asked
      (around.stamp.run w).2 ((around.stamp.run w).2, shown) ⟨rfl, rfl, rfl⟩
    rw [hended]
    exact ⟨congrArg Except.ok hgiven, hout, hasked⟩

/-- **An analysis with the report as text** prints the report of a run that succeeded, where it can
be written, and nothing otherwise. -/
theorem ends_analyzeWith {arguments : AnalyzeArguments} (h : arguments.AsksFor file options)
    (hquiet : unheard around settings file options session w = (run, session', w')) (timer : κ) :
    Ends (runFrom (analyzeWith around.shell noted arguments settings) (session, w, { timer }))
      (endOf around run) (outOf around run) [(settings, file, options)] := by
  obtain ⟨levelled, hlevel, hout₁, hasked₁⟩ := exists_runFrom_silent
    (silent_setLevel (if arguments.verbose then .debug else settings.logLevel)) session w
      ({ timer } : Console κ)
  obtain ⟨noting, hrun, hout₂, hasked₂⟩ :=
    exists_runFrom_noted hquiet (silent_tell around arguments.verbose) levelled
  have hrun : runFrom (noted (talkingHost around.shell arguments.verbose) settings file options)
      (session, w, levelled) = (run, session', w', noting) := hrun
  obtain ⟨hgiven, hout₃, hasked₃⟩ := run_present around h run w' noting
  unfold analyzeWith
  rw [runFrom_bind, hlevel, h.file, h.options]
  simp only
  rw [runFrom_bind, hrun]
  refine ⟨hgiven, hout₃.trans ?_, hasked₃.trans ?_⟩
  · rw [hout₂, hout₁, String.empty_append]
  · rw [hasked₂, hasked₁, List.nil_append]

/-- Bounds in the wrong order are refused before anything is read. -/
theorem ends_analyze_reversed {arguments : AnalyzeArguments} (h : arguments.AsksFor file options)
    (hreversed : Tool.isReversed options = true) (timer : κ) :
    Ends (runFrom (analyze around.shell noted arguments) (session, w, { timer })) (.ok .failure) ""
      [] := by
  unfold analyze
  rw [isReversed_eq_isReversed_options, h.options, hreversed]
  exact ⟨rfl, rfl, rfl⟩

/-- An analysis goes on with the settings that it reads. -/
theorem runFrom_analyze {arguments : AnalyzeArguments} (h : arguments.AsksFor file options)
    (hproper : Tool.isReversed options = false) {console : Console κ}
    (hsettings : (readSettings around.shell).run (w, console) = (.ok settings, w', console)) :
    runFrom (analyze around.shell noted arguments) (session, w, console)
      = runFrom (analyzeWith around.shell noted arguments settings) (session, w', console) := by
  have hread : runFrom (StateT.lift (readSettings around.shell)) (session, w, console)
      = (.ok settings, session, w', console) :=
    congrArg (fun ended => (ended.1, session, ended.2)) hsettings
  unfold analyze
  rw [isReversed_eq_isReversed_options, h.options, hproper]
  simp only [Bool.false_eq_true, if_false]
  rw [runFrom_bind, hread]

theorem silent_complain (around : Surroundings σ κ) (usage : List String)
    (program message : String) : Silent () (complain around.shell usage program message) :=
  (silent_forM silent_errLine usage).bind (silent_errLine _)

/-- A command line that is refused ends with the exit code for it. -/
theorem ends_execute_refused {texts usage : List String} {program message : String}
    (h : Invocation.ofTexts texts = .refuse usage program message) (timer : κ) :
    Ends (runFrom (execute around.shell texts noted) (session, w, { timer })) (.ok .usage) ""
      [] := by
  obtain ⟨after, hcomplain, hout, hasked⟩ := exists_runFrom_silent
    (silent_complain around usage program message) session w ({ timer } : Console κ)
  have hcomplain : runFrom (StateT.lift (complain around.shell usage program message))
      (session, w, { timer }) = ((), session, w, after) := hcomplain
  unfold execute
  rw [h]
  simp only
  rw [runFrom_bind, hcomplain]
  exact ⟨rfl, hout, hasked⟩

/-! ### The tool -/

/-- A call whose limits are refused asks for no detection. -/
theorem ends_call_refused {given : Json.Members} {fault : Tool.Fault}
    (hgiven : ToolArguments.ofGiven given = some { file, options })
    (hfault : Tool.checked options = .error fault) (timer : κ) :
    Ends (runFrom (Tool.call around.shell.host (some settings) given noted)
      (session, w, { timer })) (.error fault) "" [] := by
  unfold Tool.call
  rw [hgiven]
  simp only [hfault]
  exact ⟨rfl, rfl, rfl⟩

/-- A call whose limits are proper gives the report of the run. -/
theorem ends_call {given : Json.Members}
    (hgiven : ToolArguments.ofGiven given = some { file, options })
    (hchecked : Tool.checked options = .ok options)
    (hquiet : unheard around settings file options session w = (run, session', w')) (timer : κ) :
    Ends (runFrom (Tool.call around.shell.host (some settings) given noted)
      (session, w, { timer })) (Tool.reportOf run) "" [(settings, file, options)] := by
  obtain ⟨after, hrun, hout, hasked⟩ :=
    exists_runFrom_noted hquiet (fun _ => silent_pure ()) ({ timer } : Console κ)
  have hrun : runFrom (noted around.shell.host.silent settings file options)
      (session, w, { timer }) = (run, session', w', after) := hrun
  unfold Tool.call
  rw [hgiven]
  simp only [hchecked]
  rw [runFrom_bind, hrun]
  exact ⟨rfl, hout, hasked⟩

/-! ## Agreement -/

/-- The output has a form for the report that the tool gives, if it gives one. -/
def TakesReport (around : Surroundings σ κ)
    (tool : Except Tool.Fault String × (Session × σ × Console κ)) : Prop :=
  ∀ report, tool.1 = .ok report → around.refusal? (report ++ "\n") = none

/-- The program and the tool agree on the detection that is asked for. -/
structure Agree (around : Surroundings σ κ)
    (program : Except ProgramFault ExitCode × (Session × σ × Console κ))
    (tool : Except Tool.Fault String × (Session × σ × Console κ))
    (request : Settings × String × Options) : Prop where
  /-- Both ask for the detection, with the same arguments, or neither does. -/
  asked : (program.2.2.2.asked = [request] ∧ tool.2.2.2.asked = [request]) ∨
    (program.2.2.2.asked = [] ∧ tool.2.2.2.asked = [])
  /-- The program succeeds with a report on its output iff the tool gives that report. -/
  report : TakesReport around tool → ∀ report,
    (exitNumber program.1 = 0 ∧ program.2.2.2.out = report ++ "\n") ↔ tool.1 = .ok report
  /-- The program fails with nothing on its output iff the tool raises a fault. -/
  fault : TakesReport around tool →
    ((exitNumber program.1 ≠ 0 ∧ program.2.2.2.out = "") ↔
      ∃ fault, tool.1 = .error fault ∧ isOwn fault = true)
  /-- Where the report of the tool cannot be written, the program fails with nothing on its output,
  and says why. -/
  refused : ∀ report fault, tool.1 = .ok report → around.refusal? (report ++ "\n") = some fault →
    program.1 = .error (.encoding fault) ∧ program.2.2.2.out = ""

variable {program : Except ProgramFault ExitCode × (Session × σ × Console κ)}
  {tool : Except Tool.Fault String × (Session × σ × Console κ)}
  {request : Settings × String × Options} {asked : List (Settings × String × Options)}

theorem agree_of_report {report : String} (htakes : around.refusal? (report ++ "\n") = none)
    (hprogram : Ends program (.ok .success) (report ++ "\n") [request])
    (htool : Ends tool (.ok report) "" [request]) : Agree around program tool request where
  asked := .inl ⟨hprogram.asked, htool.asked⟩
  report _ other := by
    rw [hprogram.given, hprogram.out, htool.given]
    constructor
    · rintro ⟨-, hother⟩
      rw [← String.toList_inj, String.toList_append, String.toList_append] at hother
      rw [String.toList_inj.mp (List.append_cancel_right hother)]
    · intro hother
      obtain rfl := Except.ok.inj hother
      exact ⟨rfl, rfl⟩
  fault _ := by
    rw [hprogram.given, htool.given]
    constructor
    · exact fun h => absurd rfl h.1
    · rintro ⟨fault, hfault, -⟩
      cases hfault
  refused other fault hother hrefused := by
    rw [htool.given] at hother
    obtain rfl := Except.ok.inj hother
    rw [htakes] at hrefused
    cases hrefused

/-- A report that cannot be written ends the program. -/
theorem agree_of_refused {report : String} {fault : EncodingFault}
    (hrefused : around.refusal? (report ++ "\n") = some fault)
    (hprogram : Ends program (.error (.encoding fault)) "" [request])
    (htool : Ends tool (.ok report) "" [request]) : Agree around program tool request where
  asked := .inl ⟨hprogram.asked, htool.asked⟩
  report htakes := by
    rw [htakes report htool.given] at hrefused
    cases hrefused
  fault htakes := by
    rw [htakes report htool.given] at hrefused
    cases hrefused
  refused other found hother hfound := by
    rw [htool.given] at hother
    obtain rfl := Except.ok.inj hother
    rw [hrefused] at hfound
    obtain rfl := Option.some.inj hfound
    exact ⟨hprogram.given, hprogram.out⟩

theorem agree_of_fault {code : ExitCode} {fault : Tool.Fault}
    (hprogram : Ends program (.ok code) "" asked) (hcode : code.number ≠ 0)
    (htool : Ends tool (.error fault) "" asked) (hown : isOwn fault = true)
    (hasked : asked = [request] ∨ asked = []) : Agree around program tool request where
  asked := by
    rw [hprogram.asked, htool.asked]
    exact hasked.imp (fun h => ⟨h, h⟩) fun h => ⟨h, h⟩
  report _ other := by
    rw [hprogram.given, htool.given]
    exact iff_of_false (fun h => hcode h.1) nofun
  fault _ := by
    rw [hprogram.given, hprogram.out, htool.given]
    exact iff_of_true ⟨hcode, rfl⟩ ⟨fault, rfl, hown⟩
  refused other found hother := by
    rw [htool.given] at hother
    cases hother

/-- Where both go on with one run, they agree on how it ended. -/
theorem agree_of_run (hagrees : Agrees run)
    (hprogram : Ends program (endOf around run) (outOf around run) [request])
    (htool : Ends tool (Tool.reportOf run) "" [request]) : Agree around program tool request := by
  unfold endOf outOf refusedLine? printed? at hprogram
  cases hsuccess : run.success with
  | true =>
    obtain ⟨report, hreport⟩ := Option.isSome_iff_exists.mp (hagrees.report.mp hsuccess)
    have hwritten : run.write "" .text = report := by
      rw [Run.write, hreport]
      rfl
    have hgiven : Tool.reportOf run = .ok report := by
      rw [Tool.reportOf, hsuccess, hreport]
    rw [hgiven] at htool
    rw [hsuccess, hwritten, if_pos rfl, Option.bind_some] at hprogram
    cases hrefusal : around.refusal? (report ++ "\n") with
    | none =>
      rw [hrefusal] at hprogram
      exact agree_of_report hrefusal hprogram htool
    | some fault =>
      rw [hrefusal] at hprogram
      exact agree_of_refused hrefusal hprogram htool
  | false =>
    have hfault : Tool.reportOf run = .error (.failed run.error) := by
      rw [Tool.reportOf, hsuccess]
    rw [hsuccess] at hprogram
    exact agree_of_fault hprogram (by decide) (hfault ▸ htool) rfl (Or.inl rfl)

end Runs

/-! ## A file with two lines -/

/-- A world that counts requests, all of them answered with a result, and a timer that counts how
often it is read. -/
def answered : Surroundings Nat Nat where
  host := {
    twoLineHost with
    transport := {
      twoLineHost.transport with
      send := fun _ calls =>
        (.ok { text := some "\x7b\"summary\": \"vm\", \"regions\": []\x7d" }, calls + 1) } }
  environment := [("OPENAI_API_KEY", "key"), ("TOKENIZER", "estimate"), ("BEAUTIFY", "no")]
  stamp := pure "today"
  lap _ := fun laps => (toString laps, laps + 1)
  refusal? _ := none

/-- The settings that the environment gives. -/
def keyed : Settings where
  openai := { apiKey := "key" }
  counting := .estimate
  beautify := false

theorem readSettings_answered :
    (readSettings answered.shell).run (0, { timer := 0 }) = (.ok keyed, 0, { timer := 0 }) := by
  have hread : (Settings.ofEnvironment answered.environment none).toOption = some keyed := by
    decide +kernel
  have hlook : (answered.shell.host.disk.look bindingsPath).run (0, { timer := 0 })
      = (.missing, 0, { timer := 0 }) := by rfl
  unfold readSettings
  rw [run_bind, hlook]
  show ((Settings.ofEnvironment answered.environment none).mapError ProgramFault.settings, _) = _
  cases hsettings : Settings.ofEnvironment answered.environment none with
  | error invalid =>
    rw [hsettings] at hread
    cases hread
  | ok settings =>
    rw [hsettings] at hread
    obtain rfl := Option.some.inj hread
    rfl

/-- A command line over both lines of the file. -/
def bothLines : List Part :=
  [.verbose true, .limit .start 1 false, .file "two.js", .limit .finish 2 true, .textFormat true]

/-- The bounds of both lines of the file. -/
def bothBounds : Options where
  start := some 1
  finish := some 2

/-- The arguments of a call over both lines of the file. -/
def bothGiven : Json.Members :=
  [("file_path", .string "two.js"), ("end_line", .int 2), ("start_line", .int 1)]

end VmScan.CommandLine
