import Mathlib.Data.List.Forall2
import TemplateVariables.DrawnConsole
import TemplateVariables.Program

/-!
# Commands over the same paths

Both commands read all of their inputs before they look at one of them, so a path that cannot be
read ends either of them in the same way.  Otherwise both find the same inputs that are not
templates, each with the same error.  How the results are written, how much output is asked for
and what the log shows have no part in it.
-/

namespace TemplateVariables

/-! ## Reading all inputs -/

/-- The first path that cannot be read, and why. -/
structure Input.FirstUnreadable (file : String → Except ReadFailure String) (paths : List String)
    (path : String) (failure : ReadFailure) : Prop where
  unreadable : file path = .error failure
  first : ∃ before after, paths = before ++ path :: after ∧
    ∀ earlier ∈ before, ∃ source, file earlier = .ok source

/-- The inputs that stand at the paths, one for each and in the same order. -/
structure Input.AtPaths (file : String → Except ReadFailure String) (paths : List String)
    (inputs : List Input) : Prop where
  paths_eq : inputs.map Input.path = paths
  source_eq : ∀ input ∈ inputs, file input.path = .ok input.source

namespace Input

variable {file : String → Except ReadFailure String} {paths : List String}

theorem exists_firstUnreadable
    (hunreadable : ∃ path ∈ paths, ∃ failure, file path = .error failure) :
    ∃ path failure, FirstUnreadable file paths path failure := by
  induction paths with
  | nil =>
      obtain ⟨_, hmem, -⟩ := hunreadable
      exact absurd hmem List.not_mem_nil
  | cons head tail ih =>
      cases hhead : file head with
      | error failure =>
          exact ⟨head, failure, hhead, [], tail, rfl, List.forall_mem_nil _⟩
      | ok source =>
          obtain ⟨path, hmem, failure, hfailure⟩ := hunreadable
          have hne : path ≠ head := by
            rintro rfl
            rw [hhead] at hfailure
            cases hfailure
          have htail := List.mem_of_ne_of_mem hne hmem
          obtain ⟨found, reason, hfound, before, after, heq, hbefore⟩ :=
            ih ⟨path, htail, failure, hfailure⟩
          refine ⟨found, reason, hfound, head :: before, after, ?_, ?_⟩
          · rw [heq, List.cons_append]
          · exact List.forall_mem_cons.2 ⟨⟨source, hhead⟩, hbefore⟩

theorem mapM_ofPath_of_firstUnreadable {path : String} {failure : ReadFailure}
    (hfirst : FirstUnreadable file paths path failure) :
    paths.mapM (ofPath file) = .error (.unreadable path failure) := by
  obtain ⟨hfailure, before, after, rfl, hbefore⟩ := hfirst
  induction before with
  | nil =>
      have hpath : ofPath file path = .error (.unreadable path failure) := by
        rw [ofPath, hfailure]
      rw [List.nil_append, List.mapM_cons, hpath]
      rfl
  | cons head before ih =>
      obtain ⟨⟨source, hsource⟩, hbefore⟩ := List.forall_mem_cons.1 hbefore
      have hhead : ofPath file head = .ok { path := head, source } := by
        rw [ofPath, hsource]
      rw [List.cons_append, List.mapM_cons, hhead, ih hbefore]
      rfl

theorem exists_atPaths (hreadable : ∀ path ∈ paths, ∃ source, file path = .ok source) :
    ∃ inputs, AtPaths file paths inputs := by
  induction paths with
  | nil => exact ⟨[], rfl, List.forall_mem_nil _⟩
  | cons path paths ih =>
      obtain ⟨⟨source, hsource⟩, hothers⟩ := List.forall_mem_cons.1 hreadable
      obtain ⟨inputs, hpaths, hsources⟩ := ih hothers
      refine ⟨{ path, source } :: inputs, ?_, List.forall_mem_cons.2 ⟨hsource, hsources⟩⟩
      rw [List.map_cons, hpaths]

theorem mapM_ofPath_of_atPaths {inputs : List Input} (hinputs : AtPaths file paths inputs) :
    paths.mapM (ofPath file) = .ok inputs := by
  obtain ⟨rfl, hsources⟩ := hinputs
  induction inputs with
  | nil => rfl
  | cons input inputs ih =>
      obtain ⟨hsource, hsources⟩ := List.forall_mem_cons.1 hsources
      have hinput : ofPath file input.path = .ok input := by
        rw [ofPath, hsource]
      rw [List.map_cons, List.mapM_cons, hinput, ih hsources]
      rfl

/-- Nothing is read from the standard input if there is a path. -/
theorem readAll_of_ne_nil (hpaths : paths ≠ []) (stdin : Option String) :
    readAll file stdin paths = paths.mapM (ofPath file) := by
  cases paths with
  | nil => contradiction
  | cons path paths => rfl

end Input

/-! ## Inputs that are not templates -/

def Input.isTemplate (input : Input) : Bool :=
  (Node.ofSource input.source.toList).isOk

/-- The inputs that are not templates, in their order, each with the error that stops its
reading. -/
structure Failures.Of (inputs : List Input) (failures : Failures) : Prop where
  inputs_eq : failures.map Prod.fst = inputs.filter fun input => !input.isTemplate
  error_eq : ∀ failure ∈ failures, Node.ofSource failure.1.source.toList = .error failure.2

section Failing

variable {input : Input} {inputs : List Input}

theorem checkInput_of_isTemplate (hinput : input.isTemplate = true) : checkInput input = none := by
  unfold Input.isTemplate at hinput
  cases hread : Node.ofSource input.source.toList with
  | error error =>
      rw [hread] at hinput
      cases hinput
  | ok nodes => simp [checkInput, hread]

theorem checkInput_of_not_isTemplate (hinput : input.isTemplate = false) :
    ∃ error, checkInput input = some (input, error) ∧
      Node.ofSource input.source.toList = .error error := by
  unfold Input.isTemplate at hinput
  cases hread : Node.ofSource input.source.toList with
  | error error => exact ⟨error, by simp [checkInput, hread], rfl⟩
  | ok nodes =>
      rw [hread] at hinput
      cases hinput

theorem failures_of_checkInput (inputs : List Input) :
    Failures.Of inputs (inputs.filterMap checkInput) := by
  induction inputs with
  | nil => exact ⟨rfl, List.forall_mem_nil _⟩
  | cons input inputs ih =>
      cases hinput : input.isTemplate with
      | true =>
          rw [List.filterMap_cons_none (checkInput_of_isTemplate hinput)]
          exact ⟨by simp [ih.inputs_eq, hinput], ih.error_eq⟩
      | false =>
          obtain ⟨error, hcheck, hread⟩ := checkInput_of_not_isTemplate hinput
          rw [List.filterMap_cons_some hcheck]
          exact ⟨by simp [ih.inputs_eq, hinput],
            List.forall_mem_cons.2 ⟨hread, ih.error_eq⟩⟩

/-- Extraction fails on the inputs that are not templates, and with the same errors. -/
theorem failure?_freeVariablesOf (globals : Globals) (input : Input) :
    Extracted.failure? (input, freeVariablesOf globals input.source) = checkInput input := by
  unfold checkInput freeVariablesOf
  cases Node.ofSource input.source.toList <;> rfl

theorem failures_of_extracted (globals : Globals) (inputs : List Input) :
    (inputs.map fun input => (input, freeVariablesOf globals input.source)).filterMap
      Extracted.failure? = inputs.filterMap checkInput := by
  have hcheck : (Extracted.failure? ∘ fun input => (input, freeVariablesOf globals input.source)) =
      checkInput := funext (failure?_freeVariablesOf globals)
  rw [List.filterMap_map, hcheck]

theorem Failures.Of.isEmpty {failures : Failures} (hfailures : failures.Of inputs) :
    failures.isEmpty = inputs.all Input.isTemplate := by
  rw [Bool.eq_iff_iff, List.isEmpty_iff, ← List.map_eq_nil_iff (f := Prod.fst),
    hfailures.inputs_eq, List.filter_eq_nil_iff, List.all_eq_true]
  simp

end Failing

/-! ## Explanations -/

/-- The part of the source of an input that a span covers, cut to the source. -/
def Input.underlined (input : Input) (span : Span) (label : String) (primary : Bool) :
    Underline where
  start := min span.start.toNat (Text.byteLength input.source.toList)
  stop := max (min span.start.toNat (Text.byteLength input.source.toList))
    (min span.stop (Text.byteLength input.source.toList))
  label
  primary

/-- The report is about the error of the input. -/
structure Report.Explains (input : Input) (error : ParseError) (report : Report) : Prop where
  path_eq : report.path = input.path
  source_eq : report.source = input.source.toList
  code_eq : report.code = error.code
  message_eq : report.message = error.message
  underlines_eq : report.underlines = input.underlined error.span error.label true ::
    error.relatedSpan.toList.map fun opener => input.underlined opener "opened here" false
  notes_eq : report.notes = error.help.toList

theorem Input.explains_report (input : Input) (error : ParseError) :
    (input.report error).Explains input error := by
  constructor
  case underlines_eq =>
    simp [report, Diagnostic.report, Diagnostic.ofParseError, Highlight.underline, Span.within,
      underlined]
  all_goals rfl

/-! ## Notices -/

section Notices

variable {quiet : Bool}

theorem Notice.filterMap_line?_map_log (events : List Event) :
    (events.map Notice.log).filterMap Notice.line? = [] := by
  simp

/-- The log has no part in the other lines. -/
theorem Outcome.lines_logged (shows : Event → Bool) (outcome : Outcome) :
    (outcome.logged shows).lines = outcome.lines := by
  have hline : (fun notice => if Notice.isWritten shows notice then notice.line? else none) =
      Notice.line? := by
    funext notice
    cases notice with
    | line text => simp
    | log event => exact ite_self none
  unfold Outcome.lines Outcome.logged
  rw [List.filterMap_filter, hline]

theorem Failures.filterMap_line?_summary (failures : Failures) (text : String) :
    (failures.summary text).filterMap Notice.line? = if failures = [] then [] else [text] := by
  cases failures <;> rfl

/-- Besides the log, extraction writes what explains the failures, in their order. -/
theorem Extracted.filterMap_line?_notices (console : Console) (globals : Globals)
    (results : List Extracted) :
    (results.flatMap fun extracted =>
      (events globals extracted.1).map .log ++ extracted.explanation console).filterMap
        Notice.line? =
      (results.filterMap failure?).map fun failure =>
        console.draw console.stderrIsTerminal (failure.1.report failure.2) ++ "\n" := by
  induction results with
  | nil => rfl
  | cons extracted results ih =>
      rw [List.flatMap_cons, List.filterMap_append, List.filterMap_append, ih,
        Notice.filterMap_line?_map_log]
      rcases extracted with ⟨input, error | names⟩ <;>
        simp [List.filterMap_cons, explanation, failure?]

/-- No event of the reading of a template is important. -/
theorem Event.minor_ofReading (source : List Char) :
    ∀ event ∈ ofReading source, Severity.info.rank < event.severity.rank := by
  unfold ofReading
  split
  · simp [blankTemplate, Severity.rank]
  split
  · simp [lexingFailed, Severity.rank]
  split <;> simp [lexedTemplate, parsingFailed, parsedTemplate, Severity.rank]

theorem Extracted.minor_events (globals : Globals) (input : Input) :
    ∀ event ∈ events globals input, Severity.info.rank < event.severity.rank := by
  unfold events
  rw [List.forall_mem_append]
  refine ⟨Event.minor_ofReading _, ?_⟩
  split <;> simp [Event.collectedVariables, Severity.rank]

theorem minor_checkEvents (input : Input) :
    ∀ event ∈ checkEvents quiet input, Severity.info.rank < event.severity.rank := by
  unfold checkEvents
  rw [List.forall_mem_append]
  refine ⟨Event.minor_ofReading _, ?_⟩
  split
  · simp [Event.templateOk, Severity.rank]
  · cases quiet <;> simp [unlessQuiet, Event.parseError, Severity.rank]

/-- If nothing but unimportant events is reported, a quiet run writes no lines, and nothing at all
unless the environment asks for events. -/
theorem Outcome.quiet_of_minor {outcome : Outcome} {events : List Event}
    (hnotices : outcome.notices = events.map .log)
    (hminor : ∀ event ∈ events, Severity.info.rank < event.severity.rank)
    (asked? : Option (Event → Bool)) (verbose : Nat) (debug : Bool) :
    let logged := outcome.logged (Event.isShown asked? (.ofSwitches true verbose debug))
    logged.lines = [] ∧ (asked? = none → logged.notices = []) := by
  refine ⟨?_, fun hasked => ?_⟩
  · rw [lines_logged, lines, hnotices, Notice.filterMap_line?_map_log]
  · rw [hasked, logged, hnotices, List.filter_eq_nil_iff]
    intro notice hnotice
    obtain ⟨event, hmem, rfl⟩ := List.mem_map.1 hnotice
    have hrank : 2 < event.severity.rank := hminor event hmem
    have hshown : ¬event.severity.rank ≤ 0 := by omega
    exact fun hwritten => hshown (of_decide_eq_true hwritten)

end Notices

/-! ## Reports -/

namespace Extracted

variable (globals : Globals) {inputs : List Input}

/-- Below its path stands what extraction finds in an input, whatever the other inputs are. -/
theorem text_of_inputs (console : Console) (hseveral : inputs.length ≠ 1) :
    format console (inputs.map fun input => (input, freeVariablesOf globals input.source)) .text =
      String.join (inputs.map fun input => input.path ++ ":\n" ++
        String.join ((extractWith globals input.source).names.toList.map fun name =>
          "  " ++ name ++ "\n")) := by
  have hlines : lines (inputs.map fun input => (input, freeVariablesOf globals input.source)) =
      inputs.flatMap fun input =>
        (input.path ++ ":") :: (extractWith globals input.source).names.toList.map ("  " ++ ·) := by
    cases inputs with
    | nil => rfl
    | cons first others =>
        cases others with
        | nil => exact absurd rfl hseveral
        | cons second others => simp [lines, extraction, extractWith, List.flatMap_map]
  rw [format, hlines]
  clear hlines hseveral
  induction inputs with
  | nil => rfl
  | cons input inputs ih =>
      simp [String.join_append, ih, Function.comp_def, String.append_assoc]

/-- The error is left out if there is none. -/
theorem members_eq (extraction : Extraction) :
    members extraction =
      ("variables", .array (extraction.names.toList.map .string)) ::
        match extraction.error with
        | none => []
        | some message => [("error", .string message)] := by
  unfold members
  cases extraction.error <;> rfl

theorem json_of_inputs (hseveral : inputs.length ≠ 1) :
    json (inputs.map fun input => (input, freeVariablesOf globals input.source)) =
      .array (inputs.map fun input =>
        .object (("path", .string input.path) ::
          members (extractWith globals input.source))) := by
  cases inputs with
  | nil => rfl
  | cons first others =>
      cases others with
      | nil => exact absurd rfl hseveral
      | cons second others => simp [json, extraction, extractWith]

end Extracted

/-- What both commands make of the same inputs, however much output is asked for, and in either
format.  The failures are explained by the reports, which are drawn in their order. -/
structure Reports (console : Console) (globals : Globals) (inputs : List Input)
    (failures : Failures) (reports : List Report)
    (extract : Bool → Nat → OutputFormat → Outcome) (check : Bool → Nat → Outcome) : Prop where
  extract_exitCode : ∀ quiet verbose format, (extract quiet verbose format).exitCode =
    if inputs.all Input.isTemplate then 0 else 1
  check_exitCode : ∀ quiet verbose, (check quiet verbose).exitCode =
    if inputs.all Input.isTemplate then 0 else 1
  text_of_single : ∀ input quiet verbose, inputs = [input] →
    (extract quiet verbose .text).stdout =
      String.join ((extractWith globals input.source).names.toList.map (· ++ "\n"))
  text_of_several : ∀ quiet verbose, inputs.length ≠ 1 →
    (extract quiet verbose .text).stdout =
      String.join (inputs.map fun input => input.path ++ ":\n" ++
        String.join ((extractWith globals input.source).names.toList.map fun name =>
          "  " ++ name ++ "\n"))
  json_of_single : ∀ input quiet verbose, inputs = [input] →
    (extract quiet verbose .json).stdout =
      console.json (.object
        (("variables",
            .array ((extractWith globals input.source).names.toList.map .string)) ::
          match (extractWith globals input.source).error with
          | none => []
          | some message => [("error", .string message)])) ++ "\n"
  json_of_several : ∀ quiet verbose, inputs.length ≠ 1 →
    (extract quiet verbose .json).stdout =
      console.json (.array (inputs.map fun input => .object
        (("path", .string input.path) ::
          ("variables",
            .array ((extractWith globals input.source).names.toList.map .string)) ::
          match (extractWith globals input.source).error with
          | none => []
          | some message => [("error", .string message)]))) ++ "\n"
  extract_lines : ∀ verbose format,
    let total := if inputs.length = 1 then "1 template" else s!"{inputs.length} templates"
    (extract false verbose format).lines =
      (reports.map fun report =>
        (if console.stderrIsTerminal then console.styled report else console.plain report) ++
          "\n") ++
        if failures = [] then [] else [s!"Failed to parse {failures.length} of {total}."]
  check_stdout : ∀ verbose, (check false verbose).stdout =
    String.join (reports.map fun report =>
      (if console.stdoutIsTerminal then console.styled report else console.plain report) ++
        "\n\n")
  check_lines : ∀ verbose,
    let found := if failures.length = 1 then "1 error" else s!"{failures.length} errors"
    let total := if inputs.length = 1 then "1 file" else s!"{inputs.length} files"
    (check false verbose).lines =
      if failures = [] then [] else [s!"Found {found} in {total} checked."]
  extract_quiet : ∀ verbose format, (extract true verbose format).lines = [] ∧
    (console.asked? = none → (extract true verbose format).notices = [])
  check_quiet : ∀ verbose, (check true verbose).stdout = "" ∧ (check true verbose).lines = [] ∧
    (console.asked? = none → (check true verbose).notices = [])

theorem counted_eq (count : Nat) {noun one many : String} (hone : "1 " ++ noun = one)
    (hmany : " " ++ noun ++ "s" = many) :
    counted count noun = if count = 1 then one else s!"{count}{many}" := by
  unfold counted
  by_cases hcount : count = 1
  · simp only [hcount, if_true, ← hone]
    rfl
  · simp [hcount, ← hmany, toString, String.append_assoc]

theorem reports_of_inputs (console : Console) (settings : Settings) (inputs : List Input) :
    Reports console (Globals.ofNames settings.globals) inputs (inputs.filterMap checkInput)
      ((inputs.filterMap checkInput).map fun failure => failure.1.report failure.2)
      (fun quiet verbose format =>
        (extractInputs console (Globals.ofNames settings.globals) format quiet inputs).logged
          (Event.isShown console.asked? (.ofSwitches quiet verbose settings.debug)))
      (fun quiet verbose => (checkInputs console quiet inputs).logged
        (Event.isShown console.asked? (.ofSwitches quiet verbose settings.debug))) := by
  have hempty := (failures_of_checkInput inputs).isEmpty
  have hfailures := failures_of_extracted (Globals.ofNames settings.globals) inputs
  constructor
  case extract_exitCode =>
    intro quiet verbose format
    simp only [Outcome.logged, extractInputs, hfailures, Failures.exitCode, hempty]
  case check_exitCode =>
    intro quiet verbose
    simp only [Outcome.logged, checkInputs, Failures.exitCode, hempty]
  case text_of_single =>
    rintro input quiet verbose rfl
    rfl
  case text_of_several =>
    intro quiet verbose hseveral
    exact Extracted.text_of_inputs _ console hseveral
  case json_of_single =>
    rintro input quiet verbose rfl
    simp only [Outcome.logged, extractInputs, Extracted.format, Extracted.json,
      Extracted.members_eq, List.map_cons, List.map_nil, Extracted.extraction]
    rfl
  case json_of_several =>
    intro quiet verbose hseveral
    simp only [Outcome.logged, extractInputs, Extracted.format, Extracted.json_of_inputs _ hseveral,
      Extracted.members_eq]
  case extract_lines =>
    intro verbose format total
    rw [Outcome.lines_logged, Outcome.lines]
    simp only [extractInputs, unlessQuiet, hfailures, if_false, Bool.false_eq_true]
    rw [List.filterMap_append, Extracted.filterMap_line?_notices, hfailures,
      Failures.filterMap_line?_summary, counted_eq _ rfl rfl, List.map_map]
    rfl
  case check_stdout =>
    intro verbose
    simp only [Outcome.logged, checkInputs, unlessQuiet, if_false, List.map_map, Bool.false_eq_true]
    rfl
  case check_lines =>
    intro verbose found total
    rw [Outcome.lines_logged, Outcome.lines]
    simp only [checkInputs, unlessQuiet, if_false, Bool.false_eq_true]
    rw [List.filterMap_append, Notice.filterMap_line?_map_log, Failures.filterMap_line?_summary,
      counted_eq _ rfl rfl, counted_eq _ rfl rfl]
    rfl
  case extract_quiet =>
    intro verbose format
    let globals := Globals.ofNames settings.globals
    have hnotices : (extractInputs console globals format true inputs).notices =
        (inputs.flatMap (Extracted.events globals)).map .log := by
      simp [extractInputs, unlessQuiet, List.flatMap_map, List.map_flatMap]
    have hminor : ∀ event ∈ inputs.flatMap (Extracted.events globals),
        Severity.info.rank < event.severity.rank :=
      List.forall_mem_flatMap.2 fun input _ => Extracted.minor_events globals input
    exact Outcome.quiet_of_minor hnotices hminor _ verbose settings.debug
  case check_quiet =>
    intro verbose
    have hnotices : (checkInputs console true inputs).notices =
        (inputs.flatMap (checkEvents true)).map .log := by
      simp [checkInputs, unlessQuiet]
    have hminor : ∀ event ∈ inputs.flatMap (checkEvents true),
        Severity.info.rank < event.severity.rank :=
      List.forall_mem_flatMap.2 fun input _ => minor_checkEvents input
    exact ⟨rfl, Outcome.quiet_of_minor hnotices hminor _ verbose settings.debug⟩

/-! ## Runs -/

namespace Invocation

variable {surroundings : Surroundings} {settings : Settings} {invocation : Invocation}

theorem execute_of_firstUnreadable {path : String} {failure : ReadFailure}
    (hpaths : invocation.command.paths ≠ [])
    (hfirst : Input.FirstUnreadable surroundings.file invocation.command.paths path failure) :
    invocation.execute surroundings settings =
      { exitCode := 1
        stdout := ""
        notices :=
          [.line s!"Error: Failed to read {path}", .line s!"Caused by: {failure.message}"] } := by
  have hmessage : "Error: " ++ ("Failed to read " ++ path) = "Error: Failed to read " ++ path := by
    rw [← String.append_assoc]
    rfl
  rw [execute, Input.readAll_of_ne_nil hpaths, Input.mapM_ofPath_of_firstUnreadable hfirst]
  simp [Outcome.ofInputError, Outcome.failure, toString, ← hmessage]

theorem execute_of_atPaths {inputs : List Input} (hpaths : invocation.command.paths ≠ [])
    (hinputs : Input.AtPaths surroundings.file invocation.command.paths inputs) :
    invocation.execute surroundings settings =
      (invocation.onInputs surroundings.console settings inputs).logged
        (invocation.shows surroundings.console settings) := by
  rw [execute, Input.readAll_of_ne_nil hpaths, Input.mapM_ofPath_of_atPaths hinputs]

/-- Either all inputs are read or none is used: if a path cannot be read, each command ends with
nothing but the error for the first such path, and not even the log shows that a template is
read.  Otherwise the two commands report the same inputs as no templates, and everything that
they write besides the log is settled input by input. -/
theorem execute_all_or_nothing (surroundings : Surroundings) (settings : Settings)
    {paths : List String} (hpaths : paths ≠ []) :
    ((∃ path ∈ paths, ∃ failure, surroundings.file path = .error failure) →
      ∃ path failure, Input.FirstUnreadable surroundings.file paths path failure ∧
        ∀ invocation : Invocation, invocation.command.paths = paths →
          invocation.execute surroundings settings =
            { exitCode := 1
              stdout := ""
              notices :=
                [.line s!"Error: Failed to read {path}",
                  .line s!"Caused by: {failure.message}"] }) ∧
    ((∀ path ∈ paths, ∃ source, surroundings.file path = .ok source) →
      ∃ inputs failures reports, Input.AtPaths surroundings.file paths inputs ∧
        Failures.Of inputs failures ∧
        List.Forall₂ (fun failure report => Report.Explains failure.1 failure.2 report)
          failures reports ∧
        Reports surroundings.console (Globals.ofNames settings.globals) inputs failures reports
          (fun quiet verbose format =>
            execute surroundings settings { quiet, verbose, command := .extract format paths })
          (fun quiet verbose =>
            execute surroundings settings { quiet, verbose, command := .check paths })) := by
  constructor
  · intro hunreadable
    obtain ⟨path, failure, hfirst⟩ := Input.exists_firstUnreadable hunreadable
    refine ⟨path, failure, hfirst, fun invocation hinvocation => ?_⟩
    subst hinvocation
    exact execute_of_firstUnreadable hpaths hfirst
  · intro hreadable
    obtain ⟨inputs, hinputs⟩ := Input.exists_atPaths hreadable
    have hexplains : List.Forall₂
        (fun failure report => Report.Explains failure.1 failure.2 report)
        (inputs.filterMap checkInput)
        ((inputs.filterMap checkInput).map fun failure => failure.1.report failure.2) :=
      List.forall₂_map_right_iff.2
        (List.forall₂_same.2 fun failure _ => failure.1.explains_report failure.2)
    refine ⟨inputs, inputs.filterMap checkInput, _, hinputs, failures_of_checkInput inputs,
      hexplains, ?_⟩
    let asked? := surroundings.console.asked?
    have hextract (quiet : Bool) (verbose : Nat) (format : OutputFormat) :
        execute surroundings settings { quiet, verbose, command := .extract format paths } =
          (extractInputs surroundings.console (Globals.ofNames settings.globals) format quiet
            inputs).logged (Event.isShown asked? (.ofSwitches quiet verbose settings.debug)) :=
      execute_of_atPaths hpaths hinputs
    have hcheck (quiet : Bool) (verbose : Nat) :
        execute surroundings settings { quiet, verbose, command := .check paths } =
          (checkInputs surroundings.console quiet inputs).logged
            (Event.isShown asked? (.ofSwitches quiet verbose settings.debug)) :=
      execute_of_atPaths hpaths hinputs
    simp only [hextract, hcheck]
    exact reports_of_inputs surroundings.console settings inputs

/-- A missing file between two others, and a broken template behind a page. -/
theorem execute_all_or_nothing_broken :
    let file : String → Except ReadFailure String := fun path =>
      if path = "page" then .ok "\x7b\x7b site.name + user \x7d\x7d"
      else if path = "broken" then .ok "\x7b% if user"
      else .error .missing
    let surroundings : Surroundings :=
      { settings := {}, file, stdin := none, console := Console.drawn }
    let settings : Settings := { debug := true, globals := ["site"] }
    (["page", "lost", "broken"] ≠ [] ∧
      (∃ path ∈ ["page", "lost", "broken"], ∃ failure, file path = .error failure) ∧
      ∃ path failure, Input.FirstUnreadable file ["page", "lost", "broken"] path failure ∧
        ∀ invocation : Invocation, invocation.command.paths = ["page", "lost", "broken"] →
          invocation.execute surroundings settings =
            { exitCode := 1
              stdout := ""
              notices :=
                [.line s!"Error: Failed to read {path}",
                  .line s!"Caused by: {failure.message}"] }) ∧
    (["page", "broken"] ≠ [] ∧ (∀ path ∈ ["page", "broken"], ∃ source, file path = .ok source) ∧
      ∃ inputs failures reports, Input.AtPaths file ["page", "broken"] inputs ∧
        Failures.Of inputs failures ∧
        List.Forall₂ (fun failure report => Report.Explains failure.1 failure.2 report)
          failures reports ∧
        Reports Console.drawn (Globals.ofNames ["site"]) inputs failures reports
          (fun quiet verbose format =>
            execute surroundings settings
              { quiet, verbose, command := .extract format ["page", "broken"] })
          (fun quiet verbose =>
            execute surroundings settings
              { quiet, verbose, command := .check ["page", "broken"] })) := by
  intro file surroundings settings
  have hlost : ∃ path ∈ ["page", "lost", "broken"], ∃ failure, file path = .error failure :=
    ⟨"lost", by decide, .missing, by simp [file]⟩
  have hreadable : ∀ path ∈ ["page", "broken"], ∃ source, file path = .ok source := by
    simp [file]
  exact ⟨⟨by decide, hlost,
      (execute_all_or_nothing surroundings settings (by decide)).1 hlost⟩,
    by decide, hreadable, (execute_all_or_nothing surroundings settings (by decide)).2 hreadable⟩

end Invocation

end TemplateVariables
