import ManifestAudit.Proofs.CommandLine.Arguments

/-!
# Asking for all of the log

A command line behind the verbose flag asks for the same as without it, except that all of the
log is shown: `read_cons_verbose`. Reading is indifferent to the flag at every step, so it
makes no difference whether it is set before the first argument or after the last.
-/

namespace ManifestAudit.CommandLine

/-- The same arguments, with all of the log to be shown. -/
def Arguments.verbosely (arguments : Arguments) : Arguments :=
  { arguments with verbose := true }

/-- The same request, with all of the log to be shown where there is a run. -/
def Request.verbosely : Request → Request
  | .run arguments => .run arguments.verbosely
  | .help => .help
  | .version => .version
  | .refused error => .refused error

/-- Whether a command line asks for all of the log. -/
def asksVerbose (argv : List String) : Bool :=
  match read argv with
  | .run arguments => arguments.verbose
  | .help | .version | .refused _ => false

variable {arguments : Arguments} {switch : Switch}

/-- What is no run stays as it is. -/
theorem Request.verbosely_eq_self {request : Request}
    (noRun : ∀ arguments, request ≠ .run arguments) : request.verbosely = request := by
  cases request with
  | run arguments => exact absurd rfl (noRun arguments)
  | _ => rfl

/-! ## One argument -/

theorem setFlag_verbosely :
    setFlag arguments.verbosely switch = (setFlag arguments switch).map Arguments.verbosely := by
  cases switch <;> rfl

theorem foldlM_setFlag_verbosely (switches : List Switch) :
    switches.foldlM setFlag arguments.verbosely =
      (switches.foldlM setFlag arguments).map Arguments.verbosely := by
  induction switches generalizing arguments with
  | nil => rfl
  | cons switch switches inductionHypothesis =>
      rw [List.foldlM_cons, List.foldlM_cons, setFlag_verbosely]
      cases setFlag arguments switch with
      | error request => rfl
      | ok after => exact inductionHypothesis

theorem setFlags_verbosely (name : String) (attached : Option String) :
    setFlags arguments.verbosely switch name attached =
      (setFlags arguments switch name attached).map Arguments.verbosely := by
  unfold setFlags
  split
  · rfl
  · exact foldlM_setFlag_verbosely _

theorem setValue_verbosely (value : String) :
    setValue arguments.verbosely switch value =
      (setValue arguments switch value).map Arguments.verbosely := by
  cases switch with
  | format =>
      unfold setValue
      dsimp only
      split
      · rfl
      · split <;> rfl
  | _ => rfl

/-! ## A whole command line -/

/-- An end before its time is no run, so it is the same. -/
theorem verbosely_of_setValue {value : String} {request : Request}
    (ended : setValue arguments switch value = .error request) : request.verbosely = request :=
  Request.verbosely_eq_self fun _ same => setValue_ne_error_run (same ▸ ended)

theorem verbosely_of_setFlags {name : String} {attached : Option String} {request : Request}
    (ended : setFlags arguments switch name attached = .error request) :
    request.verbosely = request :=
  Request.verbosely_eq_self fun _ same => setFlags_ne_error_run (same ▸ ended)

/-- With the flag set before, reading comes to the same with the flag set. -/
theorem readFrom_verbosely (unrecognized : List String) (classified : List Argument) :
    readFrom arguments.verbosely unrecognized classified =
      (readFrom arguments unrecognized classified).verbosely := by
  fun_induction readFrom arguments unrecognized classified with
  | case1 arguments unrecognized nothing => simp [readFrom, nothing, Request.verbosely]
  | case2 arguments unrecognized something => simp [readFrom, something, Request.verbosely]
  | case3 arguments unrecognized text rest inductionHypothesis
  | case4 arguments unrecognized text rest inductionHypothesis =>
      rw [readFrom, inductionHypothesis]
  -- The value of an option stands with it, or it is the argument behind it.
  | case5 arguments unrecognized switch name takes value rest request ended
  | case7 arguments unrecognized switch name takes value rest request ended =>
      rw [readFrom.eq_def]
      simp only [if_pos takes, setValue_verbosely, ended, Except.map, verbosely_of_setValue ended]
  | case6 arguments unrecognized switch name takes value rest after set inductionHypothesis
  | case8 arguments unrecognized switch name takes value rest after set inductionHypothesis =>
      rw [readFrom.eq_def]
      simp only [if_pos takes, setValue_verbosely, set, Except.map, inductionHypothesis]
  | case9 arguments unrecognized switch name rest takes noValue =>
      rw [readFrom.eq_def]
      simp only [if_pos takes, Request.verbosely]
  | case10 arguments unrecognized switch name attached rest takesNone request ended =>
      rw [readFrom.eq_def]
      simp only [if_neg takesNone, setFlags_verbosely, ended, Except.map,
        verbosely_of_setFlags ended]
  | case11 arguments unrecognized switch name attached rest takesNone after set
      inductionHypothesis =>
      rw [readFrom.eq_def]
      simp only [if_neg takesNone, setFlags_verbosely, set, Except.map, inductionHypothesis]

/-- Behind the flag a command line asks for the same, with all of the log. -/
theorem read_cons_verbose (argv : List String) : read ("-v" :: argv) = (read argv).verbosely := by
  have looks : classify "-v" = .ok (.option .verbose "-v" none) := rfl
  have flag (classified : List Argument) :
      readFrom Arguments.none [] (.option .verbose "-v" none :: classified) =
        readFrom Arguments.none.verbosely [] classified := by
    rw [readFrom.eq_def]
    rfl
  unfold read
  rw [classifyAll, if_neg (by decide), looks]
  cases classifyAll argv with
  | error error => rfl
  | ok classified => exact (flag classified).trans (readFrom_verbosely [] classified)

end ManifestAudit.CommandLine
