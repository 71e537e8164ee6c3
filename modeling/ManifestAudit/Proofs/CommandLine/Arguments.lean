import ManifestAudit.CommandLine.Arguments

/-!
# What a command line asks for

A command line that is accepted is read from left to right, and each option takes effect
where it stands. What is asked for in the end can be said without that: an option has the
value that it took last, the separator standing for none, and a flag is set if it is given
anywhere. `Reads` says so of classified arguments, and `reads_of_readFrom` that reading them
comes to that.
-/

namespace ManifestAudit.CommandLine

/-- The option that an argument is, if it is one. -/
def Argument.switch? : Argument → Option Switch
  | .option switch _ _ => some switch
  | .plain _ | .stray _ => none

/-- The value that an option takes: what is attached to it, or else the plain argument
behind it. -/
def takenValue? : Option String → List Argument → Option String
  | some value, _ => some value
  | none, .plain value :: _ => some value
  | none, _ => none

/-- The value that an option takes where it stands last. -/
def lastValue? (switch : Switch) : List Argument → Option String
  | [] => none
  | .option other _ attached :: behind =>
    (lastValue? switch behind).or
      (if other = switch then takenValue? attached behind else none)
  | .plain _ :: behind | .stray _ :: behind => lastValue? switch behind

variable {α : Type}

/-- What an option is set to by the value that it took last; the separator takes back what
was set, and without a value it stays as it was. -/
def settled (meaning : String → Option α) (held : Option α) : Option String → Option α
  | none => held
  | some value => if value = "--" then none else meaning value

/-- Of two values the later one counts. -/
theorem settled_settled (meaning : String → Option α) (held : Option α)
    (earlier later : Option String) :
    settled meaning (settled meaning held earlier) later =
      settled meaning held (later.or earlier) := by
  cases later <;> rfl

/-- The format that a value names. -/
def formatNamed? (value : String) : Option ReportFormat :=
  ReportFormat.ofName? value

/-! ## One option -/

/-- What one option changes, with the value that it takes, if any. -/
structure Effect (switch : Switch) (taken : Option String) (before after : Arguments) : Prop where
  manifestPath : after.manifestPath =
    settled some before.manifestPath (if switch = .packagePath then taken else none)
  output : after.output = settled some before.output (if switch = .output then taken else none)
  format : after.format =
    settled formatNamed? before.format (if switch = .format then taken else none)
  /-- No value is accepted that names no format. -/
  named : switch = .format → ∀ value, taken = some value → value ≠ "--" →
    (formatNamed? value).isSome
  failOnMissing : after.failOnMissing = (before.failOnMissing || switch == .failOnMissing)
  valued : switch.takesValue = true → taken.isSome

variable {before after result : Arguments} {switch : Switch}

/-- Setting a format takes back the one that was set, or sets the one that is named. -/
theorem setFormat_eq_ok {value : String} (set : setValue before .format value = .ok after) :
    after = { before with format := settled formatNamed? before.format (some value) } ∧
      (value ≠ "--" → (formatNamed? value).isSome) := by
  by_cases separator : value = "--"
  · subst separator
    cases set
    exact ⟨rfl, fun different => absurd rfl different⟩
  · simp only [setValue, if_neg separator] at set
    split at set
    case h_1 format found =>
      cases set
      have named : formatNamed? value = some format := found
      simp [settled, separator, named]
    case h_2 => cases set

/-- An option with a value takes effect where the value is set. -/
theorem effect_of_setValue {value : String} (takes : switch.takesValue = true)
    (set : setValue before switch value = .ok after) : Effect switch (some value) before after := by
  cases switch with
  | packagePath =>
      cases set
      exact ⟨rfl, rfl, rfl, nofun, by simp, fun _ => rfl⟩
  | output =>
      cases set
      exact ⟨rfl, rfl, rfl, nofun, by simp, fun _ => rfl⟩
  | format =>
      obtain ⟨rfl, named⟩ := setFormat_eq_ok set
      refine ⟨rfl, rfl, rfl, fun _ other same => ?_, by simp, fun _ => rfl⟩
      cases same
      exact named
  | _ => cases takes

/-- The only name of the flag for missing manifests is a long one. -/
theorem eq_of_ofName?_failOnMissing {name : String}
    (found : Switch.ofName? name = some .failOnMissing) : name = "--fail-on-missing" := by
  obtain ⟨before, behind, names, _⟩ := List.lookup_eq_some_iff.mp found
  have listed : (name, Switch.failOnMissing) ∈ Switch.names := by simp [names]
  simpa [Switch.names] using listed

/-- So no flag that is run together with others is that one. -/
theorem failOnMissing_not_mem_of_cluster {chars : List Char} {switches : List Switch}
    (clustered : cluster switch chars = .ok switches) :
    ∃ others, switches = switch :: others ∧ .failOnMissing ∉ others := by
  induction chars generalizing switch switches with
  | nil =>
      cases clustered
      exact ⟨[], rfl, List.not_mem_nil⟩
  | cons flag rest inductionHypothesis =>
      rw [cluster] at clustered
      split at clustered
      case h_1 => cases clustered
      case h_2 next found =>
        have short : next ≠ .failOnMissing := by
          rintro rfl
          have long : 2 = "--fail-on-missing".toList.length := by
            rw [← eq_of_ofName?_failOnMissing found, String.toList_ofList]
            rfl
          revert long
          decide
        cases inner : cluster next rest with
        | error error => simp [inner, Except.map] at clustered
        | ok others =>
            obtain ⟨more, rfl, absent⟩ := inductionHypothesis inner
            simp only [inner, Except.map, Except.ok.injEq] at clustered
            subst clustered
            exact ⟨_, rfl, by simp [absent, short.symm]⟩

/-- The flags of an argument are the one that it is and others that are not about missing
manifests. -/
theorem failOnMissing_not_mem_of_flags {name : String} {attached : Option String}
    {switches : List Switch} (given : flags switch name attached = .ok switches) :
    ∃ others, switches = switch :: others ∧ .failOnMissing ∉ others := by
  unfold flags at given
  split at given
  case h_1 =>
    cases given
    exact ⟨[], rfl, List.not_mem_nil⟩
  case h_2 =>
    split at given
    case isTrue => exact failOnMissing_not_mem_of_cluster given
    case isFalse => cases given

/-- A flag changes nothing but itself. -/
theorem setFlag_eq_ok (set : setFlag before switch = .ok after) :
    after.manifestPath = before.manifestPath ∧ after.output = before.output ∧
      after.format = before.format ∧
      after.failOnMissing = (before.failOnMissing || switch == .failOnMissing) := by
  cases switch <;> cases set <;> simp

/-- Nor do several flags. -/
theorem foldlM_setFlag_eq_ok {switches : List Switch}
    (set : switches.foldlM setFlag before = .ok after) :
    after.manifestPath = before.manifestPath ∧ after.output = before.output ∧
      after.format = before.format ∧
      after.failOnMissing = (before.failOnMissing || switches.contains .failOnMissing) := by
  induction switches generalizing before with
  | nil =>
      cases set
      simp
  | cons switch switches inductionHypothesis =>
      rw [List.foldlM_cons] at set
      cases first : setFlag before switch with
      | error request => simp [first, bind, Except.bind] at set
      | ok middle =>
          simp only [first, bind, Except.bind] at set
          obtain ⟨path, output, format, flag⟩ := setFlag_eq_ok first
          obtain ⟨path', output', format', flag'⟩ := inductionHypothesis set
          refine ⟨path'.trans path, output'.trans output, format'.trans format, ?_⟩
          rw [flag', flag, List.contains_cons, Bool.or_assoc, BEq.comm]

/-- An option without a value takes effect where its flags are set. -/
theorem effect_of_setFlags {name : String} {attached taken : Option String}
    (takesNone : ¬ switch.takesValue = true)
    (set : setFlags before switch name attached = .ok after) :
    Effect switch taken before after := by
  unfold setFlags at set
  split at set
  case h_1 => cases set
  case h_2 switches given =>
    obtain ⟨others, rfl, absent⟩ := failOnMissing_not_mem_of_flags given
    obtain ⟨path, output, format, flag⟩ := foldlM_setFlag_eq_ok set
    have notPath : switch ≠ .packagePath := by rintro rfl; exact takesNone rfl
    have notOutput : switch ≠ .output := by rintro rfl; exact takesNone rfl
    have notFormat : switch ≠ .format := by rintro rfl; exact takesNone rfl
    refine ⟨?_, ?_, ?_, fun same => absurd same notFormat, ?_, fun takes => absurd takes takesNone⟩
    · rw [path, if_neg notPath, settled]
    · rw [output, if_neg notOutput, settled]
    · rw [format, if_neg notFormat, settled]
    · have none : others.contains .failOnMissing = false := by simpa using absent
      rw [flag, List.contains_cons, none, Bool.or_false, BEq.comm]

/-- Setting a value ends no command line as accepted. -/
theorem setValue_ne_error_run {value : String} :
    setValue before switch value ≠ .error (.run after) := by
  intro refused
  cases switch with
  | format =>
      unfold setValue at refused
      dsimp only at refused
      split at refused
      case h_1 => cases refused
      case h_2 => split at refused <;> cases refused
  | _ => cases refused

/-- Nor does setting flags. -/
theorem foldlM_setFlag_ne_error_run {switches : List Switch} :
    switches.foldlM setFlag before ≠ .error (.run after) := by
  induction switches generalizing before with
  | nil => exact nofun
  | cons switch switches inductionHypothesis =>
      rw [List.foldlM_cons]
      cases switch <;> first | exact inductionHypothesis | (intro refused; cases refused)

/-- Nor does setting the flags of an argument. -/
theorem setFlags_ne_error_run {name : String} {attached : Option String} :
    setFlags before switch name attached ≠ .error (.run after) := by
  unfold setFlags
  split
  · exact nofun
  · exact foldlM_setFlag_ne_error_run

/-! ## A whole command line -/

/-- What reading classified arguments comes to: each option has the value that it took last,
and the flag is set if it is given anywhere. -/
structure Reads (before : Arguments) (classified : List Argument) (after : Arguments) : Prop where
  manifestPath : after.manifestPath =
    settled some before.manifestPath (lastValue? .packagePath classified)
  output : after.output = settled some before.output (lastValue? .output classified)
  format : after.format = settled formatNamed? before.format (lastValue? .format classified)
  named : ∀ value, lastValue? .format classified = some value → value ≠ "--" →
    (formatNamed? value).isSome
  failOnMissing : after.failOnMissing =
    (before.failOnMissing || classified.any (·.switch? == some .failOnMissing))
  /-- No option is accepted without the value that it takes. -/
  valued : ∀ switch, switch.takesValue = true →
    classified.any (·.switch? == some switch) = true → (lastValue? switch classified).isSome

/-- One option takes effect, and then those behind it. -/
theorem Reads.option {middle : Arguments} {name : String} {attached : Option String}
    {behind : List Argument} (first : Effect switch (takenValue? attached behind) before middle)
    (rest : Reads middle behind after) :
    Reads before (.option switch name attached :: behind) after where
  manifestPath := by
    rw [rest.manifestPath, first.manifestPath, settled_settled, lastValue?]
  output := by rw [rest.output, first.output, settled_settled, lastValue?]
  format := by rw [rest.format, first.format, settled_settled, lastValue?]
  named := by
    intro value last
    rw [lastValue?, Option.or_eq_some_iff] at last
    rcases last with last | ⟨_, here⟩
    · exact rest.named value last
    · split at here
      case isTrue same => exact first.named same value here
      case isFalse => cases here
  failOnMissing := by
    rw [rest.failOnMissing, first.failOnMissing, List.any_cons, Bool.or_assoc]
    rfl
  valued := by
    intro other takes given
    rw [lastValue?, Option.isSome_or, Bool.or_eq_true]
    rw [List.any_cons, Bool.or_eq_true] at given
    rcases given with here | behind
    · have same : switch = other := by simpa [Argument.switch?] using here
      subst same
      exact .inr (by simpa using first.valued takes)
    · exact .inl (rest.valued other takes behind)

/-- An argument that is no option gives none. -/
theorem Reads.plain {text : String} {behind : List Argument} (rest : Reads before behind after) :
    Reads before (.plain text :: behind) after :=
  ⟨rest.manifestPath, rest.output, rest.format, rest.named, rest.failOnMissing, rest.valued⟩

/-- Nor does one that only looks like an option. -/
theorem Reads.stray {text : String} {behind : List Argument} (rest : Reads before behind after) :
    Reads before (.stray text :: behind) after :=
  ⟨rest.manifestPath, rest.output, rest.format, rest.named, rest.failOnMissing, rest.valued⟩

/-- Reading classified arguments from left to right comes to that. -/
theorem reads_of_readFrom {unrecognized : List String} {classified : List Argument}
    (accepted : readFrom before unrecognized classified = .run after) :
    Reads before classified after := by
  fun_induction readFrom before unrecognized classified with
  | case1 arguments unrecognized nothing =>
      cases accepted
      exact ⟨rfl, rfl, rfl, nofun, by simp, by simp⟩
  | case2 => cases accepted
  | case3 arguments unrecognized text rest inductionHypothesis =>
      exact (inductionHypothesis accepted).plain
  | case4 arguments unrecognized text rest inductionHypothesis =>
      exact (inductionHypothesis accepted).stray
  | case5 _ _ _ _ _ _ _ request refused =>
      subst accepted
      exact absurd refused setValue_ne_error_run
  | case6 _ _ _ _ takes _ _ _ set inductionHypothesis =>
      exact .option (effect_of_setValue takes set) (inductionHypothesis accepted)
  | case7 _ _ _ _ _ _ _ request refused =>
      subst accepted
      exact absurd refused setValue_ne_error_run
  | case8 _ _ _ _ takes value rest _ set inductionHypothesis =>
      exact .option (effect_of_setValue takes set) (inductionHypothesis accepted).plain
  | case9 => cases accepted
  | case10 _ _ _ _ _ _ _ request refused =>
      subst accepted
      exact absurd refused setFlags_ne_error_run
  | case11 _ _ _ _ _ _ takesNone _ set inductionHypothesis =>
      exact .option (effect_of_setFlags takesNone set) (inductionHypothesis accepted)

/-! ## What is given -/

/-- The command line gives an option: one of its arguments is that option. -/
def Gives (argv : List String) (switch : Switch) : Prop :=
  ∃ classified, classifyAll argv = .ok classified ∧
    classified.any (·.switch? == some switch) = true

/-- The value that a command line gives to an option last. -/
def givenValue? (argv : List String) (switch : Switch) : Option String :=
  match classifyAll argv with
  | .ok classified => lastValue? switch classified
  | .error _ => none

variable {argv : List String} {classified : List Argument}

/-- Where arguments are classified, an option is given if it is among them. -/
theorem gives_iff (looks : classifyAll argv = .ok classified) :
    Gives argv switch ↔ classified.any (·.switch? == some switch) = true := by
  simp [Gives, looks]

/-- Its value is the one that it takes last. -/
theorem givenValue?_eq (looks : classifyAll argv = .ok classified) :
    givenValue? argv switch = lastValue? switch classified := by
  simp only [givenValue?, looks]

/-- An accepted command line asks for what it gives last. -/
theorem reads_of_read (accepted : read argv = .run after) :
    ∃ classified, classifyAll argv = .ok classified ∧
      Reads Arguments.none classified after := by
  unfold read at accepted
  split at accepted
  case h_1 => cases accepted
  case h_2 classified looks => exact ⟨classified, looks, reads_of_readFrom accepted⟩

/-- What was not set before is set to the last value, unless that is the separator. -/
theorem settled_none (meaning : String → Option α) (last : Option String) :
    settled meaning none last = (last.filter (· ≠ "--")).bind meaning := by
  cases last with
  | none => rfl
  | some value => by_cases separator : value = "--" <;> simp [settled, separator, Option.filter]

/-- An option whose value is known is given. -/
theorem gives_of_givenValue? {value : String} (given : givenValue? argv switch = some value) :
    Gives argv switch := by
  have among (classified : List Argument) (last : lastValue? switch classified = some value) :
      classified.any (·.switch? == some switch) = true := by
    induction classified with
    | nil => cases last
    | cons argument behind inductionHypothesis =>
        rw [List.any_cons, Bool.or_eq_true]
        cases argument with
        | option other name attached =>
            rw [lastValue?, Option.or_eq_some_iff] at last
            rcases last with last | ⟨_, here⟩
            · exact .inr (inductionHypothesis last)
            · split at here
              case isTrue same => exact .inl (by simp [Argument.switch?, same])
              case isFalse => cases here
        | _ => exact .inr (inductionHypothesis last)
  unfold givenValue? at given
  split at given
  case h_1 classified looks => exact (gives_iff looks).mpr (among classified given)
  case h_2 => cases given

/-- An option that takes a value is given with one. -/
theorem givenValue?_isSome_of_gives (accepted : read argv = .run after)
    (takes : switch.takesValue = true) (given : Gives argv switch) :
    (givenValue? argv switch).isSome = true := by
  obtain ⟨classified, looks, reads⟩ := reads_of_read accepted
  rw [givenValue?_eq looks]
  exact reads.valued switch takes ((gives_iff looks).mp given)

/-- The path of the manifest is the last value given for it, the separator being none. -/
theorem manifestPath_of_read (accepted : read argv = .run after) :
    after.manifestPath = (givenValue? argv .packagePath).filter (· ≠ "--") := by
  obtain ⟨classified, looks, reads⟩ := reads_of_read accepted
  rw [reads.manifestPath, givenValue?_eq looks, Arguments.none, settled_none, Option.bind_fun_some]

/-- So is the path of the output. -/
theorem output_of_read (accepted : read argv = .run after) :
    after.output = (givenValue? argv .output).filter (· ≠ "--") := by
  obtain ⟨classified, looks, reads⟩ := reads_of_read accepted
  rw [reads.output, givenValue?_eq looks, Arguments.none, settled_none, Option.bind_fun_some]

/-- The format is the one that the last value names, and there is one unless that value is
the separator. -/
theorem format_of_read (accepted : read argv = .run after) :
    after.format = ((givenValue? argv .format).filter (· ≠ "--")).bind formatNamed? ∧
      ∀ value, givenValue? argv .format = some value → value ≠ "--" →
        (formatNamed? value).isSome = true := by
  obtain ⟨classified, looks, reads⟩ := reads_of_read accepted
  rw [reads.format, givenValue?_eq looks, Arguments.none, settled_none]
  exact ⟨rfl, reads.named⟩

/-- The flag for missing manifests is set where it is given. -/
theorem failOnMissing_of_read (accepted : read argv = .run after) :
    after.failOnMissing = true ↔ Gives argv .failOnMissing := by
  obtain ⟨classified, looks, reads⟩ := reads_of_read accepted
  rw [reads.failOnMissing, gives_iff looks, Arguments.none, Bool.false_or]

end ManifestAudit.CommandLine
