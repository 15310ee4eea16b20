import SqlFilter.CommandLine.Run
import SqlFilter.Proofs.Clause.Limit
import SqlFilter.Proofs.CommandLine.Arguments
import SqlFilter.Proofs.Document.Depth
import SqlFilter.Proofs.Select.Clean
import SqlFilter.Proofs.Select.History
import SqlFilter.Proofs.Settings

/-!
# What a run writes

A run passes through stages: the words are understood, the settings are loaded, the document is
read, and the command reports. `run_course` tells where a run can end and what it has written there,
and everything else is read off the report of the last stage (`report`).

* A command succeeds exactly if its filter has a clause under the limit of the settings
  (`status_eq_zero_iff`), and `compile` and `select` then print the clause and the statement
  (`run_compile_iff`, `run_select_iff`).
* A run that fails has printed nothing; an explanation has shown the tree, and there is no clause
  it could have printed (`output_of_failure`).
* What `compile` and `select` print is a single line out of which nothing leaks
  (`output_isContained`).
* No document is too deep for settings with a limit of 63 or more (`ending_ne_depthExceeded`), and
  the limit does not matter any further (`report_congr`).

The words, the settings and the document are read back from what was written, so all of this can be
said of a run on two files (`run_compile_written`).
-/

namespace SqlFilter

namespace CommandLine

open Arguments (Command)

/-! ### The stages of a run -/

/-- The text of a document; a hyphen names the standard input. -/
def documentText (host : Host Id) (name : String) : Except FileError String :=
  if name = "-" then host.readInputText.run else (host.readText name).run

/-- The words ask for a command, and the settings for it can be loaded. -/
inductive Asks (host : Host Id) (words : List String) (command : Command) (settings : Settings) :
    Prop where
  | intro (named : Option String) :
    Arguments.parse (host.environment "SIEVE_CONFIG").run words = .ok ⟨named, command⟩ →
    (loadSettings host named).run = .ok settings → Asks host words command settings

/-- The document of a command gives its filter. Without a document there is none. -/
inductive Gives (host : Host Id) (command : Command) : Option Expression → Prop where
  | document {name text : String} {filter : Option Expression} :
    documentOf command = some name → documentText host name = .ok text →
    Document.read text = .ok filter → Gives host command filter
  | noDocument : documentOf command = none → Gives host command none

/-- Whether a run with the given settings is in color. -/
def isColored (host : Host Id) (settings : Settings) : Bool :=
  Terminal.forced (host.environment "CLICOLOR_FORCE").run && settings.color

/-- **How a run goes**, by the stage at which it ends. Before the last stage no clause has been
asked for, and nothing has been printed. -/
inductive Course (host : Host Id) (words : List String) : Report → Prop where
  /-- The version and the help are all that is asked for. -/
  | told (text : String) : Course host words (.success text)
  /-- The words make no command. -/
  | misused : Course host words ⟨"", helpText, .misuse⟩
  /-- The settings or the document cannot be read. -/
  | stopped {cause : Failure} (colored : Bool) :
    (∀ err, cause ≠ .clause err) → Course host words ⟨"", "", .failed cause colored⟩
  /-- The command reports. -/
  | answered {command : Command} {settings : Settings} {filter : Option Expression} :
    Asks host words command settings → Gives host command filter →
    Course host words (report settings.depthLimit (isColored host settings) filter command)

variable {host : Host Id} {words : List String} {command : Command} {settings : Settings}
  {filter : Option Expression}

/-- The settings fail before there is anything to write. -/
theorem loadSettings_ne_clause {named : Option String} {cause : Failure}
    (h : (loadSettings host named).run = .error cause) (err : ClauseError) :
    cause ≠ .clause err := by
  rintro rfl
  simp only [loadSettings, Id.run_bind] at h
  split at h
  · cases h
  · simp only [Id.run_bind] at h
    split at h
    · -- without a file the standard settings hold, and with one it is unreadable or malformed
      cases h
    · split at h <;> cases h

theorem readDocument_eq (host : Host Id) (name : String) :
    (readDocument host name).run = match documentText host name with
      | .error cause => .error (.unreadableDocument (if name = "-" then "stdin" else name) cause)
      | .ok text => (Document.read text).mapError .document := by
  rw [readDocument, documentText]
  by_cases isInput : name = "-"
  · simp only [isInput, if_true, Id.run_bind, pure_bind]
    cases host.readInputText.run <;> rfl
  · simp only [isInput, if_false, Id.run_bind, pure_bind]
    cases (host.readText name).run <;> rfl

/-- The filter for a command, or why there is none. -/
def filterFor (host : Host Id) (command : Command) : Except Failure (Option Expression) :=
  match documentOf command with
  | some name => (readDocument host name).run
  | none => .ok none

theorem gives_of_filterFor (h : filterFor host command = .ok filter) :
    Gives host command filter := by
  unfold filterFor at h
  split at h
  · next name named =>
    rw [readDocument_eq] at h
    split at h
    · cases h
    · next text read => exact .document named read (mapError_eq_ok.mp h)
  · next missing =>
    cases h
    exact .noDocument missing

theorem filterFor_of_gives (gives : Gives host command filter) :
    filterFor host command = .ok filter := by
  cases gives with
  | document named read parsed =>
    simp only [filterFor, named, readDocument_eq, read, parsed]
    rfl
  | noDocument missing => simp only [filterFor, missing]

/-- The document fails before there is anything to write. -/
theorem filterFor_ne_clause {cause : Failure} (h : filterFor host command = .error cause)
    (err : ClauseError) : cause ≠ .clause err := by
  rintro rfl
  unfold filterFor at h
  split at h
  · rw [readDocument_eq] at h
    split at h
    · cases h
    · next text _ => cases parsed : Document.read text <;> rw [parsed] at h <;> cases h
  · cases h

/-- The stages behind the words. -/
theorem answer_eq (host : Host Id) (forced : Bool) (request : Arguments.Request) :
    (answer host forced request).run = match (loadSettings host request.settings).run with
      | .error cause => ⟨"", "", .failed cause forced⟩
      | .ok settings => match filterFor host request.command with
        | .error cause => ⟨"", "", .failed cause (forced && settings.color)⟩
        | .ok filter =>
          report settings.depthLimit (forced && settings.color) filter request.command := by
  simp only [answer, filterFor, Id.run_bind]
  cases (loadSettings host request.settings).run with
  | error cause => rfl
  | ok settings =>
    cases documentOf request.command with
    | none => rfl
    | some name =>
      -- a failure to read it is in color only as far as the settings allow
      simp only [Id.run_bind]
      cases (readDocument host name).run <;> rfl

/-- **Every run takes its course.** -/
theorem run_course (host : Host Id) (words : List String) :
    Course host words (run host words).run := by
  simp only [run, Id.run_bind]
  split
  · exact .told versionText
  · exact .told helpText
  · exact .misused
  · next request parsed =>
    rw [Id.run_bind, answer_eq]
    cases loaded : (loadSettings host request.settings).run with
    | error cause => exact .stopped _ (loadSettings_ne_clause loaded)
    | ok settings =>
      -- the settings decide from here on whether the run is in color
      cases given : filterFor host request.command with
      | error cause => exact .stopped _ (filterFor_ne_clause given)
      | ok filter =>
        exact .answered (.intro request.settings parsed loaded) (gives_of_filterFor given)

/-- A run that gets as far as its command reports what the command does. -/
theorem run_answered (asks : Asks host words command settings) (gives : Gives host command filter) :
    (run host words).run
      = report settings.depthLimit (isColored host settings) filter command := by
  obtain ⟨named, parsed, loaded⟩ := asks
  simp only [run, Id.run_bind, parsed]
  rw [answer_eq, loaded, filterFor_of_gives gives]
  rfl

/-! ### Reports -/

/-- **How a command reports** on a filter: it succeeds, or the filter has no clause, and then that
is the failure, and there is nothing in the output but the tree of an explanation. -/
inductive Outcome (limit : Nat) (colored : Bool) (filter : Option Expression) (command : Command) :
    Report → Prop where
  | succeeded {r : Report} : r.ending = .success →
    (documentOf command ≠ none → ∀ e, filter = some e → ∃ clause, e.toClause limit = .ok clause) →
    Outcome limit colored filter command r
  | refused {e : Expression} {err : ClauseError} {output : String} :
    documentOf command ≠ none → filter = some e → e.toClause limit = .error err →
    (output = "" ∨ (∃ name, command = .explain name) ∧ output = explainTree colored e) →
    Outcome limit colored filter command ⟨output, "", .failed (.clause err) colored⟩

theorem report_outcome (limit : Nat) (colored : Bool) (filter : Option Expression)
    (command : Command) :
    Outcome limit colored filter command (report limit colored filter command) := by
  cases command with
  | compile input =>
    cases filter with
    | none => exact .succeeded rfl (by simp)
    | some e =>
      rw [report, compile]
      cases compiled : e.toClause limit with
      | ok clause => exact .succeeded rfl (by simp [compiled])
      | error err => exact .refused (by simp [documentOf]) rfl compiled (.inl rfl)
  | explain input =>
    cases filter with
    | none => exact .succeeded rfl (by simp)
    | some e =>
      rw [report, explain]
      cases compiled : e.toClause limit with
      | ok clause => exact .succeeded rfl (by simp [compiled])
      | error err =>
        -- the tree is in the output before the clause is asked for
        exact .refused (by simp [documentOf]) rfl compiled (.inr ⟨⟨input, rfl⟩, rfl⟩)
  | select table input columns order descending rows offset =>
    rw [report]
    cases written : (statement table columns filter order descending rows offset).toSql limit with
    | ok text =>
      -- the statement has its text exactly if the condition has one
      exact .succeeded rfl fun _ => Select.exists_toSql_iff.mp ⟨text, written⟩
    | error err =>
      obtain ⟨e, given, compiled⟩ := Select.toSql_eq_error_iff.mp written
      exact .refused (by simp [documentOf]) given compiled (.inl rfl)
  | sanitize text => exact .succeeded rfl fun isDocument => absurd rfl isDocument

/-- **A run succeeds** exactly if its filter has the shape that a clause needs, and is not nested
deeper than its settings allow. -/
theorem status_eq_zero_iff (asks : Asks host words command settings)
    (gives : Gives host command filter) :
    (run host words).run.status = 0
      ↔ ∀ e, filter = some e → e.isWritable ∧ e.need ≤ settings.depthLimit := by
  simp only [run_answered asks gives, ← Expression.hasClause_iff]
  have outcome := report_outcome settings.depthLimit (isColored host settings) filter command
  -- from here on only the shape of the report matters
  generalize report settings.depthLimit (isColored host settings) filter command = r at outcome ⊢
  cases outcome with
  | succeeded success clauses =>
    refine iff_of_true (by rw [Report.status, success]) ?_
    cases gives with
    | document isDocument => exact clauses (by simp [isDocument])
    | noDocument => simp
  | refused _ given refused =>
    refine iff_of_false (by simp [Report.status]) fun clauses => ?_
    obtain ⟨clause, compiled⟩ := clauses _ given
    rw [refused] at compiled
    cases compiled

/-- The output of a report that succeeded is known. -/
theorem reportLine_eq_success_iff {colored : Bool} {text : Except ClauseError String}
    {line : String} :
    reportLine colored "" text = .success (line ++ "\n") ↔ text = .ok line := by
  cases text with
  | error cause => simp [reportLine, Report.success]
  | ok written => simp [reportLine, Report.success]

/-- **What `compile` prints** is the clause and nothing else. -/
theorem run_compile_iff {name clause : String} {e : Expression}
    (asks : Asks host words (.compile name) settings)
    (gives : Gives host (.compile name) (some e)) :
    (run host words).run = .success (clause ++ "\n")
      ↔ e.toClause settings.depthLimit = .ok clause := by
  rw [run_answered asks gives]
  exact reportLine_eq_success_iff

/-- **What `select` prints** is the statement and nothing else. -/
theorem run_select_iff {table name text : String} {columns : List String} {order : Option String}
    {descending : Bool} {limit offset : Option Nat}
    (asks : Asks host words (.select table name columns order descending limit offset) settings)
    (gives : Gives host (.select table name columns order descending limit offset) filter) :
    (run host words).run = .success (text ++ "\n")
      ↔ (statement table columns filter order descending limit offset).toSql settings.depthLimit
        = .ok text := by
  rw [run_answered asks gives]
  exact reportLine_eq_success_iff

/-! ### What is not printed -/

/-- **A run that fails prints no clause.** Either nothing is printed, or it is an explanation of an
expression that has no clause, and this shows the tree. -/
theorem output_of_failure (failed : (run host words).run.status ≠ 0) :
    (run host words).run.output = "" ∨
      ∃ name settings e cause, Asks host words (.explain name) settings ∧
        Gives host (.explain name) (some e) ∧ e.toClause settings.depthLimit = .error cause ∧
        (run host words).run.output = explainTree (isColored host settings) e := by
  have course := run_course host words
  generalize (run host words).run = r at course failed ⊢
  cases course with
  | told text => exact absurd rfl failed
  -- a command line that makes no command is answered on the error output
  | misused | stopped => exact .inl rfl
  | @answered command settings filter asks gives =>
    have outcome := report_outcome settings.depthLimit (isColored host settings) filter command
    generalize report settings.depthLimit (isColored host settings) filter command = r
      at outcome failed ⊢
    cases outcome with
    | succeeded success => exact absurd (by rw [Report.status, success]) failed
    | refused _ given refused output =>
      subst given
      -- of the commands that fail for want of a clause, `explain` alone has begun to print
      rcases output with nothing | ⟨⟨name, rfl⟩, shown⟩
      · exact .inl nothing
      · exact .inr ⟨name, settings, _, _, asks, gives, refused, shown⟩

/-! ### Single lines -/

/-- The commands that print a line for other programs to read. -/
def writesLine : Command → Bool
  | .compile _ | .select .. => true
  | .explain _ | .sanitize _ => false

theorem exists_of_output_reportLine (colored : Bool) (text : Except ClauseError String) :
    (reportLine colored "" text).output = "" ∨
      ∃ line, text = .ok line ∧ (reportLine colored "" text).output = line ++ "\n" := by
  cases text with
  | error cause => exact .inl rfl
  | ok line => exact .inr ⟨line, rfl, by simp [reportLine, Report.success]⟩

/-- **Nothing leaks out of the line that is printed**: it holds no line break and no other control
character but the one at its end, no bracket of a comment, and no literal that is left open. -/
theorem output_isContained (oneLine : writesLine command) (limit : Nat) (colored : Bool)
    (filter : Option Expression) :
    (report limit colored filter command).output = "" ∨
      ∃ line, (report limit colored filter command).output = line ++ "\n" ∧
        Sql.IsContained line.toList := by
  cases command with
  | compile input =>
    cases filter with
    | none => exact .inl rfl
    | some e =>
      rcases exists_of_output_reportLine colored (e.toClause limit)
        with nothing | ⟨line, compiled, printed⟩
      · exact .inl nothing
      · refine .inr ⟨line, printed, ?_⟩
        -- the text of a clause is that of its pieces, and these are tidy
        rw [(Expression.toClause_ok compiled).2]
        exact (Sql.isTidy_expression e).isContained
  | select table input columns order descending rows offset =>
    rcases exists_of_output_reportLine colored
      ((statement table columns filter order descending rows offset).toSql limit)
      with nothing | ⟨line, written, printed⟩
    · exact .inl nothing
    · refine .inr ⟨line, printed, ?_⟩
      rw [Select.toSql_ok written]
      exact (Select.isTidy_pieces _).isContained
  | explain | sanitize => cases oneLine

/-! ### The limit of depth -/

/-- What a document gives is not nested deeper than any settings from 63 on allow. -/
theorem Gives.need_le {e : Expression} (gives : Gives host command (some e)) : e.need ≤ 63 := by
  cases gives with
  | document _ _ parsed => exact Document.need_le_sixtyThree parsed

/-- **From 63 on the limit does not matter**: no run fails for depth, -/
theorem ending_ne_depthExceeded
    (enough : ∀ command settings, Asks host words command settings → 63 ≤ settings.depthLimit)
    (n : Nat) (colored : Bool) :
    (run host words).run.ending ≠ .failed (.clause (.depthExceeded n)) colored := by
  have course := run_course host words
  generalize (run host words).run = r at course ⊢
  rintro deep
  cases course with
  | told | misused => cases deep
  -- the settings and the document fail for causes of their own
  | stopped _ noClause =>
    cases deep
    exact noClause _ rfl
  | @answered command settings filter asks gives =>
    have outcome := report_outcome settings.depthLimit (isColored host settings) filter command
    generalize report settings.depthLimit (isColored host settings) filter command = r
      at outcome deep
    cases outcome with
    | succeeded success =>
      rw [success] at deep
      cases deep
    | refused _ given refused =>
      cases deep
      subst given
      have within := gives.need_le.trans (enough command settings asks)
      exact Expression.toClause_ne_depthExceeded within n refused

/-- and the same is reported under any two of these limits. -/
theorem report_congr (gives : Gives host command filter) {limit limit' : Nat} (enough : 63 ≤ limit)
    (enough' : 63 ≤ limit') (colored : Bool) :
    report limit colored filter command = report limit' colored filter command := by
  have same : ∀ e, filter = some e → e.toClause limit = e.toClause limit' := by
    rintro e rfl
    -- at 63 the answer is settled already, and both limits are beyond it
    have settled : ¬ Clause.IsTooDeep (e.toClause 63) :=
      Clause.not_isTooDeep_iff.mpr (Expression.toClause_ne_depthExceeded gives.need_le)
    rw [Expression.toClause_of_le enough settled, Expression.toClause_of_le enough' settled]
  cases filter with
  | none => rfl
  | some e =>
    have whereText : Select.whereText limit (some e) = Select.whereText limit' (some e) := by
      rw [Select.whereText, same e rfl, Select.whereText]
    cases command with
    -- the texts are compared only as far as they go through the clause
    | compile => rw [report, compile, same e rfl, report, compile]
    | explain => rw [report, explain, same e rfl, report, explain]
    | select => rw [report, Select.toSql, statement, whereText, report, Select.toSql, statement]
    | sanitize => rfl

/-! ### Settings and words -/

/-- A settings file that is there is followed. -/
theorem loadSettings_text {path : String} {s : Settings}
    (file : (host.readText path).run = .ok s.text)
    (fits : (s.depthLimit : Int) ≤ Int64.maxValue.toInt) :
    (loadSettings host (some path)).run = .ok s := by
  have read := s.read?_text
  rw [if_pos fits] at read
  simp only [loadSettings, settingsFile, Id.run_bind, pure_bind, Id.run_pure, file, read]

/-- **The verbosity changes nothing**, on any host. -/
theorem run_verbosity {m : Type → Type} [Monad m] (host : Host m) {word : String}
    (raises : Arguments.RaisesVerbosity word) (words : List String) :
    run host (word :: words) = run host words := by
  simp only [run, Arguments.parse_verbosity raises]

/-- **A document compiled with settings**, both named on the command line. -/
theorem run_compile_with_settings {path name text clause : String} {s : Settings} {e : Expression}
    (fallback : (host.environment "SIEVE_CONFIG").run ≠ some "")
    (isPath : Arguments.isValue path) (named : path ≠ "")
    (file : (host.readText path).run = .ok s.text)
    (fits : (s.depthLimit : Int) ≤ Int64.maxValue.toInt)
    (document : documentText host name = .ok text) (parsed : Document.read text = .ok (some e)) :
    (run host ["-c", path, "compile", "--", name]).run = .success (clause ++ "\n")
      ↔ e.toClause s.depthLimit = .ok clause := by
  -- the settings file stands before the command, and the document behind `--`
  have asked := (Arguments.parse_name_stop (show "compile" ∈ _ by decide) fallback [name]).2 path
    isPath named
  have asks : Asks host ["-c", path, "compile", "--", name] (.compile name) s :=
    .intro (some path) asked (loadSettings_text file fits)
  exact run_compile_iff asks (.document rfl document parsed)

/-! ### Written files -/

/-- The octets of a text are decoded as the text. -/
theorem decodeText_toUTF8 (text : String) : decodeText (.ok text.toUTF8) = .ok text := by
  have decoded : String.fromUTF8? text.toUTF8 = some text := dif_pos text.isValidUTF8
  simp only [decodeText, ok_bind, decoded]

theorem readText_of_written {path text : String}
    (written : (host.readFile path).run = .ok text.toUTF8) :
    (host.readText path).run = .ok text := by
  simp only [Host.readText, Id.run_bind, Id.run_pure, written, decodeText_toUTF8]

/-- **From files to the clause.** Settings and an expression that were written to two files are
found there by a run that compiles: it prints the clause of the expression under the limit of the
settings, and succeeds only if there is one. -/
theorem run_compile_written {path name clause : String} {s : Settings} {e : Expression}
    (fallback : (host.environment "SIEVE_CONFIG").run ≠ some "")
    (isPath : Arguments.isValue path) (named : path ≠ "") (isFile : name ≠ "-")
    (settingsWritten : (host.readFile path).run = .ok s.text.toUTF8)
    (documentWritten : (host.readFile name).run = .ok e.toJson.toText.toUTF8)
    (fits : (s.depthLimit : Int) ≤ Int64.maxValue.toInt)
    (noFloat : ∀ v ∈ e.scalars, v.kind ≠ .float) (levels : e.nesting ≤ 127) :
    (run host ["-c", path, "compile", "--", name]).run = .success (clause ++ "\n")
      ↔ e.toClause s.depthLimit = .ok clause := by
  have document : documentText host name = .ok e.toJson.toText := by
    rw [documentText, if_neg isFile]
    exact readText_of_written documentWritten
  exact run_compile_with_settings fallback isPath named (readText_of_written settingsWritten) fits
    document (Document.read_toText_eq_ok noFloat levels)

/-- A null test within another one, in a file that is called like an option. Its depth is just
what the settings allow. -/
theorem run_compile_written_of_null_tests :
    let e := Expression.unary (.nested (.isNull "a")) .isNotNull
    let s : Settings := ⟨2, true⟩
    let host : Host Id := {
      readFile := fun path => .ok (if path = "s" then s.text else e.toJson.toText).toUTF8
      readInput := .error .notFound
      pathExists := fun _ => true
      environment := fun _ => none }
    (run host ["-c", "s", "compile", "--", "--help"]).run
      = .success ("((a  IS NULL)  IS NOT NULL)" ++ "\n") := by
  intro e s host
  have noFallback : (host.environment "SIEVE_CONFIG").run ≠ some "" := (Option.some_ne_none "").symm
  have compiled : e.toClause s.depthLimit = .ok "((a  IS NULL)  IS NOT NULL)" := by decide
  exact (run_compile_written noFallback (by decide) (by decide) (by decide) rfl rfl (by decide)
    (by decide) (by decide)).mpr compiled

end CommandLine

end SqlFilter
