import SqlFilter.CommandLine.Arguments
import SqlFilter.Proofs.Result

/-!
# What the arguments come to

Whatever is read from the words goes through two steps, one for an option with a value and one for
an option without. So a relation of two readings that both steps carry on, and new positional words
too, holds until the last word (`related_readWords`). Two relations are of use:

* A reading is related to itself as long as each option has a value that it accepts. Hence a request
  never names an empty settings file, and its limits have 64 bits (`isValid_of_parse`).
* Two readings are alike up to their verbosity. Nothing looks at the verbosity, so a word that
  raises it can be left out, before the command (`parse_verbosity`) and behind it
  (`parse_name_verbosity`).

Behind `--` every word stands for itself, even one that looks like an option (`parse_name_stop`).
-/

namespace SqlFilter

namespace Arguments

/-! ### Two readings side by side -/

/-- The same error twice, or two values that are related. -/
inductive Related {α β : Type} (R : α → β → Prop) : Except Usage α → Except Usage β → Prop where
  | error (usage : Usage) : Related R (.error usage) (.error usage)
  | ok {a : α} {b : β} : R a b → Related R (.ok a) (.ok b)

theorem Related.bind {α β γ δ : Type} {R : α → β → Prop} {S : γ → δ → Prop} {x : Except Usage α}
    {y : Except Usage β} {f : α → Except Usage γ} {g : β → Except Usage δ} (h : Related R x y)
    (next : ∀ a b, R a b → Related S (f a) (g b)) : Related S (x >>= f) (y >>= g) := by
  cases h with
  | error usage => exact .error usage
  | ok h => exact next _ _ h

/-- What makes nothing of the difference between related values gives the same. -/
theorem Related.bind_eq {α β γ : Type} {R : α → β → Prop} {x : Except Usage α} {y : Except Usage β}
    {f : α → Except Usage γ} {g : β → Except Usage γ} (h : Related R x y)
    (next : ∀ a b, R a b → f a = g b) : (x >>= f) = (y >>= g) := by
  cases h with
  | error usage => rfl
  | ok h => exact next _ _ h

/-- A relation of readings that every step carries on. -/
structure IsCarried (R : Seen → Seen → Prop) : Prop where
  addValue {s t : Seen} (name : Name) (value : String) :
    R s t → Related R (s.addValue name value) (t.addValue name value)
  addFlag {s t : Seen} (name : Name) : R s t → Related R (s.addFlag name) (t.addFlag name)
  addWords {s t : Seen} (words : List String) :
    R s t → R { s with words := words ++ s.words } { t with words := words ++ t.words }
  words {s t : Seen} : R s t → s.words = t.words

section

variable {R : Seen → Seen → Prop}

theorem related_readLetters (carried : IsCarried R) (place : Place) {s t : Seen} (h : R s t)
    (letters : List Char) :
    Related (fun x y => R x.1 y.1 ∧ x.2 = y.2) (readLetters place s letters)
      (readLetters place t letters) := by
  induction letters generalizing s t with
  | nil => exact .ok ⟨h, rfl⟩
  | cons letter rest ih =>
    rw [readLetters, readLetters]
    cases short? place letter with
    | none => exact .error .misuse
    | some name =>
      by_cases takes : name.takesValue
      · -- what is left of the word is the value, with or without an equality sign
        simp only [takes, if_true]
        split
        · exact .ok ⟨h, rfl⟩
        · exact (carried.addValue name _ h).bind fun _ _ h => .ok ⟨h, rfl⟩
        · exact (carried.addValue name _ h).bind fun _ _ h => .ok ⟨h, rfl⟩
      · simp only [takes, Bool.false_eq_true, if_false]
        exact (carried.addFlag name h).bind fun _ _ h => ih h

theorem related_readLong (carried : IsCarried R) (place : Place) {s t : Seen} (h : R s t)
    (name : String) (value : Option String) :
    Related (fun x y => R x.1 y.1 ∧ x.2 = y.2) (readLong place s name value)
      (readLong place t name value) := by
  unfold readLong
  cases long? place name with
  | none => exact .error .misuse
  | some name =>
    -- an option has its value, waits for it, needs none, or has one that it cannot take
    dsimp only
    split
    · exact (carried.addValue name _ h).bind fun _ _ h => .ok ⟨h, rfl⟩
    · exact .ok ⟨h, rfl⟩
    · exact (carried.addFlag name h).bind fun _ _ h => .ok ⟨h, rfl⟩
    · exact .error .misuse

/-- **Until the last word** two readings stay related, and leave the same words over. -/
theorem related_readWords (carried : IsCarried R) (place : Place) (waiting : Option Name)
    {s t : Seen} (h : R s t) (words : List String) :
    Related (fun x y => R x.1 y.1 ∧ x.2 = y.2) (readWords place waiting s words)
      (readWords place waiting t words) := by
  induction words generalizing waiting s t with
  | nil =>
    cases waiting with
    | none => exact .ok ⟨h, rfl⟩
    | some name => exact .error .misuse
  | cons word rest ih =>
    rw [readWords.eq_def, readWords.eq_def place waiting t]
    cases waiting with
    -- an option that waits takes the next word, unless this looks like an option itself
    | some name =>
      by_cases isValue : isValue word
      · simp only [isValue, if_true]
        exact (carried.addValue name word h).bind fun _ _ h => ih none h
      · simp only [isValue, Bool.false_eq_true, if_false]
        exact .error .misuse
    | none =>
      dsimp only
      cases classify word with
      | stop =>
        -- before the command this is a misuse, and behind it the rest of the words is positional
        cases place with
        | program => exact .error .misuse
        | command isSelect => exact .ok ⟨carried.addWords rest.reverse h, rfl⟩
      | long name value =>
        refine (related_readLong carried place h name value).bind ?_
        rintro ⟨s, waiting⟩ ⟨t, _⟩ ⟨h, rfl⟩
        exact ih waiting h
      | short letters =>
        refine (related_readLetters carried place h letters).bind ?_
        rintro ⟨s, waiting⟩ ⟨t, _⟩ ⟨h, rfl⟩
        exact ih waiting h
      | positional =>
        cases place with
        | program => exact .ok ⟨h, rfl⟩
        | command isSelect =>
          -- how many words there may be depends on those that are there, and these are the same
          have room : s.words.length = t.words.length := congrArg _ (carried.words h)
          dsimp only
          rw [room]
          split
          · exact ih none (carried.addWords [word] h)
          · exact .error .misuse

end

/-! ### Accepted values -/

/-- Every option has a value that it accepts. -/
def Seen.IsValid (s : Seen) : Prop := ∀ option ∈ s.values, accepts option.1 option.2

theorem isCarried_isValid : IsCarried fun s t => s = t ∧ s.IsValid where
  addValue {s t} name value h := by
    obtain ⟨rfl, valid⟩ := h
    rw [Seen.addValue]
    -- a value is refused for itself, or for an earlier one of the same option
    split
    · exact .error .misuse
    · next accepted =>
      split
      · exact .error .misuse
      · refine .ok ⟨rfl, List.forall_mem_cons.mpr ⟨?_, valid⟩⟩
        simpa using accepted
  addFlag {s t} name h := by
    obtain ⟨rfl, valid⟩ := h
    unfold Seen.addFlag
    -- the help and the version end the reading, and the direction may be given once only
    split
    · exact .error .help
    · exact .error .version
    · split
      · exact .error .misuse
      · exact .ok ⟨rfl, valid⟩
  addWords words h := ⟨by rw [h.1], h.2⟩
  words h := by rw [h.1]

/-- All options that are read have values that they accept. -/
theorem isValid_of_readWords {place : Place} {words rest : List String} {s : Seen}
    (h : readWords place none ⟨[], [], []⟩ words = .ok (s, rest)) : s.IsValid := by
  have start : Seen.IsValid ⟨[], [], []⟩ := fun _ mem => absurd mem List.not_mem_nil
  have related := related_readWords isCarried_isValid place none ⟨rfl, start⟩ words
  -- the first reading is the one in hand, and it is related to itself
  rw [h] at related
  cases related with
  | ok same => exact same.1.2

theorem mem_of_lookup {values : List (Name × String)} {name : Name} {value : String}
    (h : values.lookup name = some value) : (name, value) ∈ values := by
  obtain ⟨before, after, rfl, -⟩ := List.lookup_eq_some_iff.mp h
  simp

theorem Seen.IsValid.config_ne_empty {s : Seen} (valid : s.IsValid) :
    s.value? .config ≠ some "" := by
  intro empty
  have accepted := valid _ (mem_of_lookup empty)
  simp [accepts] at accepted

/-- A number has 64 bits. -/
theorem lt_size_of_number? {text : String} {n : Nat} (h : number? text = some n) :
    n < UInt64.size := by
  unfold number? at h
  simp only [Option.ite_none_left_eq_some, Option.ite_none_right_eq_some] at h
  obtain ⟨-, fits, h⟩ := h
  cases h
  exact fits

theorem Seen.lt_size_of_number? {s : Seen} {name : Name} {n : Nat}
    (h : s.number? name = some n) : n < UInt64.size := by
  obtain ⟨text, -, h⟩ := Option.bind_eq_some_iff.mp h
  exact Arguments.lt_size_of_number? h

/-! ### The whole line -/

/-- The name of a command ends what stands before it. -/
theorem readWords_name {name : String} (isName : name ∈ commandNames) (s : Seen)
    (words : List String) : readWords .program none s (name :: words) = .ok (s, name :: words) := by
  have positional : classify name = .positional := by
    simp only [commandNames, List.mem_cons, List.not_mem_nil, or_false] at isName
    rcases isName with rfl | rfl | rfl | rfl <;> rfl
  rw [readWords.eq_def]
  simp only [positional]

/-- What stands before and behind the name of a command is put together. -/
theorem parse_of_front {words rest : List String} {before : Seen} {name : String}
    (front : readWords .program none ⟨[], [], []⟩ words = .ok (before, name :: rest))
    (isName : name ∈ commandNames) (fallback : Option String) :
    parse fallback words = (do
      let (behind, _) ← readWords (.command (name = "select")) none ⟨[], [], []⟩ rest
      let settings ← settingsPath (before.value? .config) (behind.value? .config) fallback
      let command ← command name behind
      .ok ⟨settings, command⟩) := by
  have notHelp : name ≠ "help" := by
    rintro rfl
    exact absurd isName (by decide)
  rw [parse, front]
  simp [notHelp, isName]

/-- What a request holds to. -/
structure Request.IsValid (r : Request) : Prop where
  /-- A settings file has a name. -/
  named : r.settings ≠ some ""
  /-- A statement is ordered downwards only if it is ordered, and its limits have 64 bits. -/
  select : ∀ table input columns order descending limit offset,
    r.command = .select table input columns order descending limit offset →
      (descending → order.isSome) ∧ (∀ n, limit = some n → n < UInt64.size) ∧
        ∀ n, offset = some n → n < UInt64.size

theorem settingsPath_ne_empty {before behind fallback path : Option String}
    (hbefore : before ≠ some "") (hbehind : behind ≠ some "")
    (h : settingsPath before behind fallback = .ok path) : path ≠ some "" := by
  rw [settingsPath] at h
  split at h
  · cases h
  · next looked =>
    cases h
    -- the path of the environment is used only where no other is named
    cases before <;> cases behind <;> simp_all

theorem command_select {name : String} {s : Seen} {table input : String} {columns : List String}
    {order : Option String} {descending : Bool} {limit offset : Option Nat}
    (h : command name s = .ok (.select table input columns order descending limit offset)) :
    (descending → order.isSome) ∧ limit = s.number? .limit ∧ offset = s.number? .offset := by
  unfold command at h
  split at h
  · cases h
  · cases h
  · cases h
  · dsimp only at h
    split at h
    · cases h
    · next ordered =>
      cases h
      refine ⟨fun descending => ?_, rfl, rfl⟩
      rw [descending, Bool.true_and, Option.isNone_iff_eq_none] at ordered
      exact Option.isSome_iff_ne_none.mpr ordered
  · cases h

/-- **Every request is in order.** -/
theorem isValid_of_parse {fallback : Option String} {words : List String} {request : Request}
    (h : parse fallback words = .ok request) : request.IsValid := by
  -- the ways out are the help, the version, a misuse, and the one that makes a request
  obtain ⟨⟨before, rest⟩, front, h⟩ := bind_eq_ok.mp h
  dsimp only at h
  split at h
  · cases h
  · split at h
    · split at h
      · cases h
      · split at h <;> cases h
      · cases h
    · split at h
      · cases h
      · obtain ⟨⟨behind, _⟩, back, h⟩ := bind_eq_ok.mp h
        obtain ⟨settings, path, h⟩ := bind_eq_ok.mp h
        obtain ⟨command, named, h⟩ := bind_eq_ok.mp h
        cases h
        refine ⟨settingsPath_ne_empty (isValid_of_readWords front).config_ne_empty
          (isValid_of_readWords back).config_ne_empty path, ?_⟩
        rintro table input columns order descending limit offset rfl
        obtain ⟨ordered, rfl, rfl⟩ := command_select named
        exact ⟨ordered, fun _ => Seen.lt_size_of_number?, fun _ => Seen.lt_size_of_number?⟩

/-! ### Verbosity -/

/-- Two readings that differ in their verbosity at most. -/
structure Seen.IsAlike (s t : Seen) : Prop where
  values : s.values = t.values
  words : s.words = t.words
  flags : ∀ name, name ≠ .verbose → s.flags.contains name = t.flags.contains name

theorem Seen.IsAlike.value?_eq {s t : Seen} (h : s.IsAlike t) (option : Name) :
    s.value? option = t.value? option := by
  rw [Seen.value?, h.values, Seen.value?]

/-- A command does not look at the verbosity. -/
theorem Seen.IsAlike.command_eq {s t : Seen} (h : s.IsAlike t) (name : String) :
    command name s = command name t := by
  have numbers (option : Name) : s.number? option = t.number? option := by
    rw [Seen.number?, h.value?_eq, Seen.number?]
  have columns : s.columns = t.columns := by rw [Seen.columns, h.values, Seen.columns]
  unfold command
  -- of the flags only the direction is looked at
  simp only [h.words, h.flags .descending (by decide), h.value?_eq, numbers, columns]

theorem isCarried_isAlike : IsCarried Seen.IsAlike where
  addValue {s t} name value h := by
    rw [Seen.addValue, Seen.addValue, Seen.value?, Seen.value?, h.values]
    split
    · exact .error .misuse
    · split
      · exact .error .misuse
      · exact .ok ⟨rfl, h.words, h.flags⟩
  addFlag {s t} name h := by
    unfold Seen.addFlag
    split
    · exact .error .help
    · exact .error .version
    · -- only the direction must not be given twice, so the verbosity does not decide this either
      have same : (name = .descending && s.flags.contains name)
          = (name = .descending && t.flags.contains name) := by
        by_cases isDescending : name = .descending
        · rw [h.flags name (by rw [isDescending]; decide)]
        · simp only [isDescending, decide_false, Bool.false_and]
      rw [same]
      split
      · exact .error .misuse
      · refine .ok ⟨h.values, h.words, fun other notVerbose => ?_⟩
        simp only [List.contains_cons, h.flags other notVerbose]
  addWords words h := ⟨h.values, by rw [h.words], h.flags⟩
  words h := h.words

/-- Words that raise the verbosity and do nothing else. -/
inductive RaisesVerbosity (word : String) : Prop where
  | long : classify word = .long "verbose" none → RaisesVerbosity word
  | short (more : Nat) :
    classify word = .short (List.replicate (more + 1) 'v') → RaisesVerbosity word

theorem exists_readLetters_verbose (place : Place) (s : Seen) (count : Nat) :
    ∃ t, readLetters place s (List.replicate count 'v') = .ok (t, none) ∧ t.IsAlike s := by
  induction count generalizing s with
  | zero => exact ⟨s, rfl, rfl, rfl, fun _ _ => rfl⟩
  | succ count ih =>
    obtain ⟨t, read, alike⟩ := ih { s with flags := .verbose :: s.flags }
    -- the first letter puts one more flag in front, which differs from any other name
    refine ⟨t, ?_, alike.values, alike.words, fun name notVerbose => ?_⟩
    · rw [List.replicate_succ, readLetters]
      exact read
    · rw [alike.flags name notVerbose, List.contains_cons]
      simp [notVerbose]

/-- **A word that raises the verbosity** leaves the reading as it was, up to the verbosity. -/
theorem related_readWords_verbosity {word : String} (raises : RaisesVerbosity word) (place : Place)
    (s : Seen) (words : List String) :
    Related (fun x y => x.1.IsAlike y.1 ∧ x.2 = y.2) (readWords place none s (word :: words))
      (readWords place none s words) := by
  -- the word alone takes the reading to one that is alike, and the rest carries that on
  obtain ⟨t, read, alike⟩ : ∃ t, readWords place none s (word :: words)
      = readWords place none t words ∧ t.IsAlike s := by
    rw [readWords.eq_def]
    dsimp only
    cases raises with
    | long long =>
      refine ⟨{ s with flags := .verbose :: s.flags }, ?_, rfl, rfl, fun name notVerbose => ?_⟩
      · rw [long]
        cases place <;> rfl
      · rw [List.contains_cons]
        simp [notVerbose]
    | short more short =>
      obtain ⟨t, read, alike⟩ := exists_readLetters_verbose place s (more + 1)
      refine ⟨t, ?_, alike⟩
      rw [short]
      dsimp only
      rw [read]
      rfl
  rw [read]
  exact related_readWords isCarried_isAlike place none alike words

/-- **The verbosity does not matter** before the command, -/
theorem parse_verbosity {word : String} (raises : RaisesVerbosity word) (fallback : Option String)
    (words : List String) : parse fallback (word :: words) = parse fallback words := by
  refine (related_readWords_verbosity raises .program ⟨[], [], []⟩ words).bind_eq ?_
  rintro ⟨s, rest⟩ ⟨t, _⟩ ⟨alike, rfl⟩
  -- of what stands before the command only the settings file is looked at
  dsimp only
  rw [alike.value?_eq]

/-- and it does not matter behind it. -/
theorem parse_name_verbosity {name word : String} (isName : name ∈ commandNames)
    (raises : RaisesVerbosity word) (fallback : Option String) (words : List String) :
    parse fallback (name :: word :: words) = parse fallback (name :: words) := by
  rw [parse_of_front (readWords_name isName _ _) isName,
    parse_of_front (readWords_name isName _ _) isName]
  refine (related_readWords_verbosity raises (.command (name = "select")) ⟨[], [], []⟩
    words).bind_eq ?_
  rintro ⟨s, rest⟩ ⟨t, _⟩ ⟨alike, rfl⟩
  dsimp only
  rw [alike.value?_eq, alike.command_eq]

/-! ### Words that stand for themselves -/

theorem readWords_stop (isSelect : Bool) (s : Seen) (words : List String) :
    readWords (.command isSelect) none s ("--" :: words)
      = .ok ({ s with words := words.reverse ++ s.words }, []) := by
  have stop : classify "--" = .stop := rfl
  rw [readWords.eq_def]
  simp only [stop]

/-- A settings file before the command. -/
theorem readWords_config {path : String} (isPath : isValue path) (named : path ≠ "")
    (words : List String) :
    readWords .program none ⟨[], [], []⟩ ("-c" :: path :: words)
      = readWords .program none ⟨[(.config, path)], [], []⟩ words := by
  have option : classify "-c" = .short ['c'] := rfl
  have accepted : Seen.addValue ⟨[], [], []⟩ .config path = .ok ⟨[(.config, path)], [], []⟩ := by
    simp [Seen.addValue, accepts, named, Seen.value?]
  rw [readWords.eq_def]
  simp only [option, readLetters, short?, Name.takesValue, if_true, ok_bind]
  -- the letter takes the next word for its value
  rw [readWords.eq_def]
  simp only [isPath, if_true, accepted, ok_bind]

/-- **Behind `--`** every word stands for itself, with or without a settings file before the
command. -/
theorem parse_name_stop {name : String} (isName : name ∈ commandNames) {fallback : Option String}
    (looked : fallback ≠ some "") (words : List String) :
    parse fallback (name :: "--" :: words)
        = (command name ⟨[], [], words.reverse⟩).map (⟨fallback, ·⟩) ∧
      ∀ path, isValue path → path ≠ "" →
        parse fallback ("-c" :: path :: name :: "--" :: words)
          = (command name ⟨[], [], words.reverse⟩).map (⟨some path, ·⟩) := by
  -- a file that the command line names comes before the one of the environment
  have settings (before : Option String) :
      settingsPath before none fallback = .ok (before.or fallback) := by simp [settingsPath, looked]
  constructor
  · rw [parse_of_front (readWords_name isName _ _) isName, readWords_stop]
    simp only [ok_bind, Seen.value?, List.lookup_nil, List.append_nil, settings]
    cases command name ⟨[], [], words.reverse⟩ <;> rfl
  · intro path isPath named
    have front := (readWords_config isPath named (name :: "--" :: words)).trans
      (readWords_name isName _ _)
    rw [parse_of_front front isName, readWords_stop]
    simp only [ok_bind, Seen.value?, List.lookup_nil, List.append_nil, settings]
    cases command name ⟨[], [], words.reverse⟩ <;> rfl

end Arguments

end SqlFilter
