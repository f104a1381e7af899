import IssueQuery.Proofs.Outcome
import IssueQuery.Proofs.Settings.Kind
import IssueQuery.Settings.File

/-!
# Where settings come from

Each setting has a source of its own.  Its variable in the environment comes before its field in the
file, and what neither has keeps its initial value.  Only the value that is selected has to fit, so
that a value below it never matters, and the failures of all settings are reported together.
-/

namespace IssueQuery

open Outcome

namespace Settings

/-! ## Sources -/

/-- The variable of a setting has the name of the setting in capitals, behind a common prefix. -/
theorem environmentName_eq (x : Setting) : x.environmentName = "TAIGA_" ++ Text.upper x.name := by
  cases x <;> decide +kernel

/-- The variable of a setting is missing or empty. -/
def IsUnset (environment : Environment) (x : Setting) : Prop :=
  ∀ text, environment.lookup ("TAIGA_" ++ Text.upper x.name) = some text → text = ""

/-- The value that is selected for a setting, if there is any. -/
inductive Selected (environment : Environment) (fields : List (String × Value)) (x : Setting) :
    Option Value → Prop where
  | environment {text : String} :
      environment.lookup ("TAIGA_" ++ Text.upper x.name) = some text → text ≠ "" →
      Selected environment fields x (some (.string text))
  | file {v : Value} :
      IsUnset environment x → fields.lookup x.name = some v →
      Selected environment fields x (some v)
  | initial :
      IsUnset environment x → fields.lookup x.name = none → Selected environment fields x none

section Sources

variable {environment : Environment} {fields : List (String × Value)} {x : Setting}

theorem text?_eq_some_iff {text : String} :
    environment.text? x.environmentName = some text ↔
      environment.lookup ("TAIGA_" ++ Text.upper x.name) = some text ∧ text ≠ "" := by
  rw [Environment.text?, environmentName_eq, Option.filter_eq_some_iff]
  simp

theorem isUnset_iff : IsUnset environment x ↔ environment.text? x.environmentName = none := by
  rw [Option.eq_none_iff_forall_ne_some]
  constructor
  · intro hunset text htext
    obtain ⟨hlookup, hne⟩ := text?_eq_some_iff.mp htext
    exact hne (hunset text hlookup)
  · intro hnone text hlookup
    by_contra hne
    exact hnone text (text?_eq_some_iff.mpr ⟨hlookup, hne⟩)

theorem selected_chosen (environment : Environment) (fields : List (String × Value))
    (x : Setting) : Selected environment fields x (chosen environment fields x) := by
  unfold chosen
  cases htext : environment.text? x.environmentName with
  | some text =>
      obtain ⟨hlookup, hne⟩ := text?_eq_some_iff.mp htext
      exact .environment hlookup hne
  | none =>
      have hunset := isUnset_iff.mpr htext
      cases hfield : fields.lookup x.name with
      | some v => exact .file hunset hfield
      | none => exact .initial hunset hfield

/-- Exactly one source is selected, and it is the one that is chosen. -/
theorem selected_iff {v? : Option Value} :
    Selected environment fields x v? ↔ chosen environment fields x = v? := by
  constructor
  · intro h
    unfold chosen
    cases h with
    | environment hlookup hne => rw [text?_eq_some_iff.mpr ⟨hlookup, hne⟩]
    | file hunset hfield => rw [isUnset_iff.mp hunset]; exact hfield
    | initial hunset hfield => rw [isUnset_iff.mp hunset]; exact hfield
  · rintro rfl
    exact selected_chosen environment fields x

/-- What is chosen depends on nothing but the names of the settings. -/
theorem chosen_congr {environment' : Environment} {fields' : List (String × Value)}
    (hvariable : environment'.lookup ("TAIGA_" ++ Text.upper x.name) =
      environment.lookup ("TAIGA_" ++ Text.upper x.name))
    (hfield : fields'.lookup x.name = fields.lookup x.name) :
    chosen environment' fields' x = chosen environment fields x := by
  rw [chosen, chosen, Environment.text?, Environment.text?, environmentName_eq, hvariable, hfield]

end Sources

/-! ## Files -/

/-- The fields that the file with a name provides: those of the whole file, or of the part of it
that is named after the tracker.  A file that says nothing provides none, and neither does a missing
name. -/
inductive Provides (reader : Reader) (files : Files) :
    Option String → List (String × Value) → Prop where
  | unnamed : Provides reader files none []
  | emptyName : Provides reader files (some "") []
  | nothing {name text : String} {v : Value} :
      name ≠ "" → files.lookup name = some text → reader.file text = .ok v → ¬v.isTruthy →
      Provides reader files (some name) []
  | whole {name text : String} {fields : List (String × Value)} :
      name ≠ "" → files.lookup name = some text → reader.file text = .ok (.object fields) →
      fields.lookup "taiga" = none → Provides reader files (some name) fields
  | part {name text : String} {content fields : List (String × Value)} :
      name ≠ "" → files.lookup name = some text → reader.file text = .ok (.object content) →
      content.lookup "taiga" = some (.object fields) → Provides reader files (some name) fields

/-- An empty file provides nothing, whoever reads it. -/
theorem Provides.of_empty {reader : Reader} {files : Files} {name : String} (hname : name ≠ "")
    (hfile : files.lookup name = some "") : Provides reader files (some name) [] :=
  .nothing hname hfile reader.file_empty Bool.false_ne_true

theorem fieldsOf_nothing {v : Value} (h : ¬v.isTruthy) : fieldsOf v = .ok [] := by
  unfold fieldsOf
  rw [if_pos (by simpa using h)]

theorem fieldsOf_whole {fields : List (String × Value)} (h : fields.lookup "taiga" = none) :
    fieldsOf (.object fields) = .ok fields := by
  cases fields with
  | nil => rfl
  | cons field fields => simp [fieldsOf, Value.isTruthy, h]

theorem fieldsOf_part {content fields : List (String × Value)}
    (h : content.lookup "taiga" = some (.object fields)) :
    fieldsOf (.object content) = .ok fields := by
  cases content with
  | nil => cases h
  | cons field content => simp [fieldsOf, Value.isTruthy, h]

theorem readFile_of_file {reader : Reader} {text : String} {v : Value}
    (h : reader.file text = .ok v) : readFile reader text = fieldsOf v := by
  rw [readFile, h]

/-- With the fields that its file provides, loading is choosing. -/
theorem Provides.load_eq {reader : Reader} {files : Files} {name : Option String}
    {fields : List (String × Value)} (h : Provides reader files name fields)
    (environment : Environment) :
    load files environment name reader =
      (choose environment fields reader).mapError .rejected := by
  have hread : ∀ {name text : String}, name ≠ "" → files.lookup name = some text →
      readFile reader text = .ok fields →
      load files environment (some name) reader =
        (choose environment fields reader).mapError .rejected := by
    intro name text hname hfile htext
    have hnamed : (some name).filter (!·.isEmpty) = some name := by simpa using hname
    simp only [load, hnamed, hfile, htext]
    rfl
  cases h with
  | unnamed => rfl
  | emptyName => rfl
  | nothing hname hfile htext hfalsy =>
      exact hread hname hfile ((readFile_of_file htext).trans (fieldsOf_nothing hfalsy))
  | whole hname hfile htext hflat =>
      exact hread hname hfile ((readFile_of_file htext).trans (fieldsOf_whole hflat))
  | part hname hfile htext hpart =>
      exact hread hname hfile ((readFile_of_file htext).trans (fieldsOf_part hpart))

/-! ## Misfits -/

section Misfits

variable {α β : Type} {ms ms' : List Misfit} {reader : Reader}
  {choose : Setting → Option Value} {x : Setting}

/-- A result fails with the given misfits, or there are none and it does not fail. -/
def Reports (result : Except (List Misfit) α) (ms : List Misfit) : Prop :=
  match result with
  | .ok _ => ms = []
  | .error found => found = ms ∧ ms ≠ []

theorem Reports.map {result : Except (List Misfit) α} (h : Reports result ms) (f : α → β) :
    Reports (result.map f) ms := by
  cases result with
  | ok a => exact h
  | error found => exact h

theorem Reports.combine {f : Except (List Misfit) (α → β)} {a : Except (List Misfit) α}
    (hf : Reports f ms) (ha : Reports a ms') : Reports (combine f a) (ms ++ ms') := by
  cases f with
  | ok f =>
      obtain rfl : ms = [] := hf
      cases a with
      | ok a => exact ha
      | error found => exact ha
  | error first =>
      obtain ⟨rfl, hne⟩ := hf
      cases a with
      | ok a =>
          obtain rfl : ms' = [] := ha
          exact ⟨(List.append_nil first).symm, by rwa [List.append_nil]⟩
      | error second =>
          obtain ⟨rfl, -⟩ := ha
          exact ⟨rfl, List.append_ne_nil_of_left_ne_nil hne second⟩

/-- The misfit of a setting, if there is one. -/
def misfitAt (reader : Reader) (choose : Setting → Option Value) (x : Setting) : List Misfit :=
  match choose x with
  | none => []
  | some v =>
    match x.kind.settle reader v with
    | .ok _ => []
    | .error fault => [⟨x, fault⟩]

theorem mem_misfitAt_iff {m : Misfit} :
    m ∈ misfitAt reader choose x ↔
      m.setting = x ∧ ∃ v, choose x = some v ∧ x.kind.settle reader v = .error m.fault := by
  unfold misfitAt
  obtain ⟨y, fault⟩ := m
  cases choose x with
  | none => simp
  | some v =>
      cases hsettle : x.kind.settle reader v with
      | ok w => simp [hsettle]
      | error found => simp [hsettle, eq_comm]

theorem reports_read (reader : Reader) (choose : Setting → Option Value) (x : Setting)
    {coerce : Value → Except Fault α} {encode : α → Value} (initial : α)
    (hsettle : ∀ v, x.kind.settle reader v = (coerce v).map encode) :
    Reports (read choose x coerce initial) (misfitAt reader choose x) := by
  unfold read misfitAt
  cases choose x with
  | none => rfl
  | some v =>
      simp only [hsettle]
      cases coerce v with
      | ok a => rfl
      | error fault => exact ⟨rfl, List.cons_ne_nil _ _⟩

/-- The misfits of all settings are reported together, in the order of the settings. -/
theorem reports_ofChoice (reader : Reader) (choose : Setting → Option Value) :
    Reports (ofChoice reader choose) (Setting.all.flatMap (misfitAt reader choose)) := by
  have apiUrl := reports_read reader choose .apiUrl initial.apiUrl fun _ => rfl
  have username := reports_read reader choose .username initial.username fun _ => rfl
  have password := reports_read reader choose .password initial.password fun _ => rfl
  have authToken := reports_read reader choose .authToken initial.authToken fun _ => rfl
  have pageSize := reports_read reader choose .pageSize initial.pageSize fun _ => rfl
  have requestTimeout :=
    reports_read reader choose .requestTimeout initial.requestTimeout fun _ => rfl
  have queryTimeout := reports_read reader choose .queryTimeout initial.queryTimeout fun _ => rfl
  have maxComplexity := reports_read reader choose .maxComplexity initial.maxComplexity fun _ => rfl
  have taskConcurrency :=
    reports_read reader choose .taskConcurrency initial.taskConcurrency fun _ => rfl
  have logLevel := reports_read reader choose .logLevel initial.logLevel fun _ => rfl
  have start := (((apiUrl.map Settings.mk).combine username).combine password).combine authToken
  have middle := ((start.combine pageSize).combine requestTimeout).combine queryTimeout
  have all := ((middle.combine maxComplexity).combine taskConcurrency).combine logLevel
  simpa [ofChoice, Setting.all] using all

theorem setting_mem_all (x : Setting) : x ∈ Setting.all := by
  cases x <;> decide

theorem mem_flatMap_misfitAt_iff {m : Misfit} :
    m ∈ Setting.all.flatMap (misfitAt reader choose) ↔
      ∃ v, choose m.setting = some v ∧ m.setting.kind.Refuses reader v m.fault := by
  simp only [List.mem_flatMap, mem_misfitAt_iff, Kind.settle_eq_error_iff]
  constructor
  · rintro ⟨x, -, rfl, hrefused⟩
    exact hrefused
  · intro hrefused
    exact ⟨m.setting, setting_mem_all m.setting, rfl, hrefused⟩

/-- Each setting is reported once at most, and all in their order. -/
theorem sublist_flatMap_misfitAt (reader : Reader) (choose : Setting → Option Value)
    (xs : List Setting) :
    ((xs.flatMap (misfitAt reader choose)).map Misfit.setting).Sublist xs := by
  induction xs with
  | nil => exact List.Sublist.slnil
  | cons x xs ih =>
      rw [List.flatMap_cons, List.map_append]
      have hx : ((misfitAt reader choose x).map Misfit.setting).Sublist [x] := by
        unfold misfitAt
        cases choose x with
        | none => exact List.nil_sublist _
        | some v =>
            cases hsettle : x.kind.settle reader v with
            | ok w => simp [hsettle]
            | error fault => simp [hsettle]
      exact hx.append ih

end Misfits

/-! ## Values -/

/-- The value of a setting. -/
def get (s : Settings) : Setting → Value
  | .apiUrl => .string s.apiUrl
  | .username => .ofString? s.username
  | .password => .ofString? s.password
  | .authToken => .ofString? s.authToken
  | .pageSize => .nat s.pageSize
  | .requestTimeout => .double s.requestTimeout
  | .queryTimeout => .double s.queryTimeout
  | .maxComplexity => .double s.maxComplexity
  | .taskConcurrency => .nat s.taskConcurrency
  | .logLevel => .string s.logLevel

/-- What a setting is if the given value is selected for it. -/
def IsSettled (reader : Reader) (x : Setting) : Option Value → Value → Prop
  | none, w => w = initial.get x
  | some v, w => x.kind.Takes reader v w

section Values

variable {α β : Type} {reader : Reader} {choose : Setting → Option Value} {x : Setting}
  {s : Settings}

theorem combine_eq_ok_iff {f : Except (List Misfit) (α → β)} {a : Except (List Misfit) α} {b : β} :
    combine f a = .ok b ↔ ∃ g c, f = .ok g ∧ a = .ok c ∧ g c = b := by
  cases f with
  | ok g => cases a <;> simp [combine]
  | error first => cases a <;> simp [combine]

theorem isSettled_of_read {coerce : Value → Except Fault α} {start a : α} (encode : α → Value)
    (hsettle : ∀ v, x.kind.settle reader v = (coerce v).map encode)
    (hstart : initial.get x = encode start) (h : read choose x coerce start = .ok a) :
    IsSettled reader x (choose x) (encode a) := by
  unfold read at h
  cases hchosen : choose x with
  | none =>
      simp only [hchosen, Except.ok.injEq] at h
      rw [IsSettled, hstart, h]
  | some v =>
      simp only [hchosen, mapError_eq_ok_iff] at h
      rw [IsSettled, ← Kind.settle_eq_ok_iff, hsettle, h]
      rfl

/-- Where the choice does not fail, each setting is settled by itself. -/
theorem isSettled_of_ofChoice (h : ofChoice reader choose = .ok s) (x : Setting) :
    IsSettled reader x (choose x) (s.get x) := by
  simp only [ofChoice, combine_eq_ok_iff, map_eq_ok_iff] at h
  obtain ⟨_, logLevel, ⟨_, taskConcurrency, ⟨_, maxComplexity, ⟨_, queryTimeout,
    ⟨_, requestTimeout, ⟨_, pageSize, ⟨_, authToken, ⟨_, password, ⟨_, username,
    ⟨apiUrl, hapiUrl, rfl⟩, husername, rfl⟩, hpassword, rfl⟩, hauthToken, rfl⟩, hpageSize, rfl⟩,
    hrequestTimeout, rfl⟩, hqueryTimeout, rfl⟩, hmaxComplexity, rfl⟩, htaskConcurrency, rfl⟩,
    hlogLevel, rfl⟩ := h
  cases x with
  | apiUrl => exact isSettled_of_read .string (fun _ => rfl) rfl hapiUrl
  | username => exact isSettled_of_read .ofString? (fun _ => rfl) rfl husername
  | password => exact isSettled_of_read .ofString? (fun _ => rfl) rfl hpassword
  | authToken => exact isSettled_of_read .ofString? (fun _ => rfl) rfl hauthToken
  | pageSize => exact isSettled_of_read .nat (fun _ => rfl) rfl hpageSize
  | requestTimeout => exact isSettled_of_read .double (fun _ => rfl) rfl hrequestTimeout
  | queryTimeout => exact isSettled_of_read .double (fun _ => rfl) rfl hqueryTimeout
  | maxComplexity => exact isSettled_of_read .double (fun _ => rfl) rfl hmaxComplexity
  | taskConcurrency => exact isSettled_of_read .nat (fun _ => rfl) rfl htaskConcurrency
  | logLevel => exact isSettled_of_read .string (fun _ => rfl) rfl hlogLevel

/-- Every initial value is taken for its own setting, as it is. -/
theorem takes_initial (reader : Reader) (x : Setting) :
    x.kind.Takes reader (initial.get x) (initial.get x) := by
  refine ⟨initial.get x, ?_, ?_, ?_⟩
  · cases x with
    | apiUrl | logLevel => exact congrArg (Except.map Value.string) (reader.text_string _)
    | username | password | authToken => rfl
    | pageSize | taskConcurrency => exact congrArg (Except.map Value.int) (reader.integer_int _)
    | requestTimeout | queryTimeout | maxComplexity =>
        exact congrArg (Except.map Value.double) (reader.double_double _)
  · cases x <;> decide +kernel
  · cases x <;> rfl

theorem IsSettled.fits {v? : Option Value} {w : Value} (h : IsSettled reader x v? w) :
    x.kind.Fits w := by
  cases v? with
  | none =>
      obtain rfl : w = initial.get x := h
      exact (takes_initial reader x).fits
  | some v => exact Kind.Takes.fits h

end Values

/-- Settings as they are meant to be. -/
structure IsSound (s : Settings) : Prop where
  pageSize : 0 < s.pageSize
  taskConcurrency : 0 < s.taskConcurrency
  requestTimeout : Number.isPositive (.double s.requestTimeout)
  queryTimeout : Number.isPositive (.double s.queryTimeout)
  maxComplexity : Number.isPositive (.double s.maxComplexity)
  apiUrl : s.apiUrl.toList.getLast? ≠ some '/'
  logLevel : (Logging.level? s.logLevel).isSome ∧ Text.upper s.logLevel = s.logLevel

theorem isSound_of_fits {s : Settings} (h : ∀ x : Setting, x.kind.Fits (s.get x)) : s.IsSound where
  pageSize := (h .pageSize).pos
  taskConcurrency := (h .taskConcurrency).pos
  requestTimeout := (h .requestTimeout).isPositive
  queryTimeout := (h .queryTimeout).isPositive
  maxComplexity := (h .maxComplexity).isPositive
  apiUrl := (h .apiUrl).getLast?
  logLevel := (h .logLevel).level

/-! ## Choosing settings -/

/-- The value that is selected for a setting does not fit it. -/
def IsMisfit (reader : Reader) (environment : Environment) (fields : List (String × Value))
    (m : Misfit) : Prop :=
  ∃ v, Selected environment fields m.setting (some v) ∧ m.setting.kind.Refuses reader v m.fault

section Misfits

variable {reader : Reader} {environment : Environment} {fields : List (String × Value)}

theorem mem_misfits_iff {m : Misfit} :
    m ∈ Setting.all.flatMap (misfitAt reader (chosen environment fields)) ↔
      IsMisfit reader environment fields m := by
  simp only [mem_flatMap_misfitAt_iff, IsMisfit, selected_iff]

theorem misfits_of_choose {ms : List Misfit} (h : choose environment fields reader = .error ms) :
    ms ≠ [] ∧ (ms.map Misfit.setting).Sublist Setting.all ∧
      ∀ m, m ∈ ms ↔ IsMisfit reader environment fields m := by
  have hreports := reports_ofChoice reader (chosen environment fields)
  rw [choose] at h
  rw [h] at hreports
  obtain ⟨rfl, hne⟩ := hreports
  exact ⟨hne, sublist_flatMap_misfitAt _ _ _, fun m => mem_misfits_iff⟩

theorem not_isMisfit_of_choose {s : Settings} (h : choose environment fields reader = .ok s)
    (m : Misfit) : ¬IsMisfit reader environment fields m := by
  have hreports := reports_ofChoice reader (chosen environment fields)
  rw [choose] at h
  rw [h] at hreports
  have hnone : Setting.all.flatMap (misfitAt reader (chosen environment fields)) = [] := hreports
  rw [← mem_misfits_iff, hnone]
  exact List.not_mem_nil

/-- The choice fails exactly if some value that is selected does not fit. -/
theorem choose_fails_iff :
    (∃ ms, choose environment fields reader = .error ms) ↔
      ∃ m, IsMisfit reader environment fields m := by
  constructor
  · rintro ⟨ms, hms⟩
    obtain ⟨hne, -, hmem⟩ := misfits_of_choose hms
    obtain ⟨m, hm⟩ := List.exists_mem_of_ne_nil ms hne
    exact ⟨m, (hmem m).mp hm⟩
  · rintro ⟨m, hm⟩
    cases hchosen : choose environment fields reader with
    | error ms => exact ⟨ms, rfl⟩
    | ok s => exact absurd hm (not_isMisfit_of_choose hchosen m)

theorem sound_of_choose {s : Settings} (h : choose environment fields reader = .ok s) :
    (∀ x v?, Selected environment fields x v? → IsSettled reader x v? (s.get x)) ∧ s.IsSound := by
  have hsettled := isSettled_of_ofChoice h
  refine ⟨?_, isSound_of_fits fun x => (hsettled x).fits⟩
  intro x v? hselected
  obtain rfl := selected_iff.mp hselected
  exact hsettled x

end Misfits

/-- Each setting is taken from its variable, or else from its field in the file, or else it keeps
its initial value, and nothing else plays a part.  The settings that fail are those whose selected
values do not fit, each of them is reported, and where none fails the settings are sound. -/
theorem settings_have_their_sources (reader : Reader) (environment : Environment)
    (fields : List (String × Value)) :
    (∀ files name, Provides reader files name fields →
      load files environment name reader =
        (choose environment fields reader).mapError .rejected) ∧
    ((∃ ms, choose environment fields reader = .error ms) ↔
      ∃ m, IsMisfit reader environment fields m) ∧
    (∀ ms, choose environment fields reader = .error ms →
      (ms.map Misfit.setting).Sublist Setting.all ∧
      ∀ m, m ∈ ms ↔ IsMisfit reader environment fields m) ∧
    (∀ s, choose environment fields reader = .ok s →
      (∀ x v?, Selected environment fields x v? → IsSettled reader x v? (s.get x)) ∧
      s.IsSound) ∧
    ∀ environment' fields',
      (∀ x : Setting,
        environment'.lookup ("TAIGA_" ++ Text.upper x.name) =
          environment.lookup ("TAIGA_" ++ Text.upper x.name) ∧
        fields'.lookup x.name = fields.lookup x.name) →
      choose environment' fields' reader = choose environment fields reader := by
  refine ⟨fun files name h => h.load_eq environment, choose_fails_iff,
    fun ms hms => (misfits_of_choose hms).2, fun s hs => sound_of_choose hs, ?_⟩
  intro environment' fields' hsame
  have hchosen : chosen environment' fields' = chosen environment fields :=
    funext fun x => chosen_congr (hsame x).1 (hsame x).2
  rw [choose, choose, hchosen]

/-- The file sets the size of a page to zero, which does not matter, as the environment sets it to
fifty; the variable for the name of the user is empty, so that the file sets it. -/
theorem settings_have_their_sources_page :
    let text := "taiga:\n  page_size: 0\n  username: ann\ntext: 5\n"
    let fields := [("page_size", .int 0), ("username", .string "ann")]
    let environment := [("TAIGA_PAGE_SIZE", "50"), ("TAIGA_USERNAME", ""), ("page_size", "x")]
    let s : Settings := { pageSize := 50, username := some "ann" }
    Provides .lax [("config.yaml", text)] (some "config.yaml") fields ∧
    load [("config.yaml", text)] environment (some "config.yaml") = .ok s ∧ s.IsSound := by
  intro text fields environment s
  have hprovides : Provides .lax [("config.yaml", text)] (some "config.yaml") fields := by
    have hjson : Json.readWith Document.readPlain text = .error ⟨.expectedValue, 0, 1, 1⟩ := by cbv
    have hlines : Document.linesOf text = [⟨0, "taiga:".toList⟩, ⟨2, "page_size: 0".toList⟩,
        ⟨2, "username: ann".toList⟩, ⟨0, "text: 5".toList⟩] := by cbv
    have hblock : Document.readLines? [⟨0, "taiga:".toList⟩, ⟨2, "page_size: 0".toList⟩,
        ⟨2, "username: ann".toList⟩, ⟨0, "text: 5".toList⟩] =
          some (.object [("taiga", .object fields), ("text", .int 5)]) := by cbv
    have hread : Document.read text =
        .ok (.object [("taiga", .object fields), ("text", .int 5)]) := by
      rw [Document.read, hjson]
      dsimp only
      rw [hlines, hblock]
    exact .part (by decide) rfl hread rfl
  have hchosen : choose environment fields = .ok s := by decide +kernel
  obtain ⟨hload, -, -, hsettled, -⟩ := settings_have_their_sources .lax environment fields
  refine ⟨hprovides, ?_, (hsettled s hchosen).2⟩
  rw [hload _ _ hprovides, hchosen]
  rfl

end Settings

end IssueQuery
