import Changeset.CommandLine.Run
import Changeset.Proofs.Settings.Alias

/-!
# Loading settings from a file

A file is meant to give settings, or an error about what it holds that the
command line can report (`EndsWell`). `endsWell_iff_not_escapes`: it does so
exactly if none of two things happens (`Escapes`). The text is no value at all,
for another reason than a scalar that cannot be read as its type says; or a
field has a value of a type that its setting is not made from. Only the first
fault counts, so a field of the wrong type escapes if all before it are good.
-/

namespace Changeset

namespace Settings

-- ---------------------------------------------------------------------------
-- Accepted settings
-- ---------------------------------------------------------------------------

structure Accepted (s : Settings) : Prop where
  strategy : s.strategy.name = "hunk" ∨ s.strategy.name = "symbol"
  aliases : ∀ e ∈ s.aliases, (Language.grammarOf e.2).isSome
  level : Level.ofName? s.level.name = some s.level ∧ Letter.upper s.level.name = s.level.name

theorem mem_put {key value : String} {e : String × String} {es : List (String × String)}
    (h : e ∈ put key value es) : e = (key, value) ∨ e ∈ es := by
  induction es with
  | nil => exact .inl (List.mem_singleton.mp h)
  | cons d es ih =>
    rw [put] at h
    split at h
    · exact (List.mem_cons.mp h).imp id (List.mem_cons_of_mem d)
    · rcases List.mem_cons.mp h with rfl | h
      · exact .inr (List.mem_cons_self ..)
      · exact (ih h).imp id (List.mem_cons_of_mem d)

theorem grammarOf_of_mem_aliases {entries : List (Value × Value)}
    {aliases : List (String × String)} (h : readAliases entries = .ok aliases) :
    ∀ e ∈ aliases, (Language.grammarOf e.2).isSome := by
  refine foldlM_invariant (P := fun known => ∀ e ∈ known, (Language.grammarOf e.2).isSome)
    ?_ (by simp) h
  intro entry _ known next hknown hnext e he
  obtain ⟨htarget, rfl⟩ := putEntry_ok.mp hnext
  rcases mem_put he with rfl | he
  · exact htarget
  · exact hknown e he

theorem accepted_iff {s : Settings} :
    s.Accepted ↔ ∀ e ∈ s.aliases, (Language.grammarOf e.2).isSome := by
  refine ⟨Accepted.aliases, fun haliases => ⟨?_, haliases, ?_⟩⟩
  · cases s.strategy <;> simp [Strategy.name]
  · cases s.level <;> decide +kernel

theorem accepted_of_ofRequest {r : Request} {s : Settings} (h : ofRequest r = .ok s) :
    s.Accepted := by
  obtain ⟨-, ⟨entries, -, haliases⟩, -⟩ := ofRequest_ok_iff.mp h
  exact accepted_iff.mpr (grammarOf_of_mem_aliases haliases)

-- ---------------------------------------------------------------------------
-- Faults of requests
-- ---------------------------------------------------------------------------

/-- Aliases that are no mapping, or a level that is no text, with all before it good. -/
def Request.HasWrongType (r : Request) : Prop :=
  ∃ strategy, readStrategy r.strategy = .ok strategy ∧
    (r.aliases = none ∨ ∃ entries aliases, r.aliases = some entries ∧
      readAliases entries = .ok aliases ∧ ∀ s, r.level ≠ .text s)

theorem readStrategy_isValueFault {v : Value} {f : Fault} (h : readStrategy v = .error f) :
    f.isValueFault = true := by
  unfold readStrategy at h
  split at h
  · split at h <;> cases h
    rfl
  · cases h
    rfl

theorem readAliases_isValueFault {entries : List (Value × Value)} {f : Fault}
    (h : readAliases entries = .error f) : f.isValueFault = true := by
  obtain ⟨_, e, _, known, -, -, h⟩ := foldlM_error.mp h
  simp only at h
  split at h <;> cases h
  rfl

theorem readLevel_isValueFault_iff {v : Value} {f : Fault} (h : readLevel v = .error f) :
    f.isValueFault = false ↔ ∀ s, v ≠ .text s := by
  unfold readLevel at h
  split at h
  · split at h <;> cases h
    simp [Fault.isValueFault]
  · rename_i hv
    cases h
    exact iff_of_true rfl hv

theorem ofRequest_wrongType_iff {r : Request} :
    (∃ f, ofRequest r = .error f ∧ f.isValueFault = false) ↔ r.HasWrongType := by
  obtain ⟨strategy, aliases, level⟩ := r
  -- The steps in their order: behind one that fails nothing is looked at.
  simp only [ofRequest, Request.HasWrongType]
  cases hstrategy : readStrategy strategy with
  | error f => simp [bind, Except.bind, readStrategy_isValueFault hstrategy]
  | ok strategy =>
    cases aliases with
    | none => simp [bind, Except.bind, Fault.isValueFault]
    | some entries =>
      cases haliases : readAliases entries with
      | error f => simp [bind, Except.bind, haliases, readAliases_isValueFault haliases]
      | ok aliases =>
        cases hlevel : readLevel level with
        | error f =>
          simp [bind, Except.bind, haliases, readLevel_isValueFault_iff hlevel]
        | ok level =>
          obtain ⟨s, rfl, -⟩ := readLevel_ok_iff.mp hlevel
          simp [bind, Except.bind, haliases, pure, Except.pure]

-- ---------------------------------------------------------------------------
-- Faults of files
-- ---------------------------------------------------------------------------

def strategyIn (entries : List (Value × Value)) : Value :=
  ((field? "default_strategy" entries).map asText).getD (.text "hunk")

/-- The first field of a file that is not good has a value of a type that its setting is not made
from. The strategy is looked at before the aliases are known to be null. -/
inductive HasWrongType (entries : List (Value × Value)) : Prop where
  | noMapping {v : Value} (found : field? "extra_language_aliases" entries = some v)
      (not_null : v ≠ .null) (not_map : ∀ es, v ≠ .map es)
  | nullAliases {strategy : Strategy} (good : readStrategy (strategyIn entries) = .ok strategy)
      (found : field? "extra_language_aliases" entries = some .null)
  | nullLevel {strategy : Strategy} {given : List (Value × Value)}
      {aliases : List (String × String)}
      (good : readStrategy (strategyIn entries) = .ok strategy)
      (given_good : aliases? (field? "extra_language_aliases" entries) = .ok (some given))
      (aliases_good : readAliases given = .ok aliases)
      (found : field? "log_level" entries = some .null)

theorem asText_ne_text {v : Value} : (∀ s, asText v ≠ .text s) ↔ v = .null := by
  cases v <;> simp [asText]

theorem fieldText_ne_text {name base : String} {entries : List (Value × Value)} :
    (∀ s, ((field? name entries).map asText).getD (.text base) ≠ .text s) ↔
      field? name entries = some .null := by
  cases field? name entries with
  | none => simp
  | some v => simpa using asText_ne_text

theorem aliases?_cases (field : Option Value) :
    (∃ given, aliases? field = .ok (some given) ∧ field ≠ some .null ∧
      ∀ v, field = some v → ∃ es, v = .map es) ∨
    (aliases? field = .ok none ∧ field = some .null) ∨
    (aliases? field = .error .aliasesNotMapping ∧
      ∃ v, field = some v ∧ v ≠ .null ∧ ∀ es, v ≠ .map es) := by
  rcases field with _ | v
  · simp [aliases?, Request.default]
  · cases v <;> simp [aliases?]

theorem requestOf_wrongType_iff {entries : List (Value × Value)} :
    (∃ f, (requestOf entries).bind ofRequest = .error f ∧ f.isValueFault = false) ↔
      HasWrongType entries := by
  obtain ⟨given, haliases, hnull, hmap⟩ | ⟨haliases, hnull⟩ | ⟨haliases, v, hv, hnull, hmap⟩ :=
    aliases?_cases (field? "extra_language_aliases" entries)
  · simp only [requestOf, haliases, bind, Except.bind, pure, Except.pure, ofRequest_wrongType_iff,
      Request.HasWrongType]
    constructor
    · rintro ⟨strategy, hstrategy, hnone | ⟨_, aliases, hgiven, hread, hlevel⟩⟩
      · cases hnone
      · cases hgiven
        exact .nullLevel hstrategy haliases hread (fieldText_ne_text.mp hlevel)
    · rintro (⟨hv, hne, hno⟩ | ⟨_, hfound⟩ | ⟨hstrategy, hgiven, hread, hlevel⟩)
      · obtain ⟨es, rfl⟩ := hmap _ hv
        exact absurd rfl (hno es)
      · exact absurd hfound hnull
      · rw [haliases] at hgiven
        cases hgiven
        exact ⟨_, hstrategy, .inr ⟨_, _, rfl, hread, fieldText_ne_text.mpr hlevel⟩⟩
  · simp only [requestOf, haliases, bind, Except.bind, pure, Except.pure, ofRequest_wrongType_iff,
      Request.HasWrongType]
    constructor
    · rintro ⟨strategy, hstrategy, -⟩
      exact .nullAliases hstrategy hnull
    · rintro (⟨hv, hne, -⟩ | ⟨hstrategy, -⟩ | ⟨-, hgiven, -⟩)
      · rw [hnull] at hv
        cases hv
        exact absurd rfl hne
      · exact ⟨_, hstrategy, .inl trivial⟩
      · rw [haliases] at hgiven
        cases hgiven
  · simp only [requestOf, haliases, bind, Except.bind]
    exact iff_of_true ⟨_, rfl, rfl⟩ (.noMapping hv hnull hmap)

/-- The text of a file is no value, and not for what a scalar says; or a field of it is of the
wrong type. -/
inductive Escapes (bytes : List UInt8) : Prop where
  | text {cs : List Char} {f : Yaml.Fault} (decoded : decodeFile bytes = .ok cs)
      (fails : Yaml.read cs = .error f) (structural : ∀ m, f ≠ .invalid m)
  | fields {cs : List Char} {entries : List (Value × Value)} (decoded : decodeFile bytes = .ok cs)
      (holds : Yaml.read cs = .ok (.map entries)) (wrong : HasWrongType entries)

theorem not_hasWrongType_nil : ¬ HasWrongType [] := by
  rintro (⟨hv, -⟩ | ⟨-, hfound⟩ | ⟨-, -, -, hfound⟩) <;> simp_all [field?]

theorem exists_encoding_of_decodeFile {bytes : List UInt8} {f : FileFault}
    (h : decodeFile bytes = .error f) : ∃ g, f = .encoding g := by
  unfold decodeFile at h
  split at h <;> cases h
  exact ⟨_, rfl⟩

theorem message?_text_eq_none_iff {f : Yaml.Fault} :
    (FileFault.text f).message? = none ↔ ∀ m, f ≠ .invalid m := by
  cases f <;> simp [FileFault.message?]

theorem message?_settings_eq_none_iff {f : Fault} :
    (FileFault.settings f).message? = none ↔ f.isValueFault = false := by
  cases h : f.isValueFault <;> simp [FileFault.message?, h]

def ofValue (name : String) (v : Value) : Except FileFault Settings :=
  if v.isEmpty then .ok default
  else
    match v with
    | .map entries => ((requestOf entries).bind ofRequest).mapError .settings
    | _ => .error (.notMapping name)

section
variable {name : String} {bytes : List UInt8} {cs : List Char} {v : Value}

theorem ofFile_eq_ofValue (hcs : decodeFile bytes = .ok cs) (hv : Yaml.read cs = .ok v) :
    ofFile name bytes = ofValue name v := by
  simp only [ofFile, hcs, hv, bind, Except.bind, Except.mapError]
  rfl

theorem accepted_of_ofValue {s : Settings} (h : ofValue name v = .ok s) : s.Accepted := by
  unfold ofValue at h
  split at h
  · cases h
    exact accepted_iff.mpr (by simp [default])
  · split at h
    · rename_i entries _
      obtain ⟨r, -, hs⟩ := bind_ok.mp (mapError_ok.mp h)
      exact accepted_of_ofRequest hs
    · cases h

theorem ofValue_wrongType_iff :
    (∃ f, ofValue name v = .error f ∧ f.message? = none) ↔
      ∃ entries, v = .map entries ∧ HasWrongType entries := by
  unfold ofValue
  split
  · rename_i hempty
    refine iff_of_false (by simp) ?_
    rintro ⟨entries, rfl, hwrong⟩
    obtain rfl : entries = [] := by simpa [Value.isEmpty] using hempty
    exact not_hasWrongType_nil hwrong
  · split
    · rename_i entries _
      simp only [mapError_error, Value.map.injEq, exists_eq_left', ← requestOf_wrongType_iff]
      constructor
      · rintro ⟨_, ⟨f, hf, rfl⟩, hm⟩
        exact ⟨f, hf, message?_settings_eq_none_iff.mp hm⟩
      · rintro ⟨f, hf, hm⟩
        exact ⟨_, ⟨f, hf, rfl⟩, message?_settings_eq_none_iff.mpr hm⟩
    · rename_i hno
      refine iff_of_false (by simp [FileFault.message?]) ?_
      rintro ⟨entries, rfl, -⟩
      exact hno entries rfl

theorem escapes_iff_of_error {f : Yaml.Fault} (hcs : decodeFile bytes = .ok cs)
    (hf : Yaml.read cs = .error f) : Escapes bytes ↔ ∀ m, f ≠ .invalid m := by
  refine ⟨?_, .text hcs hf⟩
  rintro (⟨hcs', hf', hstructural⟩ | ⟨hcs', hv', -⟩)
  · cases hcs.symm.trans hcs'
    cases hf.symm.trans hf'
    exact hstructural
  · cases hcs.symm.trans hcs'
    cases hf.symm.trans hv'

theorem escapes_iff_of_ok (hcs : decodeFile bytes = .ok cs) (hv : Yaml.read cs = .ok v) :
    Escapes bytes ↔ ∃ entries, v = .map entries ∧ HasWrongType entries := by
  constructor
  · rintro (⟨hcs', hf', -⟩ | ⟨hcs', hv', hwrong⟩)
    · cases hcs.symm.trans hcs'
      cases hv.symm.trans hf'
    · cases hcs.symm.trans hcs'
      cases hv.symm.trans hv'
      exact ⟨_, rfl, hwrong⟩
  · rintro ⟨entries, rfl, hwrong⟩
    exact .fields hcs hv hwrong

/-- The faults of files that have no message are those that escape. -/
theorem ofFile_escapes_iff (name : String) :
    (∃ f, ofFile name bytes = .error f ∧ f.message? = none) ↔ Escapes bytes := by
  cases hcs : decodeFile bytes with
  | error f =>
    obtain ⟨g, rfl⟩ := exists_encoding_of_decodeFile hcs
    refine iff_of_false ?_ ?_
    · simp [ofFile, hcs, bind, Except.bind, FileFault.message?]
    · rintro (⟨h, -⟩ | ⟨h, -⟩) <;> simp [hcs] at h
  | ok cs =>
    cases hv : Yaml.read cs with
    | error f =>
      have hfile : ofFile name bytes = .error (.text f) := by
        simp [ofFile, hcs, hv, bind, Except.bind, Except.mapError]
      simp [hfile, escapes_iff_of_error hcs hv, message?_text_eq_none_iff]
    | ok v =>
      rw [ofFile_eq_ofValue hcs hv, ofValue_wrongType_iff, escapes_iff_of_ok hcs hv]

theorem accepted_of_ofFile {s : Settings} (h : ofFile name bytes = .ok s) : s.Accepted := by
  obtain ⟨cs, hcs, h'⟩ := bind_ok.mp h
  obtain ⟨v, hv, -⟩ := bind_ok.mp h'
  rw [ofFile_eq_ofValue hcs (mapError_ok.mp hv)] at h
  exact accepted_of_ofValue h

end

/-- Settings that are accepted, or a fault about what the file holds. -/
def EndsWell (name : String) (bytes : List UInt8) : Prop :=
  (∃ s, ofFile name bytes = .ok s ∧ s.Accepted) ∨
    ∃ f m, ofFile name bytes = .error f ∧ f.message? = some m

section
variable {name : String} {bytes : List UInt8}

theorem endsWell_iff_not_escapes : EndsWell name bytes ↔ ¬ Escapes bytes := by
  rw [← ofFile_escapes_iff name, EndsWell]
  cases h : ofFile name bytes with
  | ok s => simp [accepted_of_ofFile h]
  | error f => cases hm : f.message? <;> simp [hm]

instance : Decidable (EndsWell name bytes) :=
  decidable_of_iff
    ((match ofFile name bytes with
      | .ok _ => true
      | .error f => f.message?.isSome) = true) (by
    rw [EndsWell]
    cases h : ofFile name bytes with
    | ok s => simp [accepted_of_ofFile h]
    | error f => simp [Option.isSome_iff_exists])

end

end Settings

-- ---------------------------------------------------------------------------
-- Settings files of the command line
-- ---------------------------------------------------------------------------

namespace CommandLine

variable {w : World} {args : List String} {path : String} {bytes : List UInt8}

structure NamesSettings (w : World) (args : List String) (path : String) : Prop where
  nonempty : args.isEmpty = false
  given : ∃ g c, arguments w .program args = .ok g ∧ commandOf w g.others = .ok c ∧
    g.value? .config = some path

instance : Decidable (NamesSettings w args path) :=
  decidable_of_iff
    ((match arguments w .program args with
      | .error _ => false
      | .ok g =>
        match commandOf w g.others with
        | .error _ => false
        | .ok _ => g.value? .config = some path) = true ∧ args.isEmpty = false) (by
    constructor
    · rintro ⟨hgiven, hargs⟩
      refine ⟨hargs, ?_⟩
      split at hgiven
      · cases hgiven
      · rename_i g hg
        split at hgiven
        · cases hgiven
        · rename_i c hc
          exact ⟨g, c, hg, hc, of_decide_eq_true hgiven⟩
    · rintro ⟨hargs, g, c, hg, hc, hpath⟩
      simp [hg, hc, hpath, hargs])

/-- The program says that it was called in a wrong way, and nothing else. -/
def Outcome.IsUsageError (o : Outcome) : Prop := o.exitCode = 2 ∧ o.stdout = "" ∧ o.crash = none

instance (o : Outcome) : Decidable o.IsUsageError :=
  decidable_of_iff (o.exitCode = 2 ∧ o.stdout = "" ∧ o.crash.isNone = true)
    (by simp [Outcome.IsUsageError])

theorem run_of_namesSettings (h : NamesSettings w args path) {s : Stop}
    (hs : settingsOf w (some path) = .error s) : run w args = stopped "" s := by
  obtain ⟨g, ⟨c, rest⟩, hg, hc, hpath⟩ := h.given
  simp [run, callOf, h.nonempty, hg, hc, hpath, hs, bind, Except.bind]

theorem settingsOf_error (hfile : w.find? path = some (.file bytes)) {f : Settings.FileFault}
    (hf : Settings.ofFile path bytes = .error f) :
    settingsOf w (some path) = .error (match f.message? with
      | some m => .misuse .program (.badValue "--config" m)
      | none => .crash (.settings f)) := by
  simp only [settingsOf, hfile, hf]
  cases f.message? <;> rfl

/-- A settings file loads or is refused exactly if its fault does not escape, and only then is a bad
file a usage error of the command line. -/
theorem loads_iff_not_escapes (hfile : w.find? path = some (.file bytes)) :
    (Settings.EndsWell path bytes ↔ ¬ Settings.Escapes bytes) ∧
    ∀ args, NamesSettings w args path → (∀ s, Settings.ofFile path bytes ≠ .ok s) →
      ((run w args).IsUsageError ↔ ¬ Settings.Escapes bytes) := by
  refine ⟨Settings.endsWell_iff_not_escapes, fun args hargs hbad => ?_⟩
  rw [← Settings.ofFile_escapes_iff path]
  cases hf : Settings.ofFile path bytes with
  | ok s => exact absurd hf (hbad s)
  | error f =>
    rw [run_of_namesSettings hargs (settingsOf_error hfile hf)]
    cases hm : f.message? <;> simp [stopped, Outcome.IsUsageError, hm]

def settingsWorld (content : String) : World where
  find? := Directory.find? ⟨[("config.yaml", Utf8.encode content.toList)]⟩
  input := []

def callWithSettings : List String := ["--config", "config.yaml", "split", "-"]

def chatty : String := "log_level: chatty\n"

theorem loads_iff_not_escapes_chatty :
    (settingsWorld chatty).find? "config.yaml" = some (.file (Utf8.encode chatty.toList)) ∧
    Settings.EndsWell "config.yaml" (Utf8.encode chatty.toList) ∧
    NamesSettings (settingsWorld chatty) callWithSettings "config.yaml" ∧
    (run (settingsWorld chatty) callWithSettings).IsUsageError := by
  have hfile : (settingsWorld chatty).find? "config.yaml" =
      some (.file (Utf8.encode chatty.toList)) := by decide +kernel
  have hends : Settings.EndsWell "config.yaml" (Utf8.encode chatty.toList) := by decide +kernel
  have hnames : NamesSettings (settingsWorld chatty) callWithSettings "config.yaml" := by
    decide +kernel
  have hrefused : (Settings.ofFile "config.yaml" (Utf8.encode chatty.toList)).toOption = none := by
    decide +kernel
  have hbad : ∀ s, Settings.ofFile "config.yaml" (Utf8.encode chatty.toList) ≠ .ok s := by
    intro s hs
    simp [hs, Except.toOption] at hrefused
  obtain ⟨hloads, hrun⟩ := loads_iff_not_escapes hfile
  exact ⟨hfile, hends, hnames, (hrun _ hnames hbad).mpr (hloads.mp hends)⟩

/-- A level that is no text is no usage error: the program dies of it. -/
theorem not_endsWell_nullLevel :
    let bytes := Utf8.encode "log_level: null\n".toList
    ¬ Settings.EndsWell "config.yaml" bytes ∧
      ¬ (run (settingsWorld "log_level: null\n") callWithSettings).IsUsageError ∧
      (run (settingsWorld "log_level: null\n") callWithSettings).crash.isSome = true := by
  decide +kernel

end CommandLine

end Changeset
