import Changeset.CommandLine.Run

/-!
# Verbosity

Debugging and `--verbose` decide what is logged, and the log goes to the
standard error. `run_verbose`: put in front of other arguments, neither changes
the exit code, the report or what the program dies of. The arguments are read as
without it (`given_cons`) and checked alike (`checkSwitches_behind`), so the same
command runs under the same settings, and whether its notes are shown does not
decide what it finds (`sameResult_finished`).
-/

namespace Changeset.CommandLine

variable {w : World} {args : List String}

-- ---------------------------------------------------------------------------
-- Results
-- ---------------------------------------------------------------------------

/-- Outcomes that differ at most in what is on the standard error. -/
structure Outcome.SameResult (a b : Outcome) : Prop where
  exitCode : a.exitCode = b.exitCode
  stdout : a.stdout = b.stdout
  crash : a.crash = b.crash

theorem Outcome.sameResult_refl (a : Outcome) : a.SameResult a := ⟨rfl, rfl, rfl⟩

theorem sameResult_stopped (log log' : String) (s : Stop) :
    (stopped log s).SameResult (stopped log' s) := by
  cases s <;> exact ⟨rfl, rfl, rfl⟩

theorem sameResult_finished (verbose verbose' : Bool) (r : Running) :
    (finished verbose r).SameResult (finished verbose' r) := by
  unfold finished
  cases r.value with
  | error s => exact sameResult_stopped _ _ s
  | ok report => exact ⟨rfl, rfl, rfl⟩

-- ---------------------------------------------------------------------------
-- Reading one more switch
-- ---------------------------------------------------------------------------

inductive Verbosity : String → Key → Prop
  | debug : Verbosity "--debug" .debug
  | verbose : Verbosity "--verbose" .verbose

def Given.behind (g : Given) (k : Key) : Given := { g with switches := (k, "") :: g.switches }

variable {flag : String} {k : Key} {g : Given}

theorem Given.value?_behind {k' : Key} (h : k' ≠ k) : (g.behind k).value? k' = g.value? k' := by
  simp [value?, behind, List.find?_append, Ne.symm h]

theorem Given.has_behind {k' : Key} (h : k' ≠ k) : (g.behind k).has k' = g.has k' := by
  rw [has, value?_behind h, has]

theorem Verbosity.ne_config (h : Verbosity flag k) : Key.config ≠ k := by
  cases h <;> decide

theorem Verbosity.ne_help (h : Verbosity flag k) : Key.help ≠ k := by
  cases h <;> decide

/-- Such a switch stands for itself, and what is behind it is read as without it. -/
theorem given_cons (hflag : Verbosity flag k) (hargs : args ≠ []) :
    given Page.program.switches Page.program.mixes (flag :: args) =
      (given Page.program.switches Page.program.mixes args).map (·.behind k) := by
  obtain ⟨a, rest, rfl⟩ := List.exists_cons_of_ne_nil hargs
  have hpiece : piece Page.program.switches flag.toList = .ok ⟨[(k, "")], none⟩ := by
    cases hflag <;> rfl
  have hdashes : (flag == "--") = false := by cases hflag <;> rfl
  have hswitch : isSwitch flag.toList = true := by cases hflag <;> rfl
  rw [given, if_neg (by simp [hdashes]), if_pos hswitch, hpiece]
  cases given Page.program.switches Page.program.mixes (a :: rest) <;> rfl

-- ---------------------------------------------------------------------------
-- Checking and running
-- ---------------------------------------------------------------------------

def checkKey (w : World) (g : Given) (k : Key) : Except Stop Unit :=
  match Page.program.switches.find? (·.key = k), g.value? k with
  | some s, some v => checkSwitch w .program s v
  | _, _ => .ok ()

theorem checkSwitches_eq (w : World) (g : Given) :
    checkSwitches w .program g =
      if g.has .help then .error (.help .program)
      else (g.switches.map (·.1)).forM (checkKey w g) := rfl

theorem checkKey_verbosity (hflag : Verbosity flag k) (g : Given) : checkKey w g k = .ok () := by
  unfold checkKey
  cases hflag <;> cases g.value? _ <;> rfl

theorem checkKey_behind (hflag : Verbosity flag k) : checkKey w (g.behind k) = checkKey w g := by
  funext k'
  by_cases hk : k' = k
  · rw [hk, checkKey_verbosity hflag, checkKey_verbosity hflag]
  · rw [checkKey, Given.value?_behind hk, checkKey]

theorem checkSwitches_behind (hflag : Verbosity flag k) :
    checkSwitches w .program (g.behind k) = checkSwitches w .program g := by
  have hforM : ((g.behind k).switches.map (·.1)).forM (checkKey w (g.behind k)) =
      (g.switches.map (·.1)).forM (checkKey w g) := by
    rw [checkKey_behind hflag, Given.behind, List.map_cons, List.forM_eq_forM, List.forM_cons,
      checkKey_verbosity hflag]
    rfl
  rw [checkSwitches_eq, checkSwitches_eq, Given.has_behind hflag.ne_help, hforM]

theorem arguments_cons (hflag : Verbosity flag k) (hargs : args ≠ []) :
    arguments w .program (flag :: args) = (arguments w .program args).map (·.behind k) := by
  rw [arguments, given_cons hflag hargs, arguments]
  cases given Page.program.switches Page.program.mixes args with
  | error m => rfl
  | ok g =>
    simp only [Except.map, checkSwitches_behind hflag]
    cases checkSwitches w .program g <;> rfl

theorem callOf_cons (hflag : Verbosity flag k) (hargs : args ≠ []) :
    (∃ s, callOf w args = .error s ∧ callOf w (flag :: args) = .error s) ∨
      ∃ c verbose, callOf w args = .ok c ∧
        callOf w (flag :: args) = .ok { c with verbose := verbose } := by
  have hempty : args.isEmpty = false := by simpa using hargs
  simp only [callOf, List.isEmpty_cons, hempty, arguments_cons hflag hargs]
  cases arguments w .program args with
  | error s => exact .inl ⟨s, rfl, rfl⟩
  | ok g =>
    have hconfig : (g.behind k).value? .config = g.value? .config :=
      Given.value?_behind hflag.ne_config
    have hothers : (g.behind k).others = g.others := rfl
    simp only [Except.map, bind, Except.bind, hconfig, hothers]
    cases commandOf w g.others with
    | error s => exact .inl ⟨s, rfl, rfl⟩
    | ok c =>
      cases settingsOf w (g.value? .config) with
      | error s => exact .inl ⟨s, rfl, rfl⟩
      | ok settings => exact .inr ⟨_, _, rfl, rfl⟩

/-- With debugging or `--verbose` in front of its arguments the program gives the same result. -/
theorem run_verbose (w : World) {args : List String} (hargs : args ≠ []) {flag : String}
    (hflag : flag = "--debug" ∨ flag = "--verbose") :
    (run w (flag :: args)).SameResult (run w args) := by
  have hflag : ∃ k, Verbosity flag k := by
    rcases hflag with rfl | rfl
    · exact ⟨_, .debug⟩
    · exact ⟨_, .verbose⟩
  obtain ⟨k, hflag⟩ := hflag
  rcases callOf_cons hflag hargs with ⟨s, hs, hs'⟩ | ⟨c, verbose, hc, hc'⟩
  · rw [run, run, hs, hs']
    exact Outcome.sameResult_refl _
  · rw [run, run, hc, hc']
    exact sameResult_finished _ _ _

def talkativeWorld : World where
  find? := Directory.find? ⟨[("config.yaml", Utf8.encode "log_level: debug\n".toList)]⟩
  input := Utf8.encode "no patch\n".toList

def splitTalkatively : List String := ["-c", "config.yaml", "split", "-", "-s", "symbol"]

theorem run_verbose_talkative :
    splitTalkatively ≠ [] ∧
    (run talkativeWorld splitTalkatively).stderr ≠
      (run talkativeWorld ("--verbose" :: splitTalkatively)).stderr ∧
    (run talkativeWorld ("--verbose" :: splitTalkatively)).SameResult
      (run talkativeWorld splitTalkatively) := by
  have hargs : splitTalkatively ≠ [] := by decide
  exact ⟨hargs, by decide +kernel, run_verbose talkativeWorld hargs (.inr rfl)⟩

end Changeset.CommandLine
