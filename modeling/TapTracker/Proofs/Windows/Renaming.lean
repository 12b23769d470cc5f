import TapTracker.Proofs.CommandLine.Installer
import TapTracker.Proofs.Config.Merge
import TapTracker.Proofs.Config.Resolve
import TapTracker.Proofs.Run.Reinstall
import TapTracker.Proofs.Windows.CommandLine
import TapTracker.Proofs.Windows.Handles
import TapTracker.Simulation.Host

/-!
# The command line of a renaming

Two names go into the command line of the renaming tool, each between quotation marks and otherwise
as it is.  The new one is the alias of the product: settings that resolve have no quotation mark and
no backslash in it (`Settings.isQuotable_productAlias`).  The old one comes from the system.

An installation runs the tool once at most, and with these two names (`renames_installCycle`).  The
command line is then divided into the arguments that are meant, whatever else stands in the names
(`readCommandLine_renameArguments`).  `installCycle_toolRuns` puts these together.
-/

namespace TapTracker

open Simulation Windows

/-! ### Aliases of the product -/

/-- What a connection can have as its name can be written between quotation marks. -/
lemma IsAllowedAlias.isQuotable {aliasName : String} (h : IsAllowedAlias aliasName) :
    IsQuotable aliasName.toList where
  no_quote hmem := h.allowed _ hmem (by decide)
  no_backslash_at_end hlast := h.allowed _ (List.mem_of_getLast? hlast) (by decide)

/-- The alias of the product can be written between quotation marks. -/
lemma Settings.isQuotable_productAlias {line : CommandLine} {file : ConfigFile}
    {settings : Settings} (h : resolve line file = .ok settings) :
    IsQuotable settings.productAlias.toList := by
  obtain ⟨hsame, hallowed⟩ := checkAlias_eq_ok.1 (resolve_eq_ok.1 h).productAlias
  rw [hsame]
  exact hallowed.isQuotable

namespace Windows

/-! ### The command line -/

/-- The name of the tool that renames connections. -/
def toolName : String := "netsh"

section Lines

variable {aliasName newAlias : String}

/-- The arguments of the tool stand for two settings after its commands. -/
lemma forall₂_renameArguments (hold : IsQuotable aliasName.toList)
    (hnew : IsQuotable newAlias.toList) :
    List.Forall₂ (fun text a => StandsFor text.toList a.toList) (renameArguments aliasName newAlias)
      ["interface", "set", "interface", "name=" ++ aliasName, "newname=" ++ newAlias] := by
  have hinterface : StandsFor "interface".toList "interface".toList :=
    standsFor_word (by decide) (by decide)
  have hset : StandsFor "set".toList "set".toList := standsFor_word (by decide) (by decide)
  have hname : StandsFor ("name=\"" ++ aliasName ++ "\"").toList ("name=" ++ aliasName).toList := by
    have hstands : StandsFor ("name=".toList ++ '"' :: aliasName.toList ++ ['"'])
        ("name=".toList ++ aliasName.toList) := standsFor_quoted (by decide) (by decide) hold
    simpa using hstands
  have hnewname : StandsFor ("newname=\"" ++ newAlias ++ "\"").toList
      ("newname=" ++ newAlias).toList := by
    have hstands : StandsFor ("newname=".toList ++ '"' :: newAlias.toList ++ ['"'])
        ("newname=".toList ++ newAlias.toList) := standsFor_quoted (by decide) (by decide) hnew
    simpa using hstands
  exact .cons hinterface (.cons hset (.cons hinterface (.cons hname (.cons hnewname .nil))))

/-- Names without zero characters leave none in the command line. -/
lemma zero_not_mem_commandLine {program : String} (hprogram : program ∈ programSpellings toolName)
    (hold : '\x00' ∉ aliasName.toList) (hnew : '\x00' ∉ newAlias.toList) :
    '\x00' ∉ (commandLine program (renameArguments aliasName newAlias)).toList := by
  have hzero : '\x00' ∉ program.toList := by
    rcases List.mem_pair.1 hprogram with rfl | rfl <;> decide
  simp [commandLine, renameArguments, hzero, hold, hnew]

/-- The command line of a renaming is divided into the arguments that are meant. -/
lemma readCommandLine_renameArguments {program : String}
    (hprogram : program ∈ programSpellings toolName) (hold : IsQuotable aliasName.toList)
    (hnew : IsQuotable newAlias.toList) (hold_zero : '\x00' ∉ aliasName.toList)
    (hnew_zero : '\x00' ∉ newAlias.toList) :
    readCommandLine (commandLine program (renameArguments aliasName newAlias)) =
      [toolName, "interface", "set", "interface", "name=" ++ aliasName, "newname=" ++ newAlias] :=
  readCommandLine_commandLine (by decide) hprogram (forall₂_renameArguments hold hnew)
    (zero_not_mem_commandLine hprogram hold_zero hnew_zero)

/-- A backslash at the end of the old name lets it run on into the new one. -/
example : readCommandLine (commandLine "netsh" (renameArguments "a\\" "b")) =
    ["netsh", "interface", "set", "interface", "name=a\" newname=b"] := by
  decide +kernel

end Lines

/-! ### Runs of the tool -/

/-- The arguments of each run of the renaming tool. -/
def Trace.toolRuns : Trace → List (List String)
  | [] => []
  | .runTool arguments _ :: rest => arguments :: toolRuns rest
  | _ :: rest => toolRuns rest

/-- The tool is run once at most, for an adapter that is to get the new alias. -/
def RenamesOnce (newAlias : String) (made : Trace) : Prop :=
  made.toolRuns = [] ∨
    ∃ a : TapAdapter, made.toolRuns = [renameArguments a.aliasName newAlias]

/-- The runs of the tool are those in the first calls and then those in the others. -/
lemma Trace.toolRuns_append (first second : Trace) :
    toolRuns (first ++ second) = first.toolRuns ++ second.toolRuns := by
  induction first with
  | nil => rfl
  | cons call first ih =>
    cases call with
    | runTool arguments ended => exact congrArg (arguments :: ·) ih
    | _ => exact ih

/-- What enumerates or removes does not run the tool. -/
lemma Trace.Leads.toolRuns_eq_nil {made : Trace} {held held' : Held} (h : made.Leads held held') :
    made.toolRuns = [] := by
  induction h with
  | nil => rfl
  | cons hcall _ ih => cases hcall <;> exact ih

section Runs

variable {σ α β : Type} {newAlias : String}

/-- Traced, the action `x` does what `y` does, and it does not run the tool. -/
abbrev Quiet (x : StateT Trace (StateM σ) α) (y : StateM σ α) : Prop :=
  Adds (fun _ made => made.toolRuns = []) x y

/-- Traced, the action `x` does what `y` does, and it renames one adapter at most. -/
abbrev Renames (newAlias : String) (x : StateT Trace (StateM σ) α) (y : StateM σ α) : Prop :=
  Adds (fun _ made => RenamesOnce newAlias made) x y

/-- Two actions that do not run the tool do not run it one after the other. -/
lemma Quiet.bind {x : StateT Trace (StateM σ) α} {y : StateM σ α}
    {f : α → StateT Trace (StateM σ) β} {g : α → StateM σ β} (hx : Quiet x y)
    (hf : ∀ a, Quiet (f a) (g a)) : Quiet (x >>= f) (y >>= g) :=
  Adds.bind hx hf fun hfirst hsecond => by rw [Trace.toolRuns_append, hfirst, hsecond]; rfl

/-- A renaming may come after something else. -/
lemma Quiet.bind_renames {x : StateT Trace (StateM σ) α} {y : StateM σ α}
    {f : α → StateT Trace (StateM σ) β} {g : α → StateM σ β} (hx : Quiet x y)
    (hf : ∀ a, Renames newAlias (f a) (g a)) : Renames newAlias (x >>= f) (y >>= g) :=
  Adds.bind hx hf fun hfirst hsecond => by
    rwa [RenamesOnce, Trace.toolRuns_append, hfirst, List.nil_append]

/-- Something else may come after a renaming. -/
lemma Renames.bind_quiet {x : StateT Trace (StateM σ) α} {y : StateM σ α}
    {f : α → StateT Trace (StateM σ) β} {g : α → StateM σ β} (hx : Renames newAlias x y)
    (hf : ∀ a, Quiet (f a) (g a)) : Renames newAlias (x >>= f) (y >>= g) :=
  Adds.bind hx hf fun hfirst hsecond => by
    rwa [RenamesOnce, Trace.toolRuns_append, hsecond, List.append_nil]

/-- An answer that is given at once does not run the tool. -/
lemma Quiet.pure (a : α) : Quiet (pure a : StateT Trace (StateM σ) α) (pure a) :=
  Adds.pure rfl

/-- An answer that is given at once renames nothing. -/
lemma Renames.pure (a : α) :
    Renames newAlias (pure a : StateT Trace (StateM σ) α) (pure a) :=
  Adds.pure (.inl rfl)

/-- What does not look at the trace adds nothing to it. -/
lemma quiet_lift (act : StateM σ α) : Quiet (StateT.lift act) act := by
  intro past s
  refine ⟨[], ?_, rfl⟩
  rw [List.append_nil]
  rfl

/-! ### Installations -/

variable (sys : System (StateM σ)) {settings : Settings}

/-- A capture does not run the tool. -/
lemma quiet_capture (cls : AdapterClass) :
    Quiet ((platform sys.traced).capture cls) ((platform sys).capture cls) := by
  have henumerate : Quiet (enumerate sys.traced cls) (enumerate sys cls) := by
    intro past s
    obtain ⟨made, hrun, hleads⟩ := moves_enumerate sys cls past s
    exact ⟨made, hrun, hleads.toolRuns_eq_nil⟩
  exact henumerate.bind fun _ => Quiet.pure _

/-- A renaming is one run of the tool. -/
lemma renames_rename (a : TapAdapter) (newAlias : String) :
    Renames newAlias (rename sys.traced a newAlias) (rename sys a newAlias) := by
  have hrun : Renames newAlias
      (sys.traced.runTool (renameArguments a.aliasName newAlias))
      (sys.runTool (renameArguments a.aliasName newAlias)) :=
    adds_traceCall fun _ => .inr ⟨a, rfl⟩
  refine hrun.bind_quiet fun ended => ?_
  cases ended with
  | notStarted reason => exact Quiet.pure _
  | exited status => exact Quiet.pure _

/-- A new adapter is renamed once at most. -/
lemma renames_giveAlias (a : TapAdapter) :
    Renames settings.productAlias (giveAlias (platform sys.traced) settings a)
      (giveAlias (platform sys) settings a) := by
  rw [giveAlias, giveAlias]
  split
  · refine (renames_rename sys a settings.productAlias).bind_quiet fun answer => ?_
    cases answer with
    | error e => exact Quiet.pure _
    | ok => exact Quiet.pure _
  · exact Renames.pure _

/-- The second half of an installation renames one adapter at most. -/
lemma renames_nameNewAdapter (t : BaselineTracker) :
    Renames settings.productAlias (nameNewAdapter (platform sys.traced) settings t)
      (nameNewAdapter (platform sys) settings t) := by
  have hrecord : Quiet (t.recordCurrentState (platform sys.traced))
      (t.recordCurrentState (platform sys)) :=
    (quiet_capture sys t.adapterClass).bind fun _ => Quiet.pure _
  refine hrecord.bind_renames fun (t, recorded) => ?_
  cases recorded with
  | error e => exact Renames.pure _
  | ok =>
    dsimp only
    cases t.newAdapter with
    | error e => exact Renames.pure _
    | ok a => exact (renames_giveAlias sys a).bind_quiet fun _ => Quiet.pure _

/-- An installation renames one adapter at most, and gives it the alias of the product. -/
lemma renames_installCycle (install : StateM σ (Except RunError Unit)) :
    Renames settings.productAlias
      (installCycle (platform sys.traced) settings (StateT.lift install))
      (installCycle (platform sys) settings install) := by
  have hestablish : ∀ t : BaselineTracker, Quiet (t.establishBaseline (platform sys.traced))
      (t.establishBaseline (platform sys)) :=
    fun t => (quiet_capture sys t.adapterClass).bind fun _ => Quiet.pure _
  refine (hestablish _).bind_renames fun (t, status) => ?_
  cases status with
  | error e => exact Renames.pure _
  | ok status =>
    dsimp only
    cases t.present? status with
    | some a => exact Renames.pure _
    | none =>
      refine (quiet_lift install).bind_renames fun installed => ?_
      cases installed with
      | error e => exact Renames.pure _
      | ok => exact renames_nameNewAdapter sys t

end Runs

/-- With settings that resolve, an installation runs the renaming tool once at most, whatever the
system answers, and gives it the alias of some adapter and the alias of the product.  The command
line that is made of any two such names has the name of the tool and five arguments, the last two of
which are the settings of the old and of the new name as they are, provided that the old name has no
quotation mark in it and no backslash at its end and that no name has a zero character. -/
theorem installCycle_toolRuns {line : CommandLine} {file : ConfigFile} {settings : Settings}
    (hresolved : Settings.resolve line file = .ok settings) {σ : Type} (sys : System (StateM σ))
    (install : StateM σ (Except RunError Unit)) (past : Trace) (s : σ) :
    (∃ made,
      ((installCycle (platform sys.traced) settings (StateT.lift install)).run past).run s =
        ((((installCycle (platform sys) settings install).run s).1, past ++ made),
          ((installCycle (platform sys) settings install).run s).2) ∧
      RenamesOnce settings.productAlias made) ∧
    ∀ aliasName : String, IsQuotable aliasName.toList → '\x00' ∉ aliasName.toList →
      '\x00' ∉ settings.productAlias.toList → ∀ program ∈ programSpellings toolName,
        readCommandLine (commandLine program
          (renameArguments aliasName settings.productAlias)) =
            [toolName, "interface", "set", "interface", "name=" ++ aliasName,
              "newname=" ++ settings.productAlias] :=
  ⟨renames_installCycle sys install past s, fun _ hold hold_zero hnew_zero _ hprogram =>
    readCommandLine_renameArguments hprogram hold (Settings.isQuotable_productAlias hresolved)
      hold_zero hnew_zero⟩

/-- The calls of a host whose renaming tool always does well. -/
def renamingSystem : System (StateM Host) :=
  { Host.system with runTool := fun _ => pure (.exited (.code 0)) }

/-- A host without devices, where a connection has a name with a tab and a line break in it. -/
def hostWithName : Host :=
  { Host.empty with connections := [("{2}", some "a \t\n b")] }

/-- Plugs in the device of this connection. -/
def plugIn : StateM Host (Except RunError Unit) := do
  modify (·.plug ⟨.ofText "TAP-Windows Adapter V9", .missing, some "{2}", none, none, none⟩)
  return .ok ()

/-- By default, the new adapter of an installation is renamed by one run of the tool. -/
theorem installCycle_toolRuns_by_default :
    Settings.resolve .plainInstall .empty = .ok defaultSettings ∧
      IsQuotable "a \t\n b".toList ∧
      (∃ answer made s',
        ((installCycle (platform renamingSystem.traced) defaultSettings
          (StateT.lift plugIn)).run []).run hostWithName = ((answer, made), s') ∧
        RenamesOnce "Mullvad" made ∧ made.toolRuns = [renameArguments "a \t\n b" "Mullvad"]) ∧
      readCommandLine (commandLine "netsh" (renameArguments "a \t\n b" "Mullvad")) =
        ["netsh", "interface", "set", "interface", "name=a \t\n b", "newname=Mullvad"] := by
  have hresolved : Settings.resolve .plainInstall .empty = .ok defaultSettings := rfl
  have hquotable : IsQuotable "a \t\n b".toList := ⟨by decide, by decide⟩
  have hruns : (((installCycle (platform renamingSystem.traced) defaultSettings
      (StateT.lift plugIn)).run []).run hostWithName).1.2.toolRuns =
        [renameArguments "a \t\n b" "Mullvad"] := by decide +kernel
  obtain ⟨⟨made, hrun, hrenames⟩, hread⟩ :=
    installCycle_toolRuns hresolved renamingSystem plugIn [] hostWithName
  rw [hrun] at hruns
  refine ⟨hresolved, hquotable, ⟨_, made, _, hrun, hrenames, hruns⟩, ?_⟩
  exact hread "a \t\n b" hquotable (by decide) (by decide) "netsh" List.mem_cons_self

end Windows

end TapTracker
