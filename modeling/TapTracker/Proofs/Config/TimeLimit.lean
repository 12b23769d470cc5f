import TapTracker.Proofs.CommandLine.InstallerWords
import TapTracker.Proofs.Config.Merge
import TapTracker.Proofs.Config.SettingInPlace
import TapTracker.Proofs.Toml.Integers

/-!
# The time limit of the installer

A time limit is a number of seconds below the 64-bit limit, given in decimal digits on the command
line or as an integer in the configuration file.  `Settings.LimitIs line file n` says that the limit
of a run is `n` seconds, if nothing else hinders the run: none is an error, and all others are
neither cut off nor changed.

On the command line a limit is read with its leading zeros, and refused if it is too large
(`CommandLine.ofWords_limited`, `CommandLine.ofWords_of_readSeconds_eq_none`).  In a file it is what
the setting admits: below the 64-bit limit it is kept (`ConfigFile.ofText_limit`,
`ConfigFile.installTimeout_of_written`), and one that is negative or too large makes the file no
configuration file (`ConfigFile.not_admits_installTimeout`).
-/

namespace TapTracker

/-! ### Settings with a time limit -/

/-- The class, the alias and the signature can be used. -/
structure MergedValues.IsUsable (v : MergedValues) : Prop where
  adapterClass : ∃ cls, AdapterClass.ofPattern v.adapterClass = .ok cls
  productAlias : IsAllowedAlias v.trimmedAlias
  signature : ∃ signature, v.compileSignature = .ok signature

/-- If all else can be used, the settings have the time limit of so many seconds and show it with
all its digits.  There are no settings without any time. -/
def Settings.LimitIs (line : CommandLine) (file : Option ConfigFile) (n : Nat) : Prop :=
  (MergedValues.of line file).IsUsable →
    (n = 0 → resolve line (file.getD .empty) = .error .noTime) ∧
    (n ≠ 0 → ∃ s, resolve line (file.getD .empty) = .ok s ∧ s.installTimeout = n ∧
      s.describe = "Config \x7b class: " ++ s.adapterClass.text ++ ", product_alias: " ++
        s.productAlias ++ ", signature: " ++ s.signature.text ++ ", install_timeout: " ++
        toString n ++ "s, rename: " ++ (if s.rename then "true" else "false") ++ " \x7d")

section Limits

variable {line : CommandLine} {file : Option ConfigFile} {n : Nat}

/-- The merged time limit is the one of the settings. -/
lemma Settings.limitIs_of_merged (h : (MergedValues.of line file).installTimeout = n) :
    LimitIs line file n := by
  rintro ⟨⟨cls, hclass⟩, halias, signature, hsignature⟩
  subst h
  refine ⟨fun hzero => ?_, fun hpositive => ?_⟩
  · exact (Validated.noTime cls hclass halias signature hsignature hzero).resolve_eq
  · exact ⟨_, (Validated.valid cls hclass halias signature hsignature hpositive).resolve_eq, rfl,
      rfl⟩

/-- A time limit on the command line is the one of the settings, whatever the file says. -/
lemma Settings.limitIs_of_line (h : line.installTimeout = some n) (file : Option ConfigFile) :
    LimitIs line file n := by
  refine limitIs_of_merged ?_
  rw [MergedValues.of, h]
  rfl

/-- A time limit in the file is the one of the settings if the command line has none. -/
lemma Settings.limitIs_of_file {file : ConfigFile} (hline : line.installTimeout = none)
    (hfile : file.installTimeout = some n) : LimitIs line (some file) n := by
  refine limitIs_of_merged ?_
  simp only [MergedValues.of, hline, Option.bind_some, hfile, firstGiven]

end Limits

/-! ### On the command line -/

/-- An installation of which nothing but its installer and the time limit is said. -/
def CommandLine.limitedInstall (n : Nat) (installer : List String) : CommandLine :=
  ⟨.install (some n) false installer, none, none, none, none, false⟩

section OnLine

variable {text : String} {installer rest : List String} {n : Nat}

/-- Decimal digits are not taken for an option. -/
lemma isPlain_paddedDecimal (zeros n : Nat) : IsPlain (Text.paddedDecimal zeros n) := by
  refine .inr fun hhead => ?_
  exact absurd (Text.isDigit_paddedDecimal zeros n '-' (List.mem_of_head? hhead)) (by decide)

/-- Decimal digits are a number of seconds if they are below the 64-bit limit. -/
lemma readSeconds_paddedDecimal (zeros n : Nat) :
    readSeconds (Text.paddedDecimal zeros n) = if n < UInt64.size then some n else none := by
  rw [readSeconds]
  split
  next hplus =>
    have hmem : '+' ∈ (Text.paddedDecimal zeros n).toList := hplus ▸ List.mem_cons_self
    exact absurd (Text.isDigit_paddedDecimal zeros n '+' hmem) (by decide)
  next =>
    rw [Text.readDecimal_paddedDecimal, Option.filter_some]
    simp only [decide_eq_true_eq]

/-- An installation without options before its name means what the words after the name say. -/
lemma CommandLine.ofWords_install_cons :
    ofWords ("install" :: rest) =
      (readWithin .install .start rest).map fun t => t.toCommandLine .install (.ofList []) :=
  ofWords_append_word .install .nil ⟨List.nodup_nil, nofun⟩

/-- A number of seconds is the time limit of an installation. -/
lemma CommandLine.ofWords_limited (hplain : IsPlain text) (htext : readSeconds text = some n)
    (hne : installer ≠ []) :
    ofWords ("install" :: "--install-timeout" :: text :: "--" :: installer) =
      .ok (limitedInstall n installer) := by
  have hname : ("install-timeout", OptionName.value .installTimeout) ∈ longSpellings := by decide
  have hwrites : Writes (.within .install) [.value .installTimeout text]
      ["--install-timeout", text] :=
    .append (.apart hname rfl hplain) .nil
  have hformed : AreWellFormed [.value .installTimeout text] :=
    ⟨List.nodup_singleton _, List.forall_mem_singleton.2 ⟨n, htext⟩⟩
  obtain ⟨p, hreads, hp⟩ := hwrites.reads_start hformed
  have htail : readWithin .install .start ("--install-timeout" :: text :: "--" :: installer) =
      .ok ⟨.ofList [.value .installTimeout text], installer⟩ :=
    hreads.readWithin_append.trans (readTrailing_install hp hne)
  have hcommand : Tail.command ⟨.ofList [.value .installTimeout text], installer⟩ .install =
      .install (some n) false installer := by
    rw [← htext]
    rfl
  rw [ofWords_install_cons, htail, limitedInstall, ← hcommand]
  rfl

/-- Anything else is refused as a time limit. -/
lemma CommandLine.ofWords_of_readSeconds_eq_none (hplain : IsPlain text)
    (htext : readSeconds text = none) :
    ofWords ("install" :: "--install-timeout" :: text :: "--" :: installer) =
      .error .valueValidation := by
  have hname : ("install-timeout", OptionName.value .installTimeout) ∈ longSpellings := by decide
  have hmeet : Place.start.readLong (.within .install) "install-timeout" none =
      .ok ⟨.none, some ⟨.installTimeout, none⟩⟩ := by
    unfold Place.readLong
    rw [Scope.long?_of_mem hname rfl]
    rfl
  have hreads : Place.Reads (.within .install) .start ["--install-timeout", text]
      ⟨.none, some ⟨.installTimeout, some text⟩⟩ :=
    .long (ofWord_long hname) hmeet (.value hplain.ofWord rfl (.nil _))
  -- The value is checked when the separator ends the options.
  have hsettle : Place.settle ⟨.none, some ⟨.installTimeout, some text⟩⟩ =
      .error .valueValidation := by
    change Bindings.none.setValue .installTimeout text = _
    rw [Bindings.setValue, ValueOption.check, htext]
    rfl
  have htail : readWithin .install .start ("--install-timeout" :: text :: "--" :: installer) =
      .error .valueValidation := by
    refine hreads.readWithin_append.trans ?_
    change readTrailing .install _ installer = _
    rw [readTrailing, hsettle]
    rfl
  rw [ofWords_install_cons, htail]
  rfl

end OnLine

/-! ### In a file -/

namespace ConfigFile

section InFile

variable {frame : SettingFrame} {file : ConfigFile} {text : String} {v : Toml.Value}
  {entries : List (String × Toml.Value)} {n : Nat}

/-- A time limit in a file can be any number below the 64-bit limit. -/
lemma admits_installTimeout (h : n < UInt64.size) :
    FileSetting.Admits .installTimeout (.integer (Int.ofNat n)) :=
  ⟨n, ⟨Int.natCast_nonneg n, Int.ofNat_lt.2 h⟩, rfl⟩

/-- A time limit in a file can be nothing but a number below the 64-bit limit. -/
lemma not_admits_installTimeout (h : ∀ n < UInt64.size, v ≠ .integer (Int.ofNat n)) :
    ¬ FileSetting.Admits .installTimeout v := by
  rintro ⟨z, ⟨hnonneg, hlt⟩, rfl⟩
  obtain ⟨n, rfl⟩ := Int.eq_ofNat_of_zero_le hnonneg
  exact h n (Int.ofNat_lt.1 hlt) rfl

/-- However a file writes a time limit, it is accepted with this limit if it has the right shape. -/
lemma installTimeout_of_written (hread : Toml.read text = .ok entries)
    (hwritten : FileSetting.installTimeout.written entries = some (.integer (Int.ofNat n)))
    (hshape : HasFileShape entries) :
    ∃ file, ofText text = .ok file ∧ file.installTimeout = some n := by
  obtain ⟨file, hok, hvalues⟩ := exists_ofText_of_shape hread hshape
  exact ⟨file, hok,
    Option.map_injective injective_integer_ofNat ((hvalues .installTimeout).trans hwritten)⟩

/-- The digit one is a way to write the number one. -/
lemma isValueText_one : Toml.IsValueText "1" (.integer (Int.ofNat 1)) :=
  (Toml.isWritten_toString_nat 1).isValueText

/-- The time limit of an accepted file can be any number of seconds below the 64-bit limit. -/
lemma ofText_limit (h : ofText (frame.text .installTimeout "1") = .ok file)
    (hn : n < UInt64.size) :
    ofText (frame.text .installTimeout (toString n)) =
      .ok { file with installTimeout := some n } := by
  obtain ⟨file', hok, hvalues⟩ := SettingFrame.exists_ofText isValueText_one
    (Toml.isWritten_toString_nat n).isValueText h (admits_installTimeout hn)
  have hfile : file' = { file with installTimeout := some n } :=
    ext_value? fun f => (hvalues f).trans (by cases f <;> rfl)
  rw [hok, hfile]

end InFile

end ConfigFile

/-- The time limit of the installer is never cut off or wrapped around.  The decimal digits of a
number on the command line, with any zeros in front of them, are refused from the 64-bit limit on,
and below it they are the time limit, whatever the file says.  In a file that is accepted with one
second, each such number is the time limit of all command lines that have none, and with an integer
that is negative or too large it is no configuration file.  So it is for every layout of a file and
every way to write the number. -/
theorem Settings.installTimeout_exact :
    (∀ (n zeros : Nat) (installer : List String), installer ≠ [] →
      (UInt64.size ≤ n →
        CommandLine.ofWords ("install" :: "--install-timeout" :: Text.paddedDecimal zeros n ::
          "--" :: installer) = .error .valueValidation) ∧
      (n < UInt64.size →
        CommandLine.ofWords ("install" :: "--install-timeout" :: Text.paddedDecimal zeros n ::
          "--" :: installer) = .ok (.limitedInstall n installer) ∧
        ∀ file : Option ConfigFile, LimitIs (.limitedInstall n installer) file n)) ∧
    (∀ (frame : SettingFrame) (file : ConfigFile),
      ConfigFile.ofText (frame.text .installTimeout "1") = .ok file →
      (∀ n < UInt64.size,
        ConfigFile.ofText (frame.text .installTimeout (toString n)) =
          .ok { file with installTimeout := some n } ∧
        ∀ line : CommandLine, line.installTimeout = none →
          LimitIs line (some { file with installTimeout := some n }) n) ∧
      ∀ z : Int, z < 0 ∨ UInt64.size ≤ z → ∃ cause,
        (ConfigFile.ofText (frame.text .installTimeout (toString z))).mapError ConfigError.toml =
          .error (.toml cause)) ∧
    ∀ (text : String) (entries : List (String × Toml.Value)) (v : Toml.Value),
      Toml.read text = .ok entries → FileSetting.installTimeout.written entries = some v →
      (∀ n < UInt64.size, v = .integer (Int.ofNat n) → HasFileShape entries →
        ∃ file, ConfigFile.ofText text = .ok file ∧
          ∀ line : CommandLine, line.installTimeout = none → LimitIs line (some file) n) ∧
      ((∀ n < UInt64.size, v ≠ .integer (Int.ofNat n)) → ∃ cause,
        (ConfigFile.ofText text).mapError ConfigError.toml = .error (.toml cause)) := by
  -- First the command line, then a file that is accepted with one second, then any layout of a
  -- file.
  refine ⟨fun n zeros installer hne => ⟨fun hn => ?_, fun hn => ⟨?_, fun file => ?_⟩⟩,
    fun frame file hfile => ⟨fun n hn => ?_, fun z hz => ?_⟩,
    fun text entries v hread hwritten => ⟨?_, fun hv => ?_⟩⟩
  · have hseconds := readSeconds_paddedDecimal zeros n
    rw [if_neg (Nat.not_lt.2 hn)] at hseconds
    exact CommandLine.ofWords_of_readSeconds_eq_none (isPlain_paddedDecimal zeros n) hseconds
  · have hseconds := readSeconds_paddedDecimal zeros n
    rw [if_pos hn] at hseconds
    exact CommandLine.ofWords_limited (isPlain_paddedDecimal zeros n) hseconds hne
  · exact limitIs_of_line rfl file
  · exact ⟨ConfigFile.ofText_limit hfile hn, fun line hline => limitIs_of_file hline rfl⟩
  · have hv : ∀ n < UInt64.size, Toml.Value.integer z ≠ .integer (Int.ofNat n) := by
      intro n hn heq
      rw [Toml.Value.integer.injEq, Int.ofNat_eq_natCast] at heq
      omega
    obtain ⟨cause, herror⟩ := SettingFrame.exists_error_of_ofText ConfigFile.isValueText_one
      (Toml.isWritten_toString z).isValueText hfile (ConfigFile.not_admits_installTimeout hv)
    exact ⟨cause, by rw [herror]; rfl⟩
  · rintro n - rfl hshape
    obtain ⟨file, hok, hlimit⟩ := ConfigFile.installTimeout_of_written hread hwritten hshape
    exact ⟨file, hok, fun line hline => limitIs_of_file hline hlimit⟩
  · obtain ⟨cause, herror⟩ := ConfigFile.exists_error_of_written hread hwritten
      (ConfigFile.not_admits_installTimeout hv)
    exact ⟨cause, by rw [herror]; rfl⟩

/-- The defaults can be used. -/
lemma MergedValues.isUsable_of_default {v : MergedValues}
    (hclass : v.adapterClass = Defaults.adapterClass)
    (halias : v.productAlias = Defaults.productAlias) (hsignature : v.signature = none) :
    v.IsUsable where
  adapterClass := by
    rw [hclass]
    exact ⟨_, rfl⟩
  productAlias := by
    have hchecked : Settings.checkAlias (Text.trim Defaults.productAlias) =
        .ok Defaults.productAlias := rfl
    rw [trimmedAlias, halias]
    exact (Settings.checkAlias_eq_ok.1 hchecked).2
  signature := by
    rw [compileSignature, hsignature, trimmedAlias, halias]
    exact ⟨_, rfl⟩

/-- A file with an alias, a time limit below a comment, and without the renaming. -/
def SettingFrame.ofAlias : SettingFrame where
  before :=
    [FileSetting.productAlias.headerPart,
     FileSetting.productAlias.valuePart
       (Toml.IsWritten.quoted (s := "Mullvad") (by decide)).isValueText]
  inside := [⟨"# seconds", .nothing, (Toml.IsLine.comment (by decide)).isPart⟩]
  after :=
    [FileSetting.rename.valuePart
       (Toml.IsWritten.word (s := "false") ⟨by decide, by decide⟩ rfl).isValueText]
  inside_stays := by decide

/-- The file with an alias is accepted with a time limit of one second. -/
lemma SettingFrame.ofText_ofAlias :
    ConfigFile.ofText (ofAlias.text .installTimeout "1") =
      .ok ⟨none, some "Mullvad", none, some 1, some false⟩ := by
  rw [ConfigFile.ofText, read_text ConfigFile.isValueText_one]
  rfl

/-- Numbers on both sides of the 64-bit limit on the command line; in a file the largest signed
64-bit number, zero, a negative number, a number in another base, and a value that is no number. -/
theorem Settings.installTimeout_exact_at_bounds :
    CommandLine.ofWords ["install", "--install-timeout", Text.paddedDecimal 2 UInt64.size, "--",
        "setup.exe"] = .error .valueValidation ∧
      (∃ s, CommandLine.ofWords ["install", "--install-timeout",
          Text.paddedDecimal 2 (UInt64.size - 1), "--", "setup.exe"] =
            .ok (.limitedInstall (UInt64.size - 1) ["setup.exe"]) ∧
        resolve (.limitedInstall (UInt64.size - 1) ["setup.exe"]) .empty = .ok s ∧
        s.installTimeout = UInt64.size - 1) ∧
      (∃ file s, ConfigFile.ofText
          (SettingFrame.ofAlias.text .installTimeout (toString 9223372036854775807)) = .ok file ∧
        resolve ⟨.list false, none, none, none, none, false⟩ file = .ok s ∧
        s.installTimeout = 9223372036854775807) ∧
      (∃ file, ConfigFile.ofText (SettingFrame.ofAlias.text .installTimeout (toString 0)) =
          .ok file ∧
        resolve ⟨.list false, none, none, none, none, false⟩ file = .error .noTime) ∧
      (∃ cause, (ConfigFile.ofText (SettingFrame.ofAlias.text .installTimeout
        (toString (-1 : Int)))).mapError ConfigError.toml = .error (.toml cause)) ∧
      (∃ file, ConfigFile.ofText (SettingFrame.ofAlias.text .installTimeout "0x10") = .ok file ∧
        LimitIs ⟨.list false, none, none, none, none, false⟩ (some file) 16) ∧
      ∃ cause, (ConfigFile.ofText (SettingFrame.ofAlias.text .installTimeout "true")).mapError
        ConfigError.toml = .error (.toml cause) := by
  obtain ⟨honLine, hinFile, hwritten⟩ := installTimeout_exact
  obtain ⟨hnumbers, hothers⟩ := hinFile SettingFrame.ofAlias _ SettingFrame.ofText_ofAlias
  have hread {value : String} {v : Toml.Value} (hv : Toml.IsValueText value v) :
      Toml.read (SettingFrame.ofAlias.text .installTimeout value) =
        .ok [("product", .table [("alias", .string "Mullvad")]),
          ("install", .table [("timeout", v), ("rename", .boolean false)])] := by
    rw [SettingFrame.read_text hv]
    rfl
  have hinstaller : ["setup.exe"] ≠ [] := nofun
  refine ⟨(honLine UInt64.size 2 _ hinstaller).1 (by decide), ?_, ?_, ?_,
    hothers (-1) (.inl (by decide)), ?_, ?_⟩
  · obtain ⟨hwords, hlimit⟩ := (honLine (UInt64.size - 1) 2 _ hinstaller).2 (by decide)
    obtain ⟨s, hresolve, hs, -⟩ :=
      (hlimit none (MergedValues.isUsable_of_default rfl rfl rfl)).2 (by decide)
    exact ⟨s, hwords, hresolve, hs⟩
  · obtain ⟨hok, hlimit⟩ := hnumbers 9223372036854775807 (by decide)
    obtain ⟨s, hresolve, hs, -⟩ := (hlimit ⟨.list false, none, none, none, none, false⟩ rfl
      (MergedValues.isUsable_of_default rfl rfl rfl)).2 (by decide)
    exact ⟨_, s, hok, hresolve, hs⟩
  · obtain ⟨hok, hlimit⟩ := hnumbers 0 (by decide)
    exact ⟨_, hok, (hlimit ⟨.list false, none, none, none, none, false⟩ rfl
      (MergedValues.isUsable_of_default rfl rfl rfl)).1 rfl⟩
  · have hsixteen : Toml.IsValueText "0x10" (.integer 16) :=
      (Toml.IsWritten.word ⟨by decide, by decide⟩ rfl).isValueText
    have hentries : ConfigFile.ofEntries [("product", .table [("alias", .string "Mullvad")]),
        ("install", .table [("timeout", .integer 16), ("rename", .boolean false)])] =
          .ok ⟨none, some "Mullvad", none, some 16, some false⟩ := rfl
    have hdistinct := Toml.hasDistinctKeys_of_read (hread hsixteen)
    have hshape := ((ConfigFile.ofEntries_eq_ok_iff hdistinct).1 hentries).1
    obtain ⟨file, hok, hlimit⟩ := (hwritten _ _ _ (hread hsixteen) rfl).1 16 (by decide) rfl hshape
    exact ⟨file, hok, hlimit _ rfl⟩
  · have htrue : Toml.IsValueText "true" (.boolean true) :=
      (Toml.IsWritten.word ⟨by decide, by decide⟩ rfl).isValueText
    exact (hwritten _ _ _ (hread htrue) rfl).2 fun _ _ => nofun

end TapTracker
