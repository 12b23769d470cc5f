import TapTracker.Proofs.CommandLine.Wording

/-!
# The words of an installer

After the separator an installation takes every word as it is, whatever it looks like: empty words,
further separators, options and names of commands are all words of the installer.  What the options
before the separator set is settled without a look at these words (`readTrailing_install`).  Without
any word an installation is refused, for lack of its installer (`readTrailing_install_nil`).
-/

namespace TapTracker

section InstallerWords

variable {p : Place} {given : List Binding} {installer : List String}

/-- The words after the separator of an installation are those of its installer. -/
lemma readTrailing_install (hp : p.Holds given) (hne : installer ≠ []) :
    readTrailing .install p installer = .ok ⟨.ofList given, installer⟩ := by
  cases installer with
  | nil => exact absurd rfl hne
  | cons word rest => exact bind_eq_ok.2 ⟨_, hp, rfl⟩

/-- An installation without an installer is refused. -/
lemma readTrailing_install_nil (hp : p.Holds given) :
    readTrailing .install p [] = .error .missingRequiredArgument := by
  rw [readTrailing, show p.settle = _ from hp]
  rfl

end InstallerWords

/-- Well-formed options before and after the name of an installation set its settings, those after
the name winning, and all words after the separator are the installer, as they are.  The settings
are the same for all installers.  With nothing after the separator, and without a separator, the
line is refused because the installer is missing. -/
theorem CommandLine.ofWords_install {front within : List Binding} {before after : List String}
    (hbefore : Writes .front front before) (hfront : AreWellFormed front)
    (hafter : Writes (.within .install) within after) (hwithin : AreWellFormed within) :
    (∀ installer : List String, installer ≠ [] →
      ofWords (before ++ "install" :: (after ++ "--" :: installer)) = .ok
        { command := .install (((Bindings.ofList within).value? .installTimeout).bind readSeconds)
            ((Bindings.ofList within).isOn .noRename) installer
          adapterClass := ((Bindings.ofList within).value? .adapterClass).or
            ((Bindings.ofList front).value? .adapterClass)
          productAlias := ((Bindings.ofList within).value? .productAlias).or
            ((Bindings.ofList front).value? .productAlias)
          signature := ((Bindings.ofList within).value? .signature).or
            ((Bindings.ofList front).value? .signature)
          config := ((Bindings.ofList within).value? .config).or
            ((Bindings.ofList front).value? .config)
          verbose := (Bindings.ofList front).isOn .verbose ||
            (Bindings.ofList within).isOn .verbose }) ∧
    ofWords (before ++ "install" :: (after ++ ["--"])) = .error .missingRequiredArgument ∧
    ofWords (before ++ "install" :: after) = .error .missingRequiredArgument := by
  obtain ⟨p, hreads, hp⟩ := hafter.reads_start hwithin
  -- The words before the two hyphens are read whatever follows, so that the three cases differ by
  -- `rest` only.
  have hline (rest : List String) :
      ofWords (before ++ "install" :: (after ++ rest)) =
        (readWithin .install p rest).map fun t => t.toCommandLine .install (.ofList front) := by
    rw [← hreads.readWithin_append]
    exact ofWords_append_word .install hbefore hfront
  refine ⟨fun installer hne => ?_, ?_, ?_⟩
  · have hread : readWithin .install p ("--" :: installer) = .ok ⟨.ofList within, installer⟩ :=
      readTrailing_install hp hne
    rw [hline, hread]
    rfl
  · have hread : readWithin .install p ["--"] = .error .missingRequiredArgument :=
      readTrailing_install_nil hp
    rw [hline, hread]
    rfl
  · have hread : readWithin .install p [] = .error .missingRequiredArgument :=
      readTrailing_install_nil hp
    rw [← List.append_nil after, hline, hread]
    rfl

/-- Options on both sides of the name, one of them twice, before an installer that looks like more
of them. -/
theorem CommandLine.ofWords_install_of_both_sides :
    Writes .front
        [.switch .verbose, .value .config "a.toml", .value .signature "install"]
        ["-vc", "a.toml", "--signature", "install"] ∧
      Writes (.within .install)
        [.value .installTimeout "60", .value .adapterClass "--x", .switch .noRename,
          .value .config "b.toml"]
        ["--install-timeout=60", "--adapter-class=--x", "--no-rename", "-cb.toml"] ∧
      ofWords
          ["-vc", "a.toml", "--signature", "install", "install", "--install-timeout=60",
            "--adapter-class=--x", "--no-rename", "-cb.toml", "--",
            "--", "", "--verbose", "install", "-cc.toml"] =
        .ok ⟨.install (some 60) true ["--", "", "--verbose", "install", "-cc.toml"], some "--x",
          none, some "install", some "b.toml", true⟩ := by
  have hcluster : WritesOnce .front [.switch .verbose, .value .config "a.toml"]
      ["-vc", "a.toml"] :=
    .cluster (.switch (show ('v', OptionName.switch .verbose) ∈ shortSpellings by decide) rfl
      (.apart (show ('c', OptionName.value .config) ∈ shortSpellings by decide) rfl
        (.inr (by decide))))
  have hsignature : WritesOnce .front [.value .signature "install"] ["--signature", "install"] :=
    .apart (show ("signature", OptionName.value .signature) ∈ longSpellings by decide) rfl
      (.inr (by decide))
  have hfront : AreWellFormed
      [.switch .verbose, .value .config "a.toml", .value .signature "install"] := by
    refine ⟨by decide, ?_⟩
    simp [Binding.Fits]
  have htimeout : WritesOnce (.within .install) [.value .installTimeout "60"]
      ["--install-timeout=60"] :=
    .equals (show ("install-timeout", OptionName.value .installTimeout) ∈ longSpellings by decide)
      rfl "60"
  have hclass : WritesOnce (.within .install) [.value .adapterClass "--x"]
      ["--adapter-class=--x"] :=
    .equals (show ("adapter-class", OptionName.value .adapterClass) ∈ longSpellings by decide)
      rfl "--x"
  have hswitch : WritesOnce (.within .install) [.switch .noRename] ["--no-rename"] :=
    .switch (show ("no-rename", OptionName.switch .noRename) ∈ longSpellings by decide) rfl
  have hattached : WritesOnce (.within .install) [.value .config "b.toml"] ["-cb.toml"] :=
    .cluster (.attached (show ('c', OptionName.value .config) ∈ shortSpellings by decide) rfl
      (show 'b' ≠ '=' by decide))
  have hwithin : AreWellFormed
      [.value .installTimeout "60", .value .adapterClass "--x", .switch .noRename,
        .value .config "b.toml"] := by
    refine ⟨by decide, ?_⟩
    have hseconds : readSeconds "60" = some 60 := by decide
    simp [Binding.Fits, hseconds]
  have hbefore : Writes .front _ _ := .append hcluster (.append hsignature .nil)
  have hafter : Writes (.within .install) _ _ :=
    .append htimeout (.append hclass (.append hswitch (.append hattached .nil)))
  refine ⟨hbefore, hafter, ?_⟩
  exact (ofWords_install hbefore hfront hafter hwithin).1
    ["--", "", "--verbose", "install", "-cc.toml"] nofun

end TapTracker
