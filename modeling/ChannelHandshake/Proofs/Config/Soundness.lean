import ChannelHandshake.Cli.Run
import ChannelHandshake.Proofs.Config.Handshake

/-!
# What a check without errors promises

The check and the commands look for the configuration separately, and a file that is found but
cannot be loaded is an error for the one and passed over by the others. Where the check finds no
error there is no such file, so both have read the same configuration (`inspect_cases`); and its
findings then say that it can be registered and advertised (`advertised_of_lint`).
-/

namespace ChannelHandshake

namespace Config

variable {files : Files} {env : Environment} {path : Option String}

/-- Where the file that is named or found can be loaded, the commands use what it holds. -/
theorem configuration_of_load {file : String} {c : Config}
    (hfile : path.or (find? files env) = some file) (hload : load files env file = .ok c) :
    Cli.configuration files env path = .ok c := by
  cases path with
  | none =>
    rw [Option.none_or] at hfile
    rw [Cli.configuration, discover, hfile]
    dsimp only
    rw [hload]
  | some p =>
    obtain rfl : p = file := by simpa using hfile
    rw [Cli.configuration, hload]
    rfl

/-- Without an error no file was found and the commands use the configuration that says nothing, or
one was loaded and they use what it holds, with which nothing is wrong. -/
theorem inspect_cases (h : hasErrors (inspect files env path).diagnostics = false) :
    (path.or (find? files env) = none ∧ Cli.configuration files env path = .ok .default) ∨
    ∃ file c, path.or (find? files env) = some file ∧ load files env file = .ok c ∧
      inspect files env path = ⟨some file, c.lint⟩ ∧ hasErrors c.lint = false ∧
      Cli.configuration files env path = .ok c := by
  rw [inspect] at h ⊢
  cases hfile : path.or (find? files env) with
  | none =>
    obtain ⟨rfl, hfind⟩ := Option.or_eq_none_iff.1 hfile
    refine .inl ⟨rfl, ?_⟩
    rw [Cli.configuration, discover, hfind]
  | some file =>
    rw [hfile] at h
    dsimp only at h ⊢
    rw [inspectFile] at h ⊢
    cases hload : load files env file with
    | error e =>
      -- the check does not pass over a file that cannot be loaded
      rw [hload] at h
      cases e <;> simp [hasErrors] at h
    | ok c =>
      rw [hload] at h
      exact .inr ⟨file, c, rfl, hload, rfl, h, configuration_of_load hfile hload⟩

/-- What the registry `s` sends of the configuration `c`: in the order of the names one entry for
each channel that is configured, with a name and a version that are not empty; and on either side,
unless that is too large, a peer reads these entries. -/
structure AdvertisedBy (c : Config) (s : State) : Prop where
  pairwise : (s.registry.advertised.map Prod.fst).Pairwise (· < ·)
  perm : (s.registry.advertised.map some).Perm
    (c.channels.map fun d => (nameOf? d).map (·, d.version))
  ne_empty : ∀ name version, (name, version) ∈ s.registry.advertised →
    name.text ≠ "" ∧ version ≠ ""
  decode : ∀ side, (Utf8.encode (s.frame side).1).length ≤ maxPayloadBytes →
    Manifest.decode (Utf8.encode (s.frame side).1) =
      .ok (s.registry.advertised.map fun (name, version) => ⟨name.text, version⟩)

/-- A configuration without errors can be registered and advertised. -/
theorem advertised_of_lint {c : Config} (h : hasErrors c.lint = false) :
    ∃ s, Cli.registryState c = .ok s ∧ c.AdvertisedBy s := by
  have hdeclared := wellDeclared_of_lint h
  obtain ⟨s, hs⟩ := State.configure_of_wellDeclared hdeclared
  have hstate : Cli.registryState c = .ok s := by
    rw [Cli.registryState, hs]
    rfl
  refine ⟨s, hstate, ?_, perm_advertised hs, ?_,
    fun side => decode_frame_of_configure hs hdeclared⟩
  · rw [Registry.map_fst_advertised]
    exact s.registry.pairwise_names
  · intro name version hmem
    obtain ⟨d, hd, -, rfl⟩ := (mem_advertised_iff hs).1 hmem
    exact ⟨name.text_ne_empty, hdeclared.version_ne_empty hd⟩

end Config

/-- Every command but the check runs on the configuration and its registry. -/
theorem Cli.execute_of_state {files : Files} {env : Environment} {path : Option String}
    {c : Config} {s : State} (hc : configuration files env path = .ok c)
    (hs : registryState c = .ok s) (stdin : List UInt8) {command : Command}
    (hcommand : ∀ verbose, command ≠ .checkConfig verbose) :
    execute files env stdin ⟨path, command⟩ =
      match perform files stdin c s command with
      | .ok outcome => outcome
      | .error t => .failed t := by
  cases hperform : perform files stdin c s command with
  | ok outcome =>
    cases command with
    | checkConfig verbose => exact absurd rfl (hcommand verbose)
    | _ => simp only [execute, hc, hs, bind, Except.bind, hperform]
  | error t =>
    cases command with
    | checkConfig verbose => exact absurd rfl (hcommand verbose)
    | _ => simp only [execute, hc, hs, bind, Except.bind, hperform]

/-- A check that succeeds is sound for the other commands. They run on the configuration that was
checked, which says nothing if there is no file, and on its registry, which can be set up and sends
what is configured. -/
theorem check_is_sound (files : Files) (env : Environment) (path : Option String) (verbose : Bool)
    (h : (Cli.checkConfig files env path verbose).status = 0) :
    ∃ c s,
      (match path.or (Config.find? files env) with
        | some file => Config.load files env file = .ok c ∧
            Config.inspect files env path = ⟨some file, c.lint⟩
        | none => c = .default) ∧
      Cli.configuration files env path = .ok c ∧
      Cli.registryState c = .ok s ∧
      (∀ stdin command, (∀ verbose, command ≠ .checkConfig verbose) →
        Cli.execute files env stdin ⟨path, command⟩ =
          match Cli.perform files stdin c s command with
          | .ok outcome => outcome
          | .error t => .failed t) ∧
      c.AdvertisedBy s := by
  have herrors : hasErrors (Config.inspect files env path).diagnostics = false := by
    rw [Cli.checkConfig] at h
    simpa using h
  rcases Config.inspect_cases herrors with
    ⟨hfile, hc⟩ | ⟨file, c, hfile, hload, hinspect, hlint, hc⟩
  · obtain ⟨s, hs, hadvertised⟩ := Config.advertised_of_lint (c := .default) rfl
    rw [hfile]
    exact ⟨.default, s, rfl, hc, hs, fun stdin _ => Cli.execute_of_state hc hs stdin, hadvertised⟩
  · obtain ⟨s, hs, hadvertised⟩ := Config.advertised_of_lint hlint
    rw [hfile]
    exact ⟨c, s, ⟨hload, hinspect⟩, hc, hs, fun stdin _ => Cli.execute_of_state hc hs stdin,
      hadvertised⟩

/-- A file whose second version comes from a placeholder. What is sent lists the second channel
first, and both under their names in full. -/
theorem check_is_sound_for_two_channels :
    let text := "[[channels]]\nname = \"core\"\nversion = \"1\"\n" ++
      "[[channels]]\nname = \"a:b\"\nversion = \"$\x7bV:-2\x7d\"\n"
    let files : Files := fun path =>
      if path = "c" then .ok (.file text.toUTF8.toList) else .error .notFound
    (Cli.checkConfig files [] (some "c") false).status = 0 ∧
      ∃ c s, Cli.configuration files [] (some "c") = .ok c ∧ Cli.registryState c = .ok s ∧
        Manifest.decode (Utf8.encode (s.frame .client).1) =
          .ok [⟨"a:b", "2"⟩, ⟨"netreg:core", "1"⟩] := by
  intro text files
  have hsplit : ∀ sep : String, (sep == "") = false → String.Pos.Raw.get sep 0 ≠ 'c' →
      "c".splitOn sep = ["c"] := by
    intro sep hne hget
    have hother : (String.Pos.Raw.get "c" 0 == String.Pos.Raw.get sep 0) = false := by
      rw [beq_eq_false_iff_ne]
      exact Ne.symm hget
    rw [String.splitOn, hne, if_neg Bool.false_ne_true, String.splitOnAux, if_neg (by decide),
      hother, if_neg Bool.false_ne_true, String.splitOnAux, if_pos (by decide)]
    decide
  have hextension : extension? "c" = none := by
    rw [extension?, fileName?, hsplit "/" (by decide) (by decide)]
    simp [hsplit "." (by decide) (by decide)]
  let config : Config := ⟨.server, .frame, .default,
    [⟨"core", "1", .default, .default, []⟩, ⟨"a:b", "2", .default, .default, []⟩]⟩
  have hload : Config.load files [] "c" = .ok config := by
    have htext : files.readText "c" = .ok text := by
      have hbytes : Utf8.text? text.toUTF8.toList = some text := by decide +kernel
      have hread : files.read "c" = .ok text.toUTF8.toList := rfl
      simp only [Files.readText, hread, bind, Except.bind, hbytes]
      rfl
    have hparse : ConfigFormat.toml.read? (Placeholder.substitute (Environment.value []) text) =
        some config := by decide +kernel
    have hformat : ConfigFormat.extensions.lookup "toml" = some .toml := rfl
    simp only [Config.load, htext, Config.parse, hextension, Option.getD_none, hformat, hparse]
  have hstatus : (Cli.checkConfig files [] (some "c") false).status = 0 := by
    have hlint : hasErrors config.lint = false := by decide +kernel
    simp only [Cli.checkConfig, Config.inspect, Option.some_or, Config.inspectFile, hload, hlint]
    rfl
  obtain ⟨c, s, ⟨hload', -⟩, hc, hs, -, hadvertised⟩ :=
    check_is_sound files [] (some "c") false hstatus
  cases hload.symm.trans hload'
  refine ⟨hstatus, config, s, hc, hs, ?_⟩
  have hentries : Manifest.ofVersions s.registry.advertised =
      [⟨"a:b", "2"⟩, ⟨"netreg:core", "1"⟩] := by
    have hrun : (Cli.registryState config).toOption.map
        (fun s => Manifest.ofVersions s.registry.advertised) =
          some [⟨"a:b", "2"⟩, ⟨"netreg:core", "1"⟩] := by decide +kernel
    rw [hs] at hrun
    exact Option.some.inj hrun
  have hsize : (Utf8.encode (s.frame .client).1).length ≤ maxPayloadBytes := by
    rw [(s.frame_eq .client).1, hentries]
    refine Nat.le_trans (Json.Value.length_encode_render_le _) ?_
    simp only [Manifest.toFrameJson, Manifest.toJson, Entry.toJson, Json.Value.tokens,
      List.map_cons, List.map_nil]
    decide +kernel
  exact (hadvertised.decode .client hsize).trans (congrArg Except.ok hentries)

end ChannelHandshake
