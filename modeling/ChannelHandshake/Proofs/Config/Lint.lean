import ChannelHandshake.Config.Lint

/-!
# What a check without errors establishes

Each lemma reads the silence of one check as the rule that it decides. Put together by induction on
the file, they say of a configuration without errors that its names are distinct names and its
versions can be advertised (`wellDeclared_of_lint`), and of one without a warning about the version
of absence that no policy lists it (`absent_not_mem_versions`).
-/

namespace ChannelHandshake

theorem hasErrors_append {before after : List Diagnostic} :
    hasErrors (before ++ after) = false ↔
      hasErrors before = false ∧ hasErrors after = false := by
  rw [hasErrors, List.any_append, Bool.or_eq_false_iff]
  rfl

/-- The policy for the version of a peer, on `side`. -/
def ChannelConfig.policyFor (c : ChannelConfig) : Side → AcceptPolicy
  | .client => c.client
  | .server => c.server

namespace Config

theorem nameOf?_eq_some_iff {c : ChannelConfig} {name : ChannelName} :
    nameOf? c = some name ↔ ChannelName.parse c.name = .ok name := by
  rw [nameOf?]
  cases ChannelName.parse c.name <;> simp [Except.toOption]

/-- Channels that come after channels with the names `before`, and that can all be registered and
advertised. -/
inductive WellDeclared : List (Option ChannelName) → List ChannelConfig → Prop
  | nil (before : List (Option ChannelName)) : WellDeclared before []
  | cons {before : List (Option ChannelName)} {c : ChannelConfig} {rest : List ChannelConfig}
    {name : ChannelName} (hname : ChannelName.parse c.name = .ok name) (hnew : some name ∉ before)
    (hempty : c.version ≠ "") (habsent : c.version ≠ absent)
    (hrest : WellDeclared (before ++ [some name]) rest) : WellDeclared before (c :: rest)

theorem hasErrors_lintName_iff {before : List (Option ChannelName)} {c : ChannelConfig}
    {place : String} :
    hasErrors (lintName before c place) = false ↔
      ∃ name, ChannelName.parse c.name = .ok name ∧ some name ∉ before := by
  rw [lintName]
  cases hparse : ChannelName.parse c.name with
  | error error => simp [hasErrors]
  | ok name =>
    dsimp only
    cases hindex : before.idxOf? (some name) with
    | none =>
      rw [List.idxOf?_eq_none_iff] at hindex
      simp [hasErrors, hindex]
    | some first =>
      have hmem : some name ∈ before := by
        rw [← List.isSome_idxOf?, hindex]
        rfl
      simp [hasErrors, hmem]

theorem hasErrors_lintVersion_iff {c : ChannelConfig} {place : String} :
    hasErrors (lintVersion c place) = false ↔ c.version ≠ "" ∧ c.version ≠ absent := by
  rw [lintVersion]
  split
  · simp [hasErrors, *]
  · split <;> simp [hasErrors, *]

theorem wellDeclared_of_lintChannels {side : Side} {before : List (Option ChannelName)}
    {channels : List ChannelConfig} (h : hasErrors (lintChannels side before channels) = false) :
    WellDeclared before channels := by
  induction channels generalizing before with
  | nil => exact .nil before
  | cons c rest ih =>
    rw [lintChannels, lintChannel] at h
    simp only [hasErrors_append] at h
    obtain ⟨⟨⟨⟨⟨hname, hversion⟩, -⟩, -⟩, -⟩, hrest⟩ := h
    obtain ⟨name, hname, hnew⟩ := hasErrors_lintName_iff.1 hname
    obtain ⟨hempty, habsent⟩ := hasErrors_lintVersion_iff.1 hversion
    refine .cons hname hnew hempty habsent ?_
    rw [nameOf?_eq_some_iff.2 hname] at hrest
    exact ih hrest

/-- A configuration without errors can be registered and advertised. -/
theorem wellDeclared_of_lint {c : Config} (h : hasErrors c.lint = false) :
    WellDeclared [] c.channels := by
  rw [lint] at h
  split at h
  · rename_i hnil
    rw [List.isEmpty_iff.1 hnil]
    exact .nil []
  · exact wellDeclared_of_lintChannels h

namespace WellDeclared

variable {before : List (Option ChannelName)} {channels : List ChannelConfig} {c : ChannelConfig}

theorem of_mem (h : WellDeclared before channels) (hc : c ∈ channels) :
    (∃ name, ChannelName.parse c.name = .ok name) ∧ c.version ≠ "" ∧ c.version ≠ absent := by
  induction h with
  | nil => simp at hc
  | @cons before d rest name hname _ hempty habsent _ ih =>
    rcases List.mem_cons.1 hc with rfl | hmem
    · exact ⟨⟨name, hname⟩, hempty, habsent⟩
    · exact ih hmem

theorem exists_name (h : WellDeclared before channels) (hc : c ∈ channels) :
    ∃ name, ChannelName.parse c.name = .ok name :=
  (h.of_mem hc).1

theorem version_ne_empty (h : WellDeclared before channels) (hc : c ∈ channels) :
    c.version ≠ "" :=
  (h.of_mem hc).2.1

theorem version_ne_absent (h : WellDeclared before channels) (hc : c ∈ channels) :
    c.version ≠ absent :=
  (h.of_mem hc).2.2

end WellDeclared

/-- The findings about a channel are among those about all of them. -/
theorem exists_lintChannel_subset (side : Side) {channels : List ChannelConfig}
    {c : ChannelConfig} (hc : c ∈ channels) (before : List (Option ChannelName)) :
    ∃ before', lintChannel side before' c ⊆ lintChannels side before channels := by
  induction channels generalizing before with
  | nil => simp at hc
  | cons d rest ih =>
    rw [lintChannels]
    rcases List.mem_cons.1 hc with rfl | hmem
    · exact ⟨before, List.subset_append_left _ _⟩
    · obtain ⟨before', hsubset⟩ := ih hmem (before ++ [nameOf? d])
      exact ⟨before', fun _ hx => List.mem_append_right _ (hsubset hx)⟩

theorem exists_lintChannel_subset_lint {c : Config} {x : ChannelConfig} (hx : x ∈ c.channels) :
    ∃ before, lintChannel c.side before x ⊆ c.lint := by
  have hne : c.channels.isEmpty = false := by
    rw [List.isEmpty_eq_false_iff]
    exact List.ne_nil_of_mem hx
  obtain ⟨before, hsubset⟩ := exists_lintChannel_subset c.side hx []
  refine ⟨before, ?_⟩
  rw [lint, hne, if_neg Bool.false_ne_true]
  exact hsubset

/-- The findings about the policy of a side are among those about its channel. -/
theorem lintPolicy_subset_lintChannel (side : Side) (before : List (Option ChannelName))
    (c : ChannelConfig) (side' : Side) :
    lintPolicy (c.policyFor side') (channelPath before.length ++ "." ++ side'.text) ⊆
      lintChannel side before c := by
  rw [lintChannel, String.append_assoc]
  cases side' with
  | client =>
    intro d hd
    exact List.mem_append_left _ (List.mem_append_left _ (List.mem_append_right _ hd))
  | server =>
    intro d hd
    exact List.mem_append_left _ (List.mem_append_right _ hd)

theorem mem_lintPolicy_of_absent {p : AcceptPolicy} (h : absent ∈ p.versions) (place : String) :
    ∃ d ∈ lintPolicy p place, d.severity = .warning ∧ d.category = .reserved := by
  rw [lintPolicy, if_pos h]
  exact ⟨_, List.mem_append_left _ (List.mem_append_left _ List.mem_cons_self), rfl, rfl⟩

/-- No policy lists absence as a version if no finding warns of it. -/
theorem absent_not_mem_versions {c : Config}
    (h : ∀ d ∈ c.lint, d.severity = .warning → d.category ≠ .reserved) {x : ChannelConfig}
    (hx : x ∈ c.channels) (side : Side) : absent ∉ (x.policyFor side).versions := by
  obtain ⟨before, hchannel⟩ := exists_lintChannel_subset_lint hx
  have hpolicy := lintPolicy_subset_lintChannel c.side before x side
  intro habsent
  obtain ⟨d, hd, hseverity, hcategory⟩ := mem_lintPolicy_of_absent habsent _
  exact h d (hchannel (hpolicy hd)) hseverity hcategory

end Config

end ChannelHandshake
