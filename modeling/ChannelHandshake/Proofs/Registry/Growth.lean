import ChannelHandshake.Proofs.Registry.Change
import ChannelHandshake.Proofs.Registry.Lookup

/-!
# How a registry grows

A registry is what the attempts to register have made of it, those of its suppliers and gatherers
included: each attempt that succeeded added one channel, and the channel keeps the name, the
supplier and the tests that it was registered with. One change preserves this (`GrownBy.change`,
`KeptIn.change`), and so it holds after any list of changes (`registry_of_attempts`).
-/

namespace ChannelHandshake

/-! ## Channels that stay -/

/-- `c'` is the channel `c` at a later time: calls of its supplier and runs of its gatherers are
counted and gatherers attached, but nothing else changes. -/
structure Channel.Continues (c c' : Channel) : Prop where
  name_eq : c'.name = c.name
  supplier_eq : c'.supplier = c.supplier
  client_eq : c'.client = c.client
  server_eq : c'.server = c.server

namespace Channel.Continues

theorem refl (c : Channel) : c.Continues c :=
  ⟨rfl, rfl, rfl, rfl⟩

theorem trans {c c' c'' : Channel} (h : c.Continues c') (h' : c'.Continues c'') :
    c.Continues c'' :=
  ⟨h'.name_eq.trans h.name_eq, h'.supplier_eq.trans h.supplier_eq,
    h'.client_eq.trans h.client_eq, h'.server_eq.trans h.server_eq⟩

end Channel.Continues

theorem Channel.perm_insertInto {c : Channel} {channels result : List Channel}
    (h : insertInto c channels = some result) : result.Perm (c :: channels) := by
  fun_induction insertInto c channels generalizing result with
  | case1 =>
    cases h
    exact .refl _
  | case2 d rest hlt =>
    cases h
    exact .refl _
  | case3 => simp at h
  | case4 d rest hlt hne ih =>
    obtain ⟨tail, htail, rfl⟩ := Option.map_eq_some_iff.1 h
    exact ((ih htail).cons d).trans (.swap c d rest)

/-- Every channel of `r` continues in `r'`. -/
def Registry.KeptIn (r r' : Registry) : Prop :=
  ∀ c ∈ r.channels, ∃ c' ∈ r'.channels, c.Continues c'

namespace Registry

theorem KeptIn.refl (r : Registry) : r.KeptIn r :=
  fun c hc => ⟨c, hc, .refl c⟩

theorem KeptIn.trans {r r' r'' : Registry} (h : r.KeptIn r') (h' : r'.KeptIn r'') :
    r.KeptIn r'' := by
  intro c hc
  obtain ⟨c', hc', hcontinues⟩ := h c hc
  obtain ⟨c'', hc'', hcontinues'⟩ := h' c' hc'
  exact ⟨c'', hc'', hcontinues.trans hcontinues'⟩

theorem KeptIn.names_subset {r r' : Registry} (h : r.KeptIn r') : r.names ⊆ r'.names := by
  intro name hname
  obtain ⟨c, hc, rfl⟩ := List.mem_map.1 hname
  obtain ⟨c', hc', hcontinues⟩ := h c hc
  exact List.mem_map.2 ⟨c', hc', hcontinues.name_eq⟩

theorem names_modify (r : Registry) (name : ChannelName) (f : Channel → Channel)
    (hf : ∀ c, (f c).name = c.name) : (r.modify name f hf).names = r.names := by
  rw [names, names, modify, List.map_map]
  refine List.map_congr_left fun c _ => ?_
  simp only [Function.comp_apply]
  split
  · exact hf c
  · rfl

section Modify

variable {r : Registry} {name : ChannelName} {f : Channel → Channel}
  (hf : ∀ c, (f c).name = c.name) (hcontinues : ∀ c : Channel, c.Continues (f c))
include hcontinues

theorem keptIn_modify : r.KeptIn (r.modify name f hf) := by
  intro c hc
  refine ⟨_, List.mem_map_of_mem hc, ?_⟩
  split
  · exact hcontinues c
  · exact .refl c

theorem exists_continues_of_mem_modify {c' : Channel} (h : c' ∈ (r.modify name f hf).channels) :
    ∃ c ∈ r.channels, c.Continues c' := by
  obtain ⟨c, hc, rfl⟩ := List.mem_map.1 h
  refine ⟨c, hc, ?_⟩
  split
  · exact hcontinues c
  · exact .refl c

end Modify

theorem keptIn_insert? {r r' : Registry} {c : Channel} (h : r.insert? c = some r') :
    r.KeptIn r' :=
  fun d hd => ⟨d, (mem_insert? h).2 (.inr hd), .refl d⟩

theorem perm_insert? {r r' : Registry} {c : Channel} (h : r.insert? c = some r') :
    r'.channels.Perm (c :: r.channels) := by
  unfold insert? at h
  split at h
  · rename_i channels hchannels
    cases h
    exact Channel.perm_insertInto hchannels
  · simp at h

theorem size_insert? {r r' : Registry} {c : Channel} (h : r.insert? c = some r') :
    r'.size = r.size + 1 :=
  (perm_insert? h).length_eq

theorem size_eq_length_names (r : Registry) : r.size = r.names.length := by
  rw [size, names, List.length_map]

end Registry

/-! ## Attempts -/

/-- An attempt to register a channel, and what it was told. -/
structure Attempt where
  registration : Registration
  result : Except RegisterError Unit

/-- The channel was registered. -/
def Attempt.succeeded (a : Attempt) : Bool :=
  match a.result with
  | .ok _ => true
  | .error _ => false

/-- The attempt registered a channel under this name. -/
def Attempt.registered (name : ChannelName) (a : Attempt) : Bool :=
  a.succeeded && a.registration.name = name

namespace State

/-- The attempt that a change makes, if it makes one. -/
def attemptsOf (s : State) : Change → List Attempt
  | .register r => [⟨r, (s.register r).1⟩]
  | .attach .. | .supply .. | .gather .. | .note _ => []

theorem attemptsOf_of_target? (s : State) {change : Change} {name : ChannelName}
    (h : change.target? = some name) : s.attemptsOf change = [] := by
  cases change with
  | register r => cases h
  | _ => rfl

/-- The attempts that several changes make, in their order. -/
def attempts : State → List Change → List Attempt
  | _, [] => []
  | s, change :: rest => s.attemptsOf change ++ (s.change change).attempts rest

/-- An attempt finds its name taken and leaves the registry as it is, or adds its channel. -/
theorem register_cases (s : State) (r : Registration) :
    (r.name ∈ s.registry.names ∧ (s.register r).1 = .error (.alreadyRegistered r.name) ∧
      (s.register r).2.registry = s.registry) ∨
    (r.name ∉ s.registry.names ∧ (s.register r).1 = .ok () ∧
      s.registry.insert? (.ofRegistration r) = some (s.register r).2.registry) := by
  have htaken : s.registry.insert? (.ofRegistration r) = none ↔ r.name ∈ s.registry.names :=
    Registry.insert?_eq_none_iff
  rw [register]
  cases hinsert : s.registry.insert? (.ofRegistration r) with
  | none => exact .inl ⟨htaken.1 hinsert, rfl, rfl⟩
  | some registry =>
    refine .inr ⟨fun hmem => ?_, rfl, rfl⟩
    rw [htaken.2 hmem] at hinsert
    simp at hinsert

end State

/-! ## One change -/

theorem Change.continues_update (change : Change) (c : Channel) :
    c.Continues (change.update c) := by
  cases change <;> exact ⟨rfl, rfl, rfl, rfl⟩

theorem Registry.KeptIn.change (s : State) (change : Change) :
    s.registry.KeptIn (s.change change).registry := by
  cases htarget : change.target? with
  | some name =>
    rw [s.registry_change htarget]
    exact keptIn_modify change.name_update change.continues_update
  | none =>
    rcases Change.of_target?_eq_none htarget with ⟨r, rfl⟩ | ⟨write, rfl⟩
    · rcases s.register_cases r with ⟨-, -, hsame⟩ | ⟨-, -, hinsert⟩
      · rw [State.change, hsame]
        exact .refl _
      · exact keptIn_insert? hinsert
    · exact .refl _

/-- The registry `r` is what the attempts `made` have made of an empty one. -/
structure Registry.GrownBy (r : Registry) (made : List Attempt) : Prop where
  /-- A channel is the one that was first registered under its name. -/
  first_of_mem : ∀ c ∈ r.channels, ∃ a, made.find? (Attempt.registered c.name) = some a ∧
    (Channel.ofRegistration a.registration).Continues c
  mem_of_succeeded : ∀ a ∈ made, a.succeeded = true → a.registration.name ∈ r.names
  size_eq : r.size = made.countP Attempt.succeeded

namespace Registry.GrownBy

theorem empty : Registry.empty.GrownBy [] where
  first_of_mem c hc := by simp [Registry.empty] at hc
  mem_of_succeeded a ha := by simp at ha
  size_eq := rfl

variable {r r' : Registry} {made : List Attempt}

/-- Attempts are made by registrations only: any other change keeps the names and continues the
channels. -/
theorem of_continues (h : r.GrownBy made) (hnames : r'.names = r.names)
    (hcontinues : ∀ c' ∈ r'.channels, ∃ c ∈ r.channels, c.Continues c') : r'.GrownBy made where
  first_of_mem c' hc' := by
    obtain ⟨c, hc, hcc'⟩ := hcontinues c' hc'
    obtain ⟨a, hfirst, hac⟩ := h.first_of_mem c hc
    rw [hcc'.name_eq]
    exact ⟨a, hfirst, hac.trans hcc'⟩
  mem_of_succeeded a ha hsucceeded := by
    rw [hnames]
    exact h.mem_of_succeeded a ha hsucceeded
  size_eq := by
    rw [size_eq_length_names, hnames, ← size_eq_length_names, h.size_eq]

theorem modify (h : r.GrownBy made) {name : ChannelName} {f : Channel → Channel}
    (hf : ∀ c, (f c).name = c.name) (hcontinues : ∀ c : Channel, c.Continues (f c)) :
    (r.modify name f hf).GrownBy made :=
  h.of_continues (r.names_modify name f hf) fun _ => exists_continues_of_mem_modify hf hcontinues

theorem conflict (h : r.GrownBy made) {a : Attempt} (ha : a.succeeded = false) :
    r.GrownBy (made ++ [a]) where
  first_of_mem c hc := by
    obtain ⟨first, hfirst, hcontinues⟩ := h.first_of_mem c hc
    exact ⟨first, by rw [List.find?_append, hfirst, Option.some_or], hcontinues⟩
  mem_of_succeeded b hb hsucceeded := by
    rcases List.mem_append.1 hb with hb | hb
    · exact h.mem_of_succeeded b hb hsucceeded
    · rw [List.mem_singleton.1 hb, ha] at hsucceeded
      simp at hsucceeded
  size_eq := by
    rw [h.size_eq, List.countP_append, List.countP_singleton, ha]
    simp

theorem insert (h : r.GrownBy made) {a : Attempt} (ha : a.succeeded = true)
    (hinsert : r.insert? (.ofRegistration a.registration) = some r') :
    r'.GrownBy (made ++ [a]) := by
  have hmem : ∀ x, x ∈ r'.channels ↔ x = .ofRegistration a.registration ∨ x ∈ r.channels :=
    fun x => mem_insert? hinsert
  have hfree : a.registration.name ∉ r.names := by
    intro htaken
    have hnone : r.insert? (.ofRegistration a.registration) = none :=
      insert?_eq_none_iff.2 htaken
    simp [hnone] at hinsert
  refine ⟨?_, ?_, ?_⟩
  · intro c hc
    rcases (hmem c).1 hc with rfl | hc
    · -- the name was free, and so no attempt before has registered it
      have hnone : made.find? (Attempt.registered a.registration.name) = none := by
        rw [List.find?_eq_none]
        intro b hb hregistered
        simp only [Attempt.registered, Bool.and_eq_true, decide_eq_true_eq] at hregistered
        exact hfree (hregistered.2 ▸ h.mem_of_succeeded b hb hregistered.1)
      have hself : Attempt.registered a.registration.name a = true := by
        simp [Attempt.registered, ha]
      refine ⟨a, ?_, .refl _⟩
      rw [Channel.ofRegistration, List.find?_append, hnone, Option.none_or,
        List.find?_cons_of_pos hself]
    · obtain ⟨first, hfirst, hcontinues⟩ := h.first_of_mem c hc
      exact ⟨first, by rw [List.find?_append, hfirst, Option.some_or], hcontinues⟩
  · intro b hb hsucceeded
    rcases List.mem_append.1 hb with hb | hb
    · exact (keptIn_insert? hinsert).names_subset (h.mem_of_succeeded b hb hsucceeded)
    · rw [List.mem_singleton.1 hb]
      exact List.mem_map.2 ⟨_, (hmem _).2 (.inl rfl), rfl⟩
  · rw [size_insert? hinsert, h.size_eq, List.countP_append, List.countP_singleton, ha]
    simp

theorem change {s : State} (h : s.registry.GrownBy made) (change : Change) :
    (s.change change).registry.GrownBy (made ++ s.attemptsOf change) := by
  cases htarget : change.target? with
  | some name =>
    rw [s.registry_change htarget, s.attemptsOf_of_target? htarget, List.append_nil]
    exact h.modify change.name_update change.continues_update
  | none =>
    rcases Change.of_target?_eq_none htarget with ⟨r, rfl⟩ | ⟨write, rfl⟩
    · rcases s.register_cases r with ⟨-, hresult, hsame⟩ | ⟨-, hresult, hinsert⟩
      · rw [State.change, hsame]
        exact h.conflict (by simp [Attempt.succeeded, hresult])
      · exact h.insert (by simp [Attempt.succeeded, hresult]) hinsert
    · rw [State.attemptsOf, List.append_nil]
      exact h

end Registry.GrownBy

/-! ## Many changes -/

theorem Registry.KeptIn.replay (s : State) (changes : List Change) :
    s.registry.KeptIn (s.replay changes).registry := by
  induction changes generalizing s with
  | nil => exact .refl _
  | cons change changes ih => exact (KeptIn.change s change).trans (ih (s.change change))

theorem Registry.GrownBy.replay {s : State} {made : List Attempt} (h : s.registry.GrownBy made)
    (changes : List Change) :
    (s.replay changes).registry.GrownBy (made ++ s.attempts changes) := by
  induction changes generalizing s made with
  | nil => rwa [State.attempts, List.append_nil]
  | cons change changes ih =>
    rw [State.attempts, ← List.append_assoc]
    exact ih (h.change change)

/-- A registry over its life. A run of operations is a list of changes, and wherever it has come
to, inside an operation or between two, some changes have been made. After any changes the channels
stand in the order of their names and are found under these, no channel gets lost, each one has the
supplier and the tests of the attempt that first registered it, and there are as many channels as
attempts succeeded. An attempt to register fails for a taken name only and then changes nothing in
the registry; otherwise it adds its channel and no other. -/
theorem registry_of_attempts :
    (∀ operations : List Operation,
      State.initial.replay (State.initial.runChanges operations) =
        State.initial.run operations) ∧
    ∀ changes : List Change,
      let s := State.initial.replay changes
      let made := State.initial.attempts changes
      (s.registry.names = s.registry.channels.map Channel.name ∧
        s.registry.names.Pairwise (· < ·)) ∧
      (∀ name c, s.registry.find? name = some c ↔ c ∈ s.registry.channels ∧ c.name = name) ∧
      (∀ later : List Change, s.registry.names ⊆ (s.replay later).registry.names ∧
        s.registry.KeptIn (s.replay later).registry) ∧
      (∀ c ∈ s.registry.channels, ∃ a, made.find? (Attempt.registered c.name) = some a ∧
        (Channel.ofRegistration a.registration).Continues c) ∧
      (∀ r : Registration,
        ((s.register r).1 = .error (.alreadyRegistered r.name) ↔ r.name ∈ s.registry.names) ∧
        (r.name ∈ s.registry.names → (s.register r).2.registry = s.registry) ∧
        (r.name ∉ s.registry.names → (s.register r).1 = .ok () ∧
          ∀ c, c ∈ (s.register r).2.registry.channels ↔
            c = .ofRegistration r ∨ c ∈ s.registry.channels)) ∧
      s.registry.size = made.countP Attempt.succeeded ∧
      (s.registry.acceptsVanilla = true ↔ made.countP Attempt.succeeded = 0) := by
  refine ⟨State.initial.replay_runChanges, fun changes => ?_⟩
  intro s made
  have hgrown : s.registry.GrownBy made :=
    Registry.GrownBy.replay (s := State.initial) Registry.GrownBy.empty changes
  refine ⟨⟨rfl, s.registry.pairwise_names⟩,
    fun name c => Registry.find?_eq_some_iff, ?_, hgrown.first_of_mem, ?_, hgrown.size_eq, ?_⟩
  · intro later
    have hkept := Registry.KeptIn.replay s later
    exact ⟨hkept.names_subset, hkept⟩
  · intro r
    rcases s.register_cases r with ⟨htaken, hresult, hsame⟩ | ⟨hfree, hresult, hinsert⟩
    · exact ⟨by simp [hresult, htaken], fun _ => hsame, fun hfree => absurd htaken hfree⟩
    · exact ⟨by simp [hresult, hfree], fun htaken => absurd htaken hfree,
        fun _ => ⟨hresult, fun c => Registry.mem_insert? hinsert⟩⟩
  · rw [Registry.acceptsVanilla, beq_iff_eq, hgrown.size_eq]

end ChannelHandshake
