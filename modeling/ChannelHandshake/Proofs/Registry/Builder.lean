import ChannelHandshake.Proofs.Registry.RegistrationOrder
import ChannelHandshake.Proofs.Registry.Replay

/-!
# Builders

What a builder registers can be read off the calls made on it: the last supplier, the last test of
either side and all gatherers (`Builder.foldl_set`). To build it is to register a channel without
gatherers and to attach these one after the other (`State.register_eq_attachAll`).

A builder may be built more than once while other things happen to the registry. Each step of such
a use is a list of changes (`Builder.InUse.replay_changes`), so that what is known of changes holds
here too: once the name is taken it stays taken, and every further build fails.
-/

namespace ChannelHandshake

open scoped List

/-! ## What has been set -/

namespace Setting

/-- The supplier that is set. -/
def supplier? : Setting → Option Supplier
  | .supplier value => some value
  | .client _ | .server _ | .gatherer _ => none

/-- The client's test that is set. -/
def client? : Setting → Option VersionTest
  | .client value => some value
  | .supplier _ | .server _ | .gatherer _ => none

/-- The server's test that is set. -/
def server? : Setting → Option VersionTest
  | .server value => some value
  | .supplier _ | .client _ | .gatherer _ => none

/-- The gatherer that is added. -/
def gatherer? : Setting → Option Gatherer
  | .gatherer value => some value
  | .supplier _ | .client _ | .server _ => none

end Setting

/-- The last value of a list is that of the last element which has one. -/
theorem getLast?_filterMap_cons {α β : Type*} (f : α → Option β) (a : α) (rest : List α)
    (before : Option β) :
    ((a :: rest).filterMap f).getLast?.or before =
      (rest.filterMap f).getLast?.or ((f a).or before) := by
  cases ha : f a with
  | none => rw [List.filterMap_cons_none ha, Option.none_or]
  | some b =>
    rw [List.filterMap_cons_some ha, List.getLast?_cons]
    cases (rest.filterMap f).getLast? <;> rfl

namespace Builder

/-- A call replaces what it sets and leaves everything else. -/
theorem set_eq (b : Builder) (setting : Setting) :
    b.set setting =
      { name := b.name
        supplier := setting.supplier?.or b.supplier
        client := setting.client?.or b.client
        server := setting.server?.or b.server
        gatherers := b.gatherers ++ setting.gatherer?.toList } := by
  cases setting <;> simp [set, Setting.supplier?, Setting.client?, Setting.server?,
    Setting.gatherer?]

/-- Of settings that replace each other the last one counts; gatherers stay in the order of the
calls. -/
theorem foldl_set (b : Builder) (settings : List Setting) :
    settings.foldl set b =
      { name := b.name
        supplier := (settings.filterMap Setting.supplier?).getLast?.or b.supplier
        client := (settings.filterMap Setting.client?).getLast?.or b.client
        server := (settings.filterMap Setting.server?).getLast?.or b.server
        gatherers := b.gatherers ++ settings.filterMap Setting.gatherer? } := by
  induction settings generalizing b with
  | nil => simp
  | cons setting rest ih =>
    have hgatherers : (setting :: rest).filterMap Setting.gatherer? =
        setting.gatherer?.toList ++ rest.filterMap Setting.gatherer? := by
      simp only [List.filterMap_eq_flatMap_toList, List.flatMap_cons]
    rw [List.foldl_cons, ih, set_eq, getLast?_filterMap_cons, getLast?_filterMap_cons,
      getLast?_filterMap_cons, hgatherers, List.append_assoc]

/-- What the calls on a new builder have set. -/
theorem foldl_set_named (name : ChannelName) (settings : List Setting) :
    settings.foldl set (named name) =
      { name
        supplier := (settings.filterMap Setting.supplier?).getLast?
        client := (settings.filterMap Setting.client?).getLast?
        server := (settings.filterMap Setting.server?).getLast?
        gatherers := settings.filterMap Setting.gatherer? } := by
  rw [foldl_set]
  simp only [named, Option.or_none, List.nil_append]

end Builder

/-! ## One gatherer after the other -/

/-- To insert a channel changed by `f` is to insert the channel and to change it in the table. -/
theorem Registry.insert?_changed (r : Registry) (c : Channel) {f : Channel → Channel}
    (hf : ∀ c, (f c).name = c.name) :
    r.insert? (f c) = (r.insert? c).map (·.modify c.name f hf) := by
  have htaken : r.insert? (f c) = none ↔ r.insert? c = none := by
    rw [insert?_eq_none_iff, insert?_eq_none_iff, hf]
  cases hc : r.insert? c with
  | none => exact htaken.2 hc
  | some plain =>
    cases hfc : r.insert? (f c) with
    | none =>
      rw [htaken.1 hfc] at hc
      cases hc
    | some changed =>
      have hfree : c.name ∉ r.names := by
        intro hmem
        rw [insert?_eq_none_iff.2 hmem] at hc
        cases hc
      -- no other channel has the name, and so only the new one is changed
      have hothers : (r.channels.map fun d => if d.name = c.name then f d else d) = r.channels := by
        refine (List.map_congr_left fun d hd => if_neg fun hname => ?_).trans (List.map_id' _)
        exact hfree (List.mem_map.2 ⟨d, hd, hname⟩)
      refine congrArg some (eq_of_perm ?_)
      calc changed.channels
        _ ~ f c :: r.channels := perm_insert? hfc
        _ = (c :: r.channels).map fun d => if d.name = c.name then f d else d := by
          rw [List.map_cons, hothers, if_pos rfl]
        _ ~ plain.channels.map fun d => if d.name = c.name then f d else d :=
          ((perm_insert? hc).map _).symm

/-- The channel with more gatherers. -/
def Channel.attachAll (gatherers : List Gatherer) (c : Channel) : Channel :=
  { c with gatherers := c.gatherers ++ gatherers.map .fresh }

namespace State

/-- Attaches gatherers to a channel one after the other. -/
def attachAll (s : State) (name : ChannelName) (gatherers : List Gatherer) : State :=
  gatherers.foldl (fun s g => (s.attach name g).2) s

theorem channels_attachAll (s : State) (name : ChannelName) (gatherers : List Gatherer) :
    (s.attachAll name gatherers).registry.channels =
      s.registry.channels.map fun c => if c.name = name then c.attachAll gatherers else c := by
  induction gatherers generalizing s with
  | nil =>
    have hsame : ∀ c : Channel, (if c.name = name then c.attachAll [] else c) = c := by
      intro c
      rw [Channel.attachAll, List.map_nil, List.append_nil, ite_self]
    rw [List.map_congr_left fun c _ => hsame c, List.map_id']
    rfl
  | cons g rest ih =>
    have hfirst : (s.attach name g).2.registry.channels =
        s.registry.channels.map fun c => if c.name = name then c.attach g else c := rfl
    calc (s.attachAll name (g :: rest)).registry.channels
      _ = ((s.attach name g).2.attachAll name rest).registry.channels := rfl
      _ = s.registry.channels.map fun c =>
          if c.name = name then c.attachAll (g :: rest) else c := by
        rw [ih, hfirst, List.map_map]
        refine List.map_congr_left fun c _ => ?_
        by_cases hc : c.name = name
        · simp [Channel.attach, Channel.attachAll, hc]
        · simp [hc]

/-- Attachments change one channel, and nothing is logged or counted. -/
theorem attachAll_eq (s : State) (name : ChannelName) (gatherers : List Gatherer) :
    s.attachAll name gatherers =
      { s with registry := s.registry.modify name (.attachAll gatherers) fun _ => rfl } := by
  have hjournal : (s.attachAll name gatherers).journal = s.journal := by
    rw [attachAll]
    induction gatherers generalizing s with
    | nil => rfl
    | cons g rest ih => exact ih (s.attach name g).2
  have hregistry : (s.attachAll name gatherers).registry =
      s.registry.modify name (.attachAll gatherers) fun _ => rfl :=
    Registry.eq_of_perm (.of_eq (s.channels_attachAll name gatherers))
  rw [← hregistry, ← hjournal]

/-- To register a channel with gatherers is to register it without and, if that succeeds, to
attach them one after the other. -/
theorem register_eq_attachAll (s : State) (r : Registration) :
    s.register r =
      match s.register { r with gatherers := [] } with
      | (.ok (), s') => (.ok (), s'.attachAll r.name r.gatherers)
      | (.error e, s') => (.error e, s') := by
  have hinsert : s.registry.insert? (.ofRegistration r) =
      (s.registry.insert? (.ofRegistration { r with gatherers := [] })).map
        (·.modify r.name (.attachAll r.gatherers) fun _ => rfl) :=
    s.registry.insert?_changed (.ofRegistration { r with gatherers := [] })
      (f := .attachAll r.gatherers) fun _ => rfl
  rw [register, hinsert, register]
  cases s.registry.insert? (.ofRegistration { r with gatherers := [] }) with
  | none => rfl
  | some registry =>
    have hsize : (registry.modify r.name (.attachAll r.gatherers) fun _ => rfl).size =
        registry.size := List.length_map _
    simp only [Option.map_some, attachAll_eq, hsize]

end State

/-! ## Building -/

namespace Builder

theorem build_of_supplier (b : Builder) (s : State) (h : b.supplier = none) :
    b.build s = (.error (.incomplete b.name .supplier), s) := by
  rw [build, registration, h]

theorem build_of_client (b : Builder) (s : State) (hsupplier : b.supplier ≠ none)
    (h : b.client = none) :
    b.build s = (.error (.incomplete b.name .clientTest), s) := by
  obtain ⟨supplier, hsupplier⟩ := Option.ne_none_iff_exists'.1 hsupplier
  rw [build, registration, hsupplier, h]

theorem build_of_server (b : Builder) (s : State) (hsupplier : b.supplier ≠ none)
    (hclient : b.client ≠ none) (h : b.server = none) :
    b.build s = (.error (.incomplete b.name .serverTest), s) := by
  obtain ⟨supplier, hsupplier⟩ := Option.ne_none_iff_exists'.1 hsupplier
  obtain ⟨client, hclient⟩ := Option.ne_none_iff_exists'.1 hclient
  rw [build, registration, hsupplier, hclient, h]

/-- Nothing is missing. -/
theorem registration_of_complete {b : Builder} {supplier : Supplier} {client server : VersionTest}
    (hsupplier : b.supplier = some supplier) (hclient : b.client = some client)
    (hserver : b.server = some server) :
    b.registration = .ok ⟨b.name, supplier, client, server, b.gatherers⟩ := by
  rw [registration, hsupplier, hclient, hserver]

/-- What a builder registers has its name and its gatherers. -/
theorem of_registration_eq_ok {b : Builder} {r : Registration} (h : b.registration = .ok r) :
    r.name = b.name ∧ r.gatherers = b.gatherers := by
  rw [registration] at h
  split at h <;> cases h
  exact ⟨rfl, rfl⟩

/-- A build fails and leaves the registry as it is, or it succeeds and adds the channel under a
name that was free. -/
theorem build_cases (b : Builder) (s : State) :
    ((∃ e, (b.build s).1 = .error e) ∧ (b.build s).2.registry = s.registry) ∨
    (b.name ∉ s.registry.names ∧ (b.build s).1 = .ok () ∧
      ∃ r, b.registration = .ok r ∧
        (b.build s).2.registry.find? b.name = some (.ofRegistration r)) := by
  rw [build]
  cases hr : b.registration with
  | error e => exact .inl ⟨⟨e, rfl⟩, rfl⟩
  | ok r =>
    have hname : r.name = b.name := (of_registration_eq_ok hr).1
    rcases s.register_cases r with ⟨-, hresult, hsame⟩ | ⟨hfree, hresult, hinsert⟩
    · exact .inl ⟨⟨_, hresult⟩, hsame⟩
    · refine .inr ⟨hname ▸ hfree, hresult, r, rfl, ?_⟩
      exact Registry.find?_eq_some_iff.2 ⟨(Registry.mem_insert? hinsert).2 (.inl rfl), hname⟩

theorem build_of_taken {b : Builder} {s : State} (h : b.name ∈ s.registry.names) :
    (∃ e, (b.build s).1 = .error e) ∧ (b.build s).2.registry = s.registry := by
  rcases b.build_cases s with hfail | ⟨hfree, -⟩
  · exact hfail
  · exact absurd h hfree

/-! ## Builders in use -/

/-- What happens while a builder is in use. -/
inductive Step where
  /-- A call on the builder. -/
  | set (setting : Setting)
  | build
  /-- Something else changes the registry. -/
  | change (change : Change)

namespace Step

/-- The call on the builder that the step is. -/
def setting? : Step → Option Setting
  | .set setting => some setting
  | .build | .change _ => none

/-- The gatherer that the step attaches to the channel `name`. -/
def attachment? (name : ChannelName) : Step → Option Gatherer
  | .change made => made.attachment? name
  | .set _ | .build => none

end Step

/-- A builder, the registry that it is for, and what its builds have returned so far. -/
structure InUse where
  builder : Builder
  state : State
  results : List (Except RegisterError Unit)

namespace InUse

/-- A new builder. -/
def start (s : State) (name : ChannelName) : InUse :=
  ⟨.named name, s, []⟩

/-- The builder and its registry after a step. -/
def step (u : InUse) : Step → InUse
  | .set setting => { u with builder := u.builder.set setting }
  | .build =>
    let (result, state) := u.builder.build u.state
    { u with state, results := u.results ++ [result] }
  | .change change => { u with state := u.state.change change }

/-- The builder and its registry after several steps. -/
def run (u : InUse) (steps : List Step) : InUse :=
  steps.foldl step u

/-- Only calls on the builder change it. -/
theorem builder_run (u : InUse) (steps : List Step) :
    (u.run steps).builder = (steps.filterMap Step.setting?).foldl set u.builder := by
  induction steps generalizing u with
  | nil => rfl
  | cons step steps ih => cases step <;> exact ih _

theorem name_builder_run (u : InUse) (steps : List Step) :
    (u.run steps).builder.name = u.builder.name := by
  rw [builder_run, foldl_set]

/-- An operation is a step for each of its changes. -/
theorem run_map_change (u : InUse) (changes : List Change) :
    u.run (changes.map .change) = { u with state := u.state.replay changes } := by
  induction changes generalizing u with
  | nil => rfl
  | cons change changes ih => exact ih (u.step (.change change))

/-- The changes that a step makes. -/
def changesOf (u : InUse) : Step → List Change
  | .set _ => []
  | .build => u.state.changes (.build u.builder)
  | .change change => [change]

/-- The changes that several steps make. -/
def changes : InUse → List Step → List Change
  | _, [] => []
  | u, step :: rest => u.changesOf step ++ (u.step step).changes rest

theorem replay_changesOf (u : InUse) (step : Step) :
    u.state.replay (u.changesOf step) = (u.step step).state := by
  cases step with
  | set setting => rfl
  | build => exact u.state.replay_changes (.build u.builder)
  | change change => rfl

theorem replay_changes (u : InUse) (steps : List Step) :
    u.state.replay (u.changes steps) = (u.run steps).state := by
  induction steps generalizing u with
  | nil => rfl
  | cons step steps ih =>
    rw [changes, State.replay_append, replay_changesOf]
    exact ih (u.step step)

/-- A build attaches nothing. -/
theorem attachments_changesOf (u : InUse) (name : ChannelName) (step : Step) :
    (u.changesOf step).filterMap (Change.attachment? name) =
      (step.attachment? name).toList := by
  cases step with
  | set setting => exact List.filterMap_nil
  | build =>
    rw [changesOf, State.changes]
    cases u.builder.registration <;> simp [Change.attachment?, Step.attachment?]
  | change change =>
    rw [changesOf, Step.attachment?, List.filterMap_eq_flatMap_toList, List.flatMap_singleton]

theorem attachments_changes (u : InUse) (name : ChannelName) (steps : List Step) :
    (u.changes steps).filterMap (Change.attachment? name) =
      steps.filterMap (Step.attachment? name) := by
  induction steps generalizing u with
  | nil => rfl
  | cons step steps ih =>
    rw [changes, List.filterMap_append, attachments_changesOf, ih]
    simp only [List.filterMap_eq_flatMap_toList, List.flatMap_cons]

/-- What is found under the builder's name stays, with the gatherers attached to it since. -/
theorem find?_run {u : InUse} {c : Channel}
    (hc : u.state.registry.find? u.builder.name = some c) (since : List Step) :
    ∃ c', (u.run since).state.registry.find? u.builder.name = some c' ∧ c.Continues c' ∧
      c'.attached = c.attached ++ since.filterMap (Step.attachment? u.builder.name) := by
  have hname : c.name = u.builder.name := (Registry.find?_eq_some_iff.1 hc).2
  have hfound : (u.run since).state.registry.find? u.builder.name =
      some (c.afterChanges (u.changes since)) := by
    rw [← replay_changes]
    exact State.find?_replay hc _
  refine ⟨_, hfound, c.continues_afterChanges _, ?_⟩
  rw [Channel.attached_afterChanges_eq, hname, attachments_changes]

/-- A name that is taken stays taken. -/
theorem names_step_subset (u : InUse) (step : Step) :
    u.state.registry.names ⊆ (u.step step).state.registry.names := by
  rw [← replay_changesOf]
  exact (Registry.KeptIn.replay u.state _).names_subset

/-- No build has succeeded, or one has and the builder's name is taken. -/
structure BuiltOnce (u : InUse) : Prop where
  count_le : u.results.countP Except.isOk ≤ 1
  taken : 0 < u.results.countP Except.isOk → u.builder.name ∈ u.state.registry.names

theorem BuiltOnce.step {u : InUse} (h : u.BuiltOnce) (step : Step) : (u.step step).BuiltOnce := by
  have hkept := u.names_step_subset step
  -- only a build adds a result, and only to a name that is free is it a success
  cases step with
  | set setting =>
    refine ⟨h.count_le, fun hpos => ?_⟩
    rw [InUse.step, set_eq]
    exact h.taken hpos
  | change change => exact ⟨h.count_le, fun hpos => hkept (h.taken hpos)⟩
  | build =>
    have hcount : (u.step .build).results.countP Except.isOk =
        u.results.countP Except.isOk + [(u.builder.build u.state).1].countP Except.isOk :=
      List.countP_append
    rcases u.builder.build_cases u.state with ⟨⟨e, he⟩, -⟩ | ⟨hfree, hok, r, -, hfound⟩
    · have hsame : (u.step .build).results.countP Except.isOk =
          u.results.countP Except.isOk := by
        rw [hcount, he]
        rfl
      refine ⟨hsame ▸ h.count_le, fun hpos => hkept (h.taken ?_)⟩
      rwa [← hsame]
    · -- the name was free, and so no build has succeeded before
      have hnone : u.results.countP Except.isOk = 0 := by
        rcases Nat.eq_zero_or_pos (u.results.countP Except.isOk) with hzero | hpos
        · exact hzero
        · exact absurd (h.taken hpos) hfree
      constructor
      · rw [hcount, hnone, hok]
        exact Nat.le_refl 1
      · intro _
        obtain ⟨hmem, hname⟩ := Registry.find?_eq_some_iff.1 hfound
        exact List.mem_map.2 ⟨_, hmem, hname⟩

theorem builtOnce_run {u : InUse} (h : u.BuiltOnce) (steps : List Step) :
    (u.run steps).BuiltOnce := by
  induction steps generalizing u with
  | nil => exact h
  | cons step steps ih => exact ih (h.step step)

theorem builtOnce_start (s : State) (name : ChannelName) : (start s name).BuiltOnce :=
  ⟨Nat.zero_le 1, fun hpos => absurd hpos (Nat.lt_irrefl 0)⟩

end InUse

end Builder

/-- Building is registering. What a builder has been given are the last supplier, the last test of
either side and all gatherers. If one of the first three is missing, the first missing one is named
and nothing happens, whether the name is taken or not; otherwise a build returns and leaves what the
registration without gatherers does, with the gatherers then attached one after the other if it
succeeds. Of all builds of a builder, whatever happens between them, at most one succeeds. A build
that fails leaves the registry as it is; one that succeeds adds the channel with the gatherers that
the builder has. Once the name is taken every build fails, and the channel keeps its supplier, its
tests and its gatherers, followed by those attached to it since, none of which gets into the
builder. -/
theorem build_as_registration :
    (∀ (s : State) (name : ChannelName) (settings : List Setting),
      let b := settings.foldl Builder.set (.named name)
      let supplier := (settings.filterMap Setting.supplier?).getLast?
      let client := (settings.filterMap Setting.client?).getLast?
      let server := (settings.filterMap Setting.server?).getLast?
      let gatherers := settings.filterMap Setting.gatherer?
      (supplier = none → b.build s = (.error (.incomplete name .supplier), s)) ∧
      (supplier ≠ none → client = none →
        b.build s = (.error (.incomplete name .clientTest), s)) ∧
      (supplier ≠ none → client ≠ none → server = none →
        b.build s = (.error (.incomplete name .serverTest), s)) ∧
      ∀ v c t, supplier = some v → client = some c → server = some t →
        b.build s =
          match s.register ⟨name, v, c, t, []⟩ with
          | (.ok (), s') => (.ok (), s'.attachAll name gatherers)
          | (.error e, s') => (.error e, s')) ∧
    (∀ (u : Builder.InUse) (operations : List Operation),
      u.run ((u.state.runChanges operations).map .change) =
        { u with state := u.state.run operations }) ∧
    ∀ (s : State) (name : ChannelName) (steps : List Builder.Step),
      let u := (Builder.InUse.start s name).run steps
      u.builder = (steps.filterMap Builder.Step.setting?).foldl Builder.set (.named name) ∧
      u.results.countP Except.isOk ≤ 1 ∧
      (∀ e, (u.builder.build u.state).1 = .error e →
        (u.builder.build u.state).2.registry = u.state.registry) ∧
      ((u.builder.build u.state).1 = .ok () →
        ∃ r, u.builder.registration = .ok r ∧ r.gatherers = u.builder.gatherers ∧
          (u.builder.build u.state).2.registry.find? name = some (.ofRegistration r)) ∧
      ∀ c, u.state.registry.find? name = some c → ∀ since : List Builder.Step,
        let u' := u.run since
        (∃ e, (u'.builder.build u'.state).1 = .error e) ∧
        ∃ c', (u'.builder.build u'.state).2.registry.find? name = some c' ∧ c.Continues c' ∧
          c'.attached = c.attached ++ since.filterMap (Builder.Step.attachment? name) := by
  refine ⟨?_, ?_, ?_⟩
  · intro s name settings b supplier client server gatherers
    have hb : b = ⟨name, supplier, client, server, gatherers⟩ :=
      Builder.foldl_set_named name settings
    rw [hb]
    refine ⟨?_, ?_, ?_, ?_⟩
    · exact Builder.build_of_supplier ⟨name, supplier, client, server, gatherers⟩ s
    · exact Builder.build_of_client ⟨name, supplier, client, server, gatherers⟩ s
    · exact Builder.build_of_server ⟨name, supplier, client, server, gatherers⟩ s
    · intro v c t hv hc ht
      rw [Builder.build, Builder.registration_of_complete hv hc ht]
      exact s.register_eq_attachAll _
  · intro u operations
    rw [Builder.InUse.run_map_change, State.replay_runChanges]
  · intro s name steps u
    have hname : u.builder.name = name := Builder.InUse.name_builder_run _ steps
    refine ⟨Builder.InUse.builder_run _ steps, ?_, ?_, ?_, ?_⟩
    · exact (Builder.InUse.builtOnce_run (Builder.InUse.builtOnce_start s name) steps).count_le
    · intro e he
      rcases u.builder.build_cases u.state with ⟨-, hsame⟩ | ⟨-, hok, -⟩
      · exact hsame
      · rw [hok] at he
        cases he
    · intro hok
      rcases u.builder.build_cases u.state with ⟨⟨e, he⟩, -⟩ | ⟨-, -, r, hr, hfound⟩
      · rw [he] at hok
        cases hok
      · exact ⟨r, hr, (Builder.of_registration_eq_ok hr).2, hname ▸ hfound⟩
    · intro c hc since u'
      rw [← hname] at hc
      obtain ⟨c', hc', hcontinues, hgatherers⟩ := Builder.InUse.find?_run hc since
      have hname' : u'.builder.name = u.builder.name := u.name_builder_run since
      have htaken : u'.builder.name ∈ u'.state.registry.names := by
        obtain ⟨hmem, hfound⟩ := Registry.find?_eq_some_iff.1 hc'
        exact List.mem_map.2 ⟨c', hmem, hfound.trans hname'.symm⟩
      obtain ⟨hfail, hsame⟩ := Builder.build_of_taken htaken
      refine ⟨hfail, c', ?_, hcontinues, hname ▸ hgatherers⟩
      rw [hsame, ← hname]
      exact hc'

end ChannelHandshake
