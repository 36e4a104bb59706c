import ChannelHandshake.Proofs.Registry.RegistrationOrder

/-!
# The check foretells what is gathered

The check decodes each payload of a configuration and reports those whose data denotes no bytes. The
gatherer of a channel decodes them only when it runs, and gives up at the first that it cannot
decode. Both look at the same payloads, so a channel sends all of its payloads if the check reports
none of them, and otherwise nothing, however often its gatherer has run
(`payloadFindings_eq_nil_iff`, `contribution_eq`).
-/

namespace ChannelHandshake

/-! ## Channels and their findings -/

/-- A channel of a configuration, with its name and its number. -/
structure PlacedChannel where
  name : ChannelName
  config : ChannelConfig
  index : Nat

namespace Config

/-- The channels that have names, in the order of the names. -/
def inOrder (c : Config) : List PlacedChannel :=
  (c.channels.zipIdx.filterMap fun (d, i) => (nameOf? d).map (⟨·, d, i⟩)).mergeSort
    fun x y => ChannelName.le x.name y.name

/-- The findings about the payloads of channel number `i`. -/
def payloadFindings (c : Config) (i : Nat) : List Diagnostic :=
  (c.lint.filter (·.category == .payload)).filter fun d =>
    (channelPath i).toList.isPrefixOf d.path.toList

/-- The findings about the payloads of a channel, in their order. -/
def payloadErrors (c : ChannelConfig) (place : String) : List Diagnostic :=
  c.loginPayloads.zipIdx.flatMap fun (p, j) =>
    lintPayload p (place ++ ".login_payloads[" ++ toString j ++ "]")

theorem category_lintName {before : List (Option ChannelName)} {c : ChannelConfig}
    {place : String} {d : Diagnostic} (h : d ∈ lintName before c place) :
    d.category ≠ .payload := by
  grind [lintName]

theorem category_lintVersion {c : ChannelConfig} {place : String} {d : Diagnostic}
    (h : d ∈ lintVersion c place) : d.category ≠ .payload := by
  grind [lintVersion]

theorem category_lintPolicy {p : AcceptPolicy} {place : String} {d : Diagnostic}
    (h : d ∈ lintPolicy p place) : d.category ≠ .payload := by
  grind [lintPolicy]

theorem category_lintPayload {p : PayloadConfig} {place : String} {d : Diagnostic}
    (h : d ∈ lintPayload p place) : d.category = .payload := by
  grind [lintPayload]

/-- Only undecodable payloads make findings about payloads. -/
theorem filter_lintChannel (side : Side) (before : List (Option ChannelName))
    (c : ChannelConfig) :
    (lintChannel side before c).filter (·.category == .payload) =
      payloadErrors c (channelPath before.length) := by
  have hnone : ∀ findings : List Diagnostic, (∀ d ∈ findings, d.category ≠ .payload) →
      findings.filter (·.category == .payload) = [] := by
    intro findings h
    rw [List.filter_eq_nil_iff]
    intro d hd
    simpa using h d hd
  have hpayloads : ∀ place, (lintPayloads side c place).filter (·.category == .payload) =
      payloadErrors c place := by
    intro place
    rw [lintPayloads, List.filter_append, hnone _ (by grind), List.nil_append,
      List.filter_eq_self.2]
    · rfl
    · intro d hd
      obtain ⟨⟨p, j⟩, -, hd⟩ := List.mem_flatMap.1 hd
      simpa using category_lintPayload hd
  rw [lintChannel]
  simp only [List.filter_append]
  rw [hnone _ fun _ => category_lintName, hnone _ fun _ => category_lintVersion,
    hnone _ fun _ => category_lintPolicy, hnone _ fun _ => category_lintPolicy, hpayloads]
  rfl

theorem filter_lint (c : Config) :
    c.lint.filter (·.category == .payload) =
      c.channels.zipIdx.flatMap fun (d, i) => payloadErrors d (channelPath i) := by
  have hchannels : ∀ (channels : List ChannelConfig) (before : List (Option ChannelName)),
      (lintChannels c.side before channels).filter (·.category == .payload) =
        (channels.zipIdx before.length).flatMap fun (d, i) =>
          payloadErrors d (channelPath i) := by
    intro channels
    induction channels with
    | nil => exact fun _ => rfl
    | cons d rest ih =>
      intro before
      rw [lintChannels, List.filter_append, filter_lintChannel, ih, List.zipIdx_cons,
        List.flatMap_cons, List.length_append]
      rfl
  rw [lint]
  split
  · rename_i hnil
    rw [List.isEmpty_iff.1 hnil]
    rfl
  · exact hchannels c.channels []

/-- A place behind one number is behind no other one: a number ends at its bracket. -/
theorem eq_of_isPrefix_numbered {opening : String} {i k : Nat} {rest : List Char}
    (h : (opening ++ toString i ++ "]").toList <+:
      (opening ++ toString k ++ "]").toList ++ rest) : i = k := by
  have hplace : ∀ n : Nat, (opening ++ toString n ++ "]").toList =
      opening.toList ++ (Nat.toDigits 10 n ++ [']']) := by
    intro n
    simp [toString]
  have hdigits : ∀ (n : Nat) (rest : List Char),
      (Nat.toDigits 10 n ++ ']' :: rest).takeWhile Char.isDigit = Nat.toDigits 10 n := by
    intro n rest
    rw [List.takeWhile_append_of_pos fun c hc =>
      Nat.isDigit_of_mem_toDigits (by decide) (by decide) hc]
    simp
  rw [hplace, hplace, List.append_assoc, List.prefix_append_right_inj] at h
  obtain ⟨rest', hrest⟩ := h
  have heq : Nat.toDigits 10 i = Nat.toDigits 10 k := by
    rw [← hdigits i rest', ← hdigits k rest]
    simpa using congrArg (List.takeWhile Char.isDigit) hrest
  rw [← Nat.ofDigitChars_toDigits (b := 10) (n := i) (by decide) (by decide), heq,
    Nat.ofDigitChars_toDigits (by decide) (by decide)]

/-- A place inside channel number `k` is inside no other channel. -/
theorem eq_of_isPrefix_channelPath {i k : Nat} {rest : List Char}
    (h : (channelPath i).toList <+: (channelPath k).toList ++ rest) : i = k :=
  eq_of_isPrefix_numbered h

theorem lintPayload_eq_nil_iff {p : PayloadConfig} {place : String} :
    lintPayload p place = [] ↔ ∃ data, p.decode = .ok data := by
  rw [lintPayload]
  split <;> simp [*]

theorem payloadErrors_eq_nil_iff {d : ChannelConfig} (place : String) :
    payloadErrors d place = [] ↔ ∀ p ∈ d.loginPayloads, ∃ data, p.decode = .ok data := by
  simp only [payloadErrors, List.flatMap_eq_nil_iff, lintPayload_eq_nil_iff]
  constructor
  · intro h p hp
    obtain ⟨j, hj, rfl⟩ := List.getElem_of_mem hp
    exact h (d.loginPayloads[j], j) (by simp [List.mem_zipIdx_iff_getElem?])
  · rintro h ⟨p, j⟩ hp
    exact h p (List.fst_mem_of_mem_zipIdx hp)

theorem path_lintPayload {p : PayloadConfig} {place : String} {d : Diagnostic}
    (h : d ∈ lintPayload p place) : d.path = place ++ ".data" := by
  rw [lintPayload] at h
  split at h
  · simp at h
  · rw [List.mem_singleton.1 h]

/-- The check is silent about the payloads of a channel if they all denote bytes. -/
theorem payloadFindings_eq_nil_iff {c : Config} {i : Nat} {d : ChannelConfig}
    (hd : c.channels[i]? = some d) :
    c.payloadFindings i = [] ↔ ∀ p ∈ d.loginPayloads, ∃ data, p.decode = .ok data := by
  have hplace : ∀ (e : ChannelConfig) (k : Nat), ∀ x ∈ payloadErrors e (channelPath k),
      ∃ rest, x.path.toList = (channelPath k).toList ++ rest := by
    intro e k x hx
    obtain ⟨⟨p, j⟩, -, hx⟩ := List.mem_flatMap.1 hx
    rw [path_lintPayload hx]
    simp only [String.toList_append, List.append_assoc]
    exact ⟨_, rfl⟩
  rw [← payloadErrors_eq_nil_iff (channelPath i), payloadFindings, filter_lint]
  simp only [List.filter_eq_nil_iff, List.mem_flatMap, List.isPrefixOf_iff_prefix]
  constructor
  · intro h
    refine List.eq_nil_iff_forall_not_mem.2 fun x hx => ?_
    obtain ⟨rest, hrest⟩ := hplace d i x hx
    refine h x ⟨(d, i), ?_, hx⟩ ⟨rest, hrest.symm⟩
    simpa [List.mem_zipIdx_iff_getElem?] using hd
  · rintro hnil x ⟨⟨e, k⟩, he, hx⟩ hprefix
    obtain ⟨rest, hrest⟩ := hplace e k x hx
    obtain rfl : i = k := eq_of_isPrefix_channelPath (hrest ▸ hprefix)
    obtain rfl : d = e := by
      have he' := List.mem_zipIdx_iff_getElem?.1 he
      simpa [hd] using he'
    simp [hnil] at hx

end Config

/-! ## The order of the channels -/

/-- What the channel is in a registry that has just been set up. -/
def PlacedChannel.channel (x : PlacedChannel) : Channel :=
  .ofRegistration (x.config.registration x.name)

namespace Config

theorem mem_inOrder_iff {c : Config} {x : PlacedChannel} :
    x ∈ c.inOrder ↔
      c.channels[x.index]? = some x.config ∧ ChannelName.parse x.config.name = .ok x.name := by
  rw [inOrder, List.mem_mergeSort, List.mem_filterMap]
  constructor
  · rintro ⟨⟨d, i⟩, hd, hx⟩
    obtain ⟨name, hname, rfl⟩ := Option.map_eq_some_iff.1 hx
    exact ⟨List.mem_zipIdx_iff_getElem?.1 hd, nameOf?_eq_some_iff.1 hname⟩
  · rintro ⟨hd, hname⟩
    refine ⟨(x.config, x.index), List.mem_zipIdx_iff_getElem?.2 hd, ?_⟩
    exact Option.map_eq_some_iff.2 ⟨x.name, nameOf?_eq_some_iff.2 hname, rfl⟩

theorem perm_channel_inOrder (c : Config) :
    (c.inOrder.map PlacedChannel.channel).Perm
      (c.channels.filterMap ChannelConfig.channel?) := by
  refine ((List.mergeSort_perm _ _).map _).trans (.of_eq ?_)
  conv_rhs => rw [← List.zipIdx_map_fst 0 c.channels]
  rw [List.map_filterMap, List.filterMap_map]
  refine List.filterMap_congr fun (d, i) _ => ?_
  rw [Option.map_map]
  rfl

theorem pairwise_inOrder (c : Config) :
    c.inOrder.Pairwise fun x y => ChannelName.le x.name y.name = true := by
  rw [inOrder]
  refine List.pairwise_mergeSort ?_ ?_ _
  · exact fun x y z => ChannelName.le_trans x.name y.name z.name
  · exact fun x y => ChannelName.le_total x.name y.name

/-- The registry of a configuration holds its channels in the order of their names. -/
theorem channels_configure {c : Config} {s : State} (h : State.initial.configure c = .ok s) :
    s.registry.channels = c.inOrder.map PlacedChannel.channel := by
  have hperm : s.registry.channels.Perm (c.inOrder.map PlacedChannel.channel) := by
    have hchannels := (State.perm_channels_configure h).filterMap id
    rw [List.filterMap_map, List.filterMap_map, Function.id_comp, List.filterMap_some] at hchannels
    exact hchannels.trans c.perm_channel_inOrder.symm
  have hnodup : (c.inOrder.map PlacedChannel.name).Nodup := by
    have hnames := (hperm.map Channel.name).nodup s.registry.nodup_names
    rwa [List.map_map] at hnames
  refine Channel.Sorted.eq_of_perm s.registry.sorted ?_ hperm
  refine List.pairwise_map.2 ((c.pairwise_inOrder.and (List.pairwise_map.1 hnodup)).imp ?_)
  rintro x y ⟨hle, hne⟩
  exact (ChannelName.le_iff.1 hle).resolve_right hne

theorem names_configure {c : Config} {s : State} (h : State.initial.configure c = .ok s) :
    s.registry.names = c.inOrder.map PlacedChannel.name := by
  rw [Registry.names, channels_configure h, List.map_map]
  rfl

/-- A configuration that can be set up has a name for each of its channels. -/
theorem perm_inOrder {c : Config} {s : State} (h : State.initial.configure c = .ok s) :
    (c.inOrder.map fun x => (x.config, x.index)).Perm c.channels.zipIdx := by
  refine ((List.mergeSort_perm _ _).map _).trans (.of_eq ?_)
  rw [List.map_filterMap]
  refine (List.filterMap_congr ?_).trans List.filterMap_some
  rintro ⟨d, i⟩ hd
  have hmem : nameOf? d ∈ s.registry.names.map some :=
    (State.perm_names_configure h).mem_iff.2 (List.mem_map_of_mem (List.fst_mem_of_mem_zipIdx hd))
  obtain ⟨name, -, hname⟩ := List.mem_map.1 hmem
  simp [← hname]

end Config

/-! ## The gatherer of a channel -/

/-- `l` is what the payload is delivered as for the channel `name`. -/
structure PayloadConfig.DeliveredAs (p : PayloadConfig) (name : ChannelName) (l : LoginPayload) :
    Prop where
  channel_eq : l.channel = name
  data_eq : p.decode = .ok l.data
  context_eq : l.context = p.context.getD name.text

/-- What the payload is delivered as for the channel `name`, if its data denotes bytes. -/
def PayloadConfig.delivery? (p : PayloadConfig) (name : ChannelName) : Option LoginPayload :=
  p.decode.toOption.map fun data => ⟨name, data, p.context.getD name.text⟩

/-- The data of the payload denotes bytes. -/
def PayloadConfig.decodes (p : PayloadConfig) : Bool :=
  p.decode.toOption.isSome

theorem PayloadConfig.decodes_iff {p : PayloadConfig} :
    p.decodes = true ↔ ∃ data, p.decode = .ok data := by
  rw [decodes]
  cases p.decode <;> simp [Except.toOption]

/-- A gatherer delivers a payload, or fails at it. -/
theorem PayloadConfig.act_cases (p : PayloadConfig) (name : ChannelName) :
    (∃ data, p.decode = .ok data ∧ p.decodes = true ∧
      p.delivery? name = some ⟨name, data, p.context.getD name.text⟩ ∧
      p.act name =
        .push fun sink => ⟨sink.channel, data, p.context.getD sink.channel.text⟩) ∨
    (p.decodes = false ∧ p.act name =
      .fail (.inContext ("login payload for " ++ name.text) PayloadError.invalidHex.message)) := by
  rw [decodes, delivery?, act]
  cases p.decode with
  | ok data => exact .inl ⟨data, rfl, rfl, rfl, rfl⟩
  | error e => exact .inr ⟨rfl, rfl⟩

namespace PlacedChannel

/-- The data of every payload denotes bytes. -/
def decodes (x : PlacedChannel) : Bool :=
  x.config.loginPayloads.all PayloadConfig.decodes

/-- What the channel sends: all of its payloads or none. -/
def sent (x : PlacedChannel) : List LoginPayload :=
  if x.decodes then x.config.loginPayloads.filterMap (·.delivery? x.name) else []

/-- What is logged if the gatherer fails. -/
def failedEvent (x : PlacedChannel) : Event :=
  .gathererFailed x.name
    (.inContext ("login payload for " ++ x.name.text) PayloadError.invalidHex.message)

end PlacedChannel

namespace LoginAct

variable (payloads : List PayloadConfig) (name : ChannelName)

theorem all_acts : ((payloads.map (·.act name)).all fun act => !act.isFatal) =
    payloads.all PayloadConfig.decodes := by
  rw [List.all_map]
  congr 1
  funext p
  rcases p.act_cases name with ⟨data, -, hdecodes, -, hact⟩ | ⟨hdecodes, hact⟩
  · rw [Function.comp, hact, hdecodes]
    rfl
  · rw [Function.comp, hact, hdecodes]
    rfl

theorem actChanges_acts (self : Gatherer) :
    State.actChanges name self (payloads.map (·.act name)) = [] := by
  induction payloads with
  | nil => rfl
  | cons p rest ih =>
    rw [List.map_cons]
    rcases p.act_cases name with ⟨data, -, -, -, hact⟩ | ⟨-, hact⟩
    · rw [hact]
      exact ih
    · rw [hact]
      rfl

theorem ending_acts : ending (payloads.map (·.act name)) =
    if payloads.all PayloadConfig.decodes then .done
    else .failed
      (.inContext ("login payload for " ++ name.text) PayloadError.invalidHex.message) := by
  induction payloads with
  | nil => rfl
  | cons p rest ih =>
    rw [List.map_cons, List.all_cons]
    rcases p.act_cases name with ⟨data, -, hdecodes, -, hact⟩ | ⟨hdecodes, hact⟩
    · rw [hact, hdecodes]
      exact ih
    · rw [hact, hdecodes]
      rfl

variable {payloads name} in
/-- The acts for payloads register and attach nothing. -/
theorem of_mem_acts {act : LoginAct} (h : act ∈ performed (payloads.map (·.act name)))
    (self : Gatherer) : act.registration? = none ∧ act.attachment? self = none := by
  obtain ⟨p, -, rfl⟩ := List.mem_map.1 ((List.takeWhile_sublist _).subset h)
  rcases p.act_cases name with ⟨data, -, -, -, hact⟩ | ⟨-, hact⟩ <;> rw [hact] <;>
    exact ⟨rfl, rfl⟩

variable {payloads}

theorem pushAll_acts (h : payloads.all PayloadConfig.decodes) (done : List LoginPayload) :
    pushAll name done ((performed (payloads.map (·.act name))).filterMap payload?) =
      done ++ payloads.filterMap (·.delivery? name) := by
  induction payloads generalizing done with
  | nil => simp [pushAll, performed]
  | cons p rest ih =>
    rw [List.all_cons, Bool.and_eq_true] at h
    rcases p.act_cases name with ⟨data, -, -, hdelivery, hact⟩ | ⟨hdecodes, -⟩
    · rw [List.map_cons, hact, List.filterMap_cons, hdelivery]
      exact (ih h.2 (done ++ [⟨name, data, p.context.getD name.text⟩])).trans
        (List.append_assoc _ _ _)
    · simp [hdecodes] at h

/-- Payloads that all denote bytes are all delivered, in their order. -/
theorem forall₂_deliveredAs (h : payloads.all PayloadConfig.decodes) :
    List.Forall₂ (fun p l => p.DeliveredAs name l) payloads
      (payloads.filterMap (·.delivery? name)) := by
  induction payloads with
  | nil => exact .nil
  | cons p rest ih =>
    rw [List.all_cons, Bool.and_eq_true] at h
    rcases p.act_cases name with ⟨data, hdecode, -, hdelivery, -⟩ | ⟨hdecodes, -⟩
    · rw [List.filterMap_cons, hdelivery]
      exact .cons ⟨rfl, hdecode, rfl⟩ (ih h.2)
    · simp [hdecodes] at h

end LoginAct

/-! ## Configured channels in use -/

/-- What the channel could be registered with: its behaviours, whatever has been counted. -/
def Channel.registration (c : Channel) : Registration where
  name := c.name
  supplier := c.supplier
  client := c.client
  server := c.server
  gatherers := c.attached

theorem Channel.registration_ofRegistration (r : Registration) :
    (ofRegistration r).registration = r := by
  have hattached : (ofRegistration r).attached = r.gatherers := by
    rw [attached, ofRegistration, List.map_map]
    exact List.map_id' _
  rw [registration, hattached]
  cases r
  rfl

/-- To count runs changes no behaviour. -/
theorem Channel.map_registration_afterRun (channels : List Channel) :
    (channels.map fun d => { d with gatherers := d.gatherers.map .afterRun }).map registration =
      channels.map registration := by
  rw [List.map_map]
  refine List.map_congr_left fun d _ => ?_
  have hattached : (d.gatherers.map .afterRun).map Attached.gatherer = d.attached :=
    List.map_map
  simp only [Function.comp, registration, attached, hattached]

namespace PlacedChannel

/-- What the channel is registered with. -/
def registration (x : PlacedChannel) : Registration :=
  x.config.registration x.name

/-- The gatherer of the channel, if it has one, when it has run `runs` times. -/
def gatherer (x : PlacedChannel) (runs : Nat) : Attached :=
  ⟨.always (x.config.loginPayloads.map (·.act x.name)), runs⟩

theorem decodes_of_eq_nil {x : PlacedChannel} (h : x.config.loginPayloads = []) :
    x.decodes = true := by
  rw [decodes, h, List.all_nil]

section Gatherer

variable (x : PlacedChannel) (runs : Nat)

theorem succeeds_gatherer : (x.gatherer runs).succeeds = x.decodes :=
  LoginAct.all_acts _ _

theorem pushed_gatherer (h : x.decodes = true) : (x.gatherer runs).pushed x.name = x.sent := by
  rw [sent, if_pos h]
  exact LoginAct.pushAll_acts x.name h []

theorem registrations_gatherer : (x.gatherer runs).registrations = [] :=
  List.filterMap_eq_nil_iff.2 fun _ hact =>
    (LoginAct.of_mem_acts hact (x.gatherer runs).gatherer).1

theorem attachments_gatherer : (x.gatherer runs).attachments = [] :=
  List.filterMap_eq_nil_iff.2 fun _ hact =>
    (LoginAct.of_mem_acts hact (x.gatherer runs).gatherer).2

theorem changes_gatherer : (x.gatherer runs).changes x.name 0 =
    [.gather x.name 0, .note (·.log (if x.decodes then [] else [x.failedEvent]))] := by
  have hacts : State.actChanges x.name (x.gatherer runs).gatherer (x.gatherer runs).acts = [] :=
    LoginAct.actChanges_acts _ _ _
  have hending : LoginAct.ending (x.gatherer runs).acts =
      if x.decodes then .done
      else .failed (.inContext ("login payload for " ++ x.name.text)
        PayloadError.invalidHex.message) := LoginAct.ending_acts _ _
  rw [Attached.changes, hacts, hending]
  cases x.decodes <;> rfl

end Gatherer

section Registered

variable {x : PlacedChannel} {d : Channel} (h : d.registration = x.registration)
include h

theorem name_eq : d.name = x.name :=
  congrArg Registration.name h

/-- A channel without payloads has no gatherer; any other has one, whatever its runs. -/
theorem gatherers_cases :
    (x.config.loginPayloads = [] ∧ d.gatherers = []) ∨
      (x.config.loginPayloads ≠ [] ∧ ∃ runs, d.gatherers = [x.gatherer runs]) := by
  have hattached : d.gatherers.map Attached.gatherer =
      if x.config.loginPayloads.isEmpty then [] else [(x.gatherer 0).gatherer] :=
    congrArg Registration.gatherers h
  split at hattached
  · rename_i hempty
    exact .inl ⟨List.isEmpty_iff.1 hempty, List.map_eq_nil_iff.1 hattached⟩
  · rename_i hnonempty
    obtain ⟨⟨g, runs⟩, hgatherers, hg⟩ := List.map_eq_singleton_iff.1 hattached
    obtain rfl : g = (x.gatherer 0).gatherer := hg
    exact .inr ⟨mt List.isEmpty_iff.2 hnonempty, runs, hgatherers⟩

theorem contribution_eq : d.contribution = x.sent := by
  rw [Channel.contribution, name_eq h]
  rcases gatherers_cases h with ⟨hnil, hgatherers⟩ | ⟨-, runs, hgatherers⟩
  · rw [hgatherers, sent, if_pos (decodes_of_eq_nil hnil), hnil]
    rfl
  · rw [hgatherers, List.filter_singleton, succeeds_gatherer]
    cases hdecodes : x.decodes with
    | true => simp [pushed_gatherer x runs hdecodes]
    | false => simp [sent, hdecodes]

theorem failures_eq : d.failures = if x.decodes then 0 else 1 := by
  rw [Channel.failures]
  rcases gatherers_cases h with ⟨hnil, hgatherers⟩ | ⟨-, runs, hgatherers⟩
  · rw [hgatherers, decodes_of_eq_nil hnil]
    rfl
  · rw [hgatherers, List.countP_singleton, succeeds_gatherer]
    cases x.decodes <;> rfl

theorem registrations_eq_nil : d.gatherers.flatMap Attached.registrations = [] := by
  rcases gatherers_cases h with ⟨-, hgatherers⟩ | ⟨-, runs, hgatherers⟩
  · rw [hgatherers, List.flatMap_nil]
  · rw [hgatherers, List.flatMap_singleton, registrations_gatherer]

/-- A gather counts the runs of the channel's gatherers and changes nothing else. -/
theorem afterGather_eq : d.afterGather = { d with gatherers := d.gatherers.map .afterRun } := by
  have hattachments : d.gatherers.flatMap Attached.attachments = [] := by
    rcases gatherers_cases h with ⟨-, hgatherers⟩ | ⟨-, runs, hgatherers⟩
    · rw [hgatherers, List.flatMap_nil]
    · rw [hgatherers, List.flatMap_singleton, attachments_gatherer]
  rw [Channel.afterGather, hattachments, List.map_nil, List.append_nil]

end Registered

end PlacedChannel

namespace State

/-- From `s` to `s'` the gatherers of the channels `failed` have failed, one after the other. -/
structure Fails (failed : List PlacedChannel) (s s' : State) : Prop where
  events_eq : s'.journal.events = s.journal.events ++ failed.map PlacedChannel.failedEvent
  count_eq : ∀ name, s'.journal.metrics.value (.gatherFailures name) =
    s.journal.metrics.value (.gatherFailures name) + (failed.map PlacedChannel.name).count name

theorem Fails.refl (s : State) : Fails [] s s :=
  ⟨(List.append_nil _).symm, fun _ => rfl⟩

theorem Fails.append {failed failed' : List PlacedChannel} {s s' s'' : State}
    (hfirst : Fails failed s s') (hrest : Fails failed' s' s'') :
    Fails (failed ++ failed') s s'' where
  events_eq := by
    rw [hrest.events_eq, hfirst.events_eq, List.map_append, List.append_assoc]
  count_eq name := by
    rw [hrest.count_eq, hfirst.count_eq, List.map_append, List.count_append, Nat.add_assoc]

theorem fails_channel {x : PlacedChannel} {d : Channel} (h : d.registration = x.registration)
    (s : State) : Fails (if x.decodes then [] else [x]) s (s.replay d.gatherChanges) := by
  rw [Channel.gatherChanges, PlacedChannel.failures_eq h, PlacedChannel.name_eq h]
  rcases PlacedChannel.gatherers_cases h with ⟨hnil, hgatherers⟩ | ⟨-, runs, hgatherers⟩
  · rw [hgatherers, PlacedChannel.decodes_of_eq_nil hnil]
    exact .refl s
  · simp only [hgatherers, List.zipIdx_singleton, List.flatMap_singleton,
      PlacedChannel.changes_gatherer]
    cases x.decodes with
    | true => exact ⟨rfl, fun _ => rfl⟩
    | false =>
      refine ⟨rfl, fun name => (Metrics.value_add _ _ _ _).trans ?_⟩
      by_cases heq : name = x.name
      · simp [heq, change, startRun, Journal.log, Journal.recordCalls]
      · simp [heq, Ne.symm heq, change, startRun, Journal.log, Journal.recordCalls]

section Registered

variable {xs : List PlacedChannel} {channels : List Channel}
  (h : List.Forall₂ (fun x d => d.registration = x.registration) xs channels)
include h

theorem flatMap_contribution_eq :
    channels.flatMap Channel.contribution = xs.flatMap PlacedChannel.sent := by
  induction h with
  | nil => rfl
  | cons hd _ ih =>
    rw [List.flatMap_cons, List.flatMap_cons, PlacedChannel.contribution_eq hd, ih]

theorem countP_gatherers :
    (channels.flatMap Channel.gatherers).countP (fun a => !a.succeeds) =
      (xs.filter fun x => !x.decodes).length := by
  induction h with
  | nil => rfl
  | @cons x d _ _ hd _ ih =>
    have hfirst : d.gatherers.countP (fun a => !a.succeeds) = if x.decodes then 0 else 1 :=
      PlacedChannel.failures_eq hd
    rw [List.flatMap_cons, List.countP_append, hfirst, ih]
    cases hdecodes : x.decodes with
    | true => simp [hdecodes]
    | false => simp [hdecodes, Nat.add_comm]

theorem fails_channels (s : State) :
    Fails (xs.filter fun x => !x.decodes) s
      (s.replay (channels.flatMap Channel.gatherChanges)) := by
  induction h generalizing s with
  | nil => exact .refl s
  | @cons x d _ _ hd _ ih =>
    have hfirst := fails_channel hd s
    have hrest := ih (s.replay d.gatherChanges)
    rw [List.flatMap_cons, replay_append]
    cases hdecodes : x.decodes with
    | true =>
      rw [hdecodes] at hfirst
      simpa [hdecodes] using hfirst.append hrest
    | false =>
      rw [hdecodes] at hfirst
      simpa [hdecodes] using hfirst.append hrest

/-- The gatherers of configured channels register nothing. -/
theorem flatMap_registrations_eq_nil :
    channels.flatMap (fun d => d.gatherers.flatMap Attached.registrations) = [] := by
  induction h with
  | nil => rfl
  | cons hd _ ih => rw [List.flatMap_cons, PlacedChannel.registrations_eq_nil hd, ih]; rfl

theorem map_afterGather_eq : channels.map Channel.afterGather =
    channels.map fun d => { d with gatherers := d.gatherers.map .afterRun } := by
  induction h with
  | nil => rfl
  | cons hd _ ih => rw [List.map_cons, List.map_cons, PlacedChannel.afterGather_eq hd, ih]

end Registered

/-- The failures of a gather, and what it notes at its end. -/
theorem snd_gather_of_registered {s : State} {xs : List PlacedChannel}
    (h : List.Forall₂ (fun x d => d.registration = x.registration) xs s.registry.channels) :
    let payloads := (s.gather .loginToClient).1
    let failed := xs.filter fun x => !x.decodes
    ∃ s', Fails failed s s' ∧ (s.gather .loginToClient).2 =
      { s' with
        journal := (s'.journal.log [.gathered payloads.length failed.length]).count .payloads
          payloads.length } := by
  have hharvest : s.registry.harvest =
      ⟨(s.gather .loginToClient).1, (xs.filter fun x => !x.decodes).length⟩ := by
    rw [Registry.harvest, ← fst_gather, countP_gatherers h]
  refine ⟨s.replay (s.registry.channels.flatMap Channel.gatherChanges), fails_channels h s, ?_⟩
  rw [← replay_gatherChanges, gatherChanges_eq, hharvest, replay_append]
  rfl

end State

/-! ## The check and the gather -/

namespace Config

/-- The channels with a finding about their payloads, in the order of the names. -/
def failing (c : Config) : List PlacedChannel :=
  c.inOrder.filter fun x => c.payloadFindings x.index ≠ []

theorem payloadFindings_eq_nil_iff_decodes {c : Config} {x : PlacedChannel} (hx : x ∈ c.inOrder) :
    c.payloadFindings x.index = [] ↔ x.decodes = true := by
  simp only [payloadFindings_eq_nil_iff (mem_inOrder_iff.1 hx).1, PlacedChannel.decodes,
    List.all_eq_true, PayloadConfig.decodes_iff]

theorem failing_eq (c : Config) : c.failing = c.inOrder.filter fun x => !x.decodes := by
  refine List.filter_congr fun x hx => ?_
  rw [Bool.eq_iff_iff]
  simp [payloadFindings_eq_nil_iff_decodes hx]

/-- What a channel sends, as the findings about it foretell. -/
theorem sent_of_payloadFindings {c : Config} {x : PlacedChannel} (hx : x ∈ c.inOrder) :
    if c.payloadFindings x.index = [] then
      List.Forall₂ (fun p l => p.DeliveredAs x.name l) x.config.loginPayloads x.sent
    else x.sent = [] := by
  have hsilent := payloadFindings_eq_nil_iff_decodes hx
  rw [PlacedChannel.sent]
  cases hdecodes : x.decodes with
  | true =>
    rw [if_pos (hsilent.2 hdecodes), if_pos rfl]
    exact LoginAct.forall₂_deliveredAs x.name hdecodes
  | false =>
    rw [if_neg (by simp [hsilent, hdecodes])]
    rfl

section Registered

variable {c : Config} {s : State} (h : State.initial.configure c = .ok s)
  {channels : List Channel}
  (hsame : channels.map Channel.registration = s.registry.channels.map Channel.registration)
include h hsame

/-- Channels with the behaviours of a configuration are in the order of the names. -/
theorem map_registration_eq :
    c.inOrder.map PlacedChannel.registration = channels.map Channel.registration := by
  rw [hsame, channels_configure h, List.map_map]
  exact List.map_congr_left fun x _ => (Channel.registration_ofRegistration _).symm

theorem forall₂_registration :
    List.Forall₂ (fun x d => d.registration = x.registration) c.inOrder channels := by
  have hmap := map_registration_eq h hsame
  rw [← List.forall₂_eq_eq_eq, List.forall₂_map_left_iff, List.forall₂_map_right_iff] at hmap
  exact hmap.imp fun _ _ heq => heq.symm

end Registered

section Failing

variable {c : Config} (hnodup : (c.inOrder.map PlacedChannel.name).Nodup)
include hnodup

theorem nodup_name_failing : (c.failing.map PlacedChannel.name).Nodup :=
  hnodup.sublist (List.filter_sublist.map _)

/-- A channel fails for a finding about itself: no other channel has its name. -/
theorem name_mem_failing_iff {x : PlacedChannel} (hx : x ∈ c.inOrder) :
    x.name ∈ c.failing.map PlacedChannel.name ↔ c.payloadFindings x.index ≠ [] := by
  constructor
  · intro hmem
    obtain ⟨y, hy, hname⟩ := List.mem_map.1 hmem
    obtain ⟨hy, hfinding⟩ := List.mem_filter.1 hy
    obtain rfl : y = x := List.inj_on_of_nodup_map hnodup hy hx hname
    simpa using hfinding
  · intro hfinding
    exact List.mem_map_of_mem (List.mem_filter.2 ⟨hx, by simpa using hfinding⟩)

end Failing

end Config

/-- The findings of the check about payloads foretell what is gathered from a configuration that can
be set up, in the state `s` that the setup leaves and in every other state `before` whose channels
have the same behaviours, whatever has been observed and counted since. In the order of their names,
the channels without such a finding send all their payloads in the order of the file, each of them
with the name of the channel, its bytes, and its context or else the name; the other channels send
nothing, and for each of them one failure is logged and counted. The registry stays as it is, but
that the gatherers have run once more. A finding about payloads depends on nothing but the payloads
of its channel, and a channel without payloads has neither a gatherer nor a finding. -/
theorem payloads_foretold {c : Config} {s : State} (h : State.initial.configure c = .ok s)
    {before : State} (hbefore : before.registry.channels.map Channel.registration =
      s.registry.channels.map Channel.registration) :
    let gathered := before.gather .loginToClient
    ((c.inOrder.map fun x => (x.config, x.index)).Perm c.channels.zipIdx ∧
      (∀ x ∈ c.inOrder, ChannelName.parse x.config.name = .ok x.name) ∧
      before.registry.names = c.inOrder.map PlacedChannel.name ∧
      before.registry.names.Pairwise (· < ·)) ∧
    (∃ sent : List (List LoginPayload), gathered.1 = sent.flatten ∧
      List.Forall₂ (fun x payloads =>
        if c.payloadFindings x.index = [] then
          List.Forall₂ (fun p l => p.DeliveredAs x.name l) x.config.loginPayloads payloads
        else payloads = []) c.inOrder sent) ∧
    gathered.2.registry.channels =
      (before.registry.channels.map fun d => { d with gatherers := d.gatherers.map .afterRun }) ∧
    gathered.2.journal.events =
      before.journal.events ++ c.failing.map PlacedChannel.failedEvent ++
        [.gathered gathered.1.length c.failing.length] ∧
    (∀ name, gathered.2.journal.metrics.value (.gatherFailures name) =
      before.journal.metrics.value (.gatherFailures name) +
        if name ∈ c.failing.map PlacedChannel.name then 1 else 0) ∧
    ∀ x ∈ c.inOrder,
      (x.name ∈ c.failing.map PlacedChannel.name ↔ c.payloadFindings x.index ≠ []) ∧
      (c.payloadFindings x.index = [] ↔
        ∀ p ∈ x.config.loginPayloads, ∃ data, p.decode = .ok data) ∧
      (x.config.loginPayloads = [] →
        (before.registry.find? x.name).map Channel.gatherers = some [] ∧
          c.payloadFindings x.index = []) := by
  intro gathered
  have hregistered := Config.forall₂_registration h hbefore
  have hnames : before.registry.names = c.inOrder.map PlacedChannel.name := by
    have hname := congrArg (List.map Registration.name) hbefore
    rw [List.map_map, List.map_map] at hname
    exact hname.trans (Config.names_configure h)
  have hnodup : (c.inOrder.map PlacedChannel.name).Nodup := hnames ▸ before.registry.nodup_names
  obtain ⟨s', hfails, hgathered⟩ := State.snd_gather_of_registered hregistered
  rw [← c.failing_eq] at hfails hgathered
  refine ⟨⟨Config.perm_inOrder h, fun x hx => (Config.mem_inOrder_iff.1 hx).2, hnames,
    before.registry.pairwise_names⟩, ?_, ?_, ?_, ?_, ?_⟩
  · refine ⟨c.inOrder.map PlacedChannel.sent, ?_, ?_⟩
    · rw [before.fst_gather, State.flatMap_contribution_eq hregistered, List.flatMap_def]
    · rw [List.forall₂_map_right_iff, List.forall₂_same]
      exact fun x hx => Config.sent_of_payloadFindings hx
  · exact (State.channels_gather (State.flatMap_registrations_eq_nil hregistered)).trans
      (State.map_afterGather_eq hregistered)
  · rw [hgathered]
    exact congrArg (· ++ _) hfails.events_eq
  · intro name
    have hcount : gathered.2.journal.metrics.value (.gatherFailures name) =
        s'.journal.metrics.value (.gatherFailures name) := by
      rw [hgathered]
      exact Metrics.value_add _ _ _ _
    rw [hcount, hfails.count_eq, (Config.nodup_name_failing hnodup).count]
  · intro x hx
    have hiff := Config.payloadFindings_eq_nil_iff (Config.mem_inOrder_iff.1 hx).1
    refine ⟨Config.name_mem_failing_iff hnodup hx, hiff, fun hnil => ⟨?_, hiff.2 (by simp [hnil])⟩⟩
    have hmem : x.registration ∈ before.registry.channels.map Channel.registration :=
      Config.map_registration_eq h hbefore ▸ List.mem_map_of_mem hx
    obtain ⟨d, hd, hsame⟩ := List.mem_map.1 hmem
    have hfound : before.registry.find? x.name = some d :=
      PlacedChannel.name_eq hsame ▸ Registry.find?_of_mem hd
    rcases PlacedChannel.gatherers_cases hsame with ⟨-, hgatherers⟩ | ⟨hsome, -⟩
    · rw [hfound, Option.map_some, hgatherers]
    · exact absurd hnil hsome

/-- Three channels out of the order of their names: one with a payload that denotes no bytes after
one that does, one whose payloads all denote bytes, and one without payloads. -/
theorem payloads_foretold_for_three :
    let core : ChannelName := ⟨"netreg", "core", by decide, by decide, by decide, by decide⟩
    let a : ChannelName := ⟨"a", "b", by decide, by decide, by decide, by decide⟩
    let payload (data : String) (context : Option String) : PayloadConfig := ⟨data, .hex, context⟩
    let c : Config := { Config.default with
      channels := [⟨"core", "1", .default, .default, [payload "01" none, payload "0" none]⟩,
        ⟨"a:b", "1", .default, .default, [payload "0A" none, payload "" (some "x")]⟩,
        ⟨"c", "1", .default, .default, []⟩] }
    ∃ s, State.initial.configure c = .ok s ∧
      let first := State.gather ⟨s.registry, .empty⟩ .loginToClient
      let second := first.2.gather .loginToClient
      first.1 = [⟨a, [10], "a:b"⟩, ⟨a, [], "x"⟩] ∧ second.1 = first.1 ∧
        second.2.journal.metrics.value (.gatherFailures core) = 2 ∧
        second.2.journal.metrics.value (.gatherFailures a) = 0 := by
  intro core a payload c
  have hgathered : (State.initial.configure c).toOption.map (fun s =>
      let first := State.gather ⟨s.registry, .empty⟩ .loginToClient
      (first.1, (first.2.gather .loginToClient).1)) =
        some ([⟨a, [10], "a:b"⟩, ⟨a, [], "x"⟩], [⟨a, [10], "a:b"⟩, ⟨a, [], "x"⟩]) := by
    decide +kernel
  cases hs : State.initial.configure c with
  | error e => simp [hs, Except.toOption] at hgathered
  | ok s =>
    rw [hs] at hgathered
    obtain ⟨hfirst, hsecond⟩ := Prod.mk.inj (Option.some.inj hgathered)
    have hfresh : (⟨s.registry, .empty⟩ : State).registry.channels.map Channel.registration =
        s.registry.channels.map Channel.registration := rfl
    obtain ⟨-, -, hchannels, -, hcount, hchannel⟩ := payloads_foretold hs hfresh
    have hrun := (congrArg (List.map Channel.registration) hchannels).trans
      (Channel.map_registration_afterRun _)
    obtain ⟨-, -, -, -, hcount', -⟩ := payloads_foretold hs hrun
    have hcore := (hchannel ⟨core, c.channels[0], 0⟩ (Config.mem_inOrder_iff.2 (by decide))).1
    have ha := (hchannel ⟨a, c.channels[1], 1⟩ (Config.mem_inOrder_iff.2 (by decide))).1
    refine ⟨s, rfl, hfirst, hsecond.trans hfirst.symm, ?_, ?_⟩
    · rw [hcount' core, hcount core, if_pos (hcore.2 (by decide))]
      rfl
    · rw [hcount' a, hcount a, if_neg (mt ha.1 (by decide))]
      rfl

end ChannelHandshake
