import ChannelHandshake.Proofs.ChannelName.Grammar
import ChannelHandshake.Proofs.Registry.Report
import ChannelHandshake.Proofs.Text.Pieces

/-!
# What a validation logs

The events of a validation come in five groups: the entries that could not be read, the tests, the
repetition, the rejection and the acceptance. Each group has a level and a message of its own, by
which it is found in the log (`Registry.filter_emitted`).

Whether an error is logged depends on the list that it carries, and whether an acceptance is logged
on the report as a whole. That these agree, also for a peer that is refused for its duplicates
alone, is `Report.errors_eq_nil_iff`.

The names in an error can be read back, for no name holds the comma that stands between them.
-/

namespace ChannelHandshake

/-! ## Names between commas -/

namespace Event

/-- The event carries names as one text, whose pieces between the commas are the names in order,
and the side that they come from. -/
def Carries (e : Event) (names : List ChannelName) (origin : Side) : Prop :=
  ∃ text, e.fields = [("channels", .text text), ("from", .text origin.text)] ∧
    Text.pieces ',' text = names.map ChannelName.text ∧
    (Text.pieces ',' text).map ChannelName.parse = names.map .ok

theorem carries_of_fields_eq {e : Event} {names : List ChannelName} {origin : Side}
    (hne : names ≠ [])
    (hfields : e.fields = [("channels", nameList names), ("from", .text origin.text)]) :
    e.Carries names origin := by
  have hpieces : Text.pieces ',' (Text.joined "," (names.map ChannelName.text)) =
      names.map ChannelName.text := by
    refine Text.pieces_joined (by simpa using hne) ?_
    intro part hpart
    obtain ⟨n, -, rfl⟩ := List.mem_map.1 hpart
    exact n.not_mem_text (by decide)
  refine ⟨_, hfields, hpieces, ?_⟩
  rw [hpieces, List.map_map]
  exact List.map_congr_left fun n _ => n.parse_text

/-- Events of one level and one message are chosen together. -/
theorem filter_eq_ite {events : List Event} {level : Level} {message : String}
    (h : ∀ e ∈ events, e.level = level ∧ e.message = message) (chosen : Level → String → Bool) :
    events.filter (fun e => chosen e.level e.message) =
      if chosen level message then events else [] := by
  have hchosen : ∀ e ∈ events, chosen e.level e.message = chosen level message := by
    intro e he
    rw [(h e he).1, (h e he).2]
  rw [List.filter_congr hchosen]
  cases chosen level message <;> simp

end Event

/-! ## Refusals -/

/-- An event about channels, if there are any. -/
def Event.ifAny (event : List ChannelName → Side → Event) (names : List ChannelName)
    (origin : Side) : List Event :=
  if names = [] then [] else [event names origin]

theorem Event.mem_ifAny_iff {event : List ChannelName → Side → Event} {names : List ChannelName}
    {origin : Side} {e : Event} :
    e ∈ ifAny event names origin ↔ names ≠ [] ∧ e = event names origin := by
  by_cases hnames : names = [] <;> simp [ifAny, hnames]

namespace Report

/-- The error that is logged for a peer that lists channels repeatedly. -/
def repetition (r : Report) : List Event :=
  Event.ifAny .duplicated r.duplicates r.origin

/-- The error that is logged for a peer that channels reject. -/
def rejection (r : Report) : List Event :=
  Event.ifAny .rejected r.rejected r.origin

/-- What is logged for a peer that is accepted. -/
def acceptance (r : Report) : List Event :=
  if r.isAccepted then [.accepted r.origin] else []

theorem kind_of_mem_repetition (r : Report) : ∀ e ∈ r.repetition,
    e.level = .error ∧ e.message = "remote listed channels more than once" := by
  intro e he
  obtain ⟨-, rfl⟩ := Event.mem_ifAny_iff.1 he
  exact ⟨rfl, rfl⟩

theorem kind_of_mem_rejection (r : Report) : ∀ e ∈ r.rejection,
    e.level = .error ∧ e.message = "channels rejected their remote version" := by
  intro e he
  obtain ⟨-, rfl⟩ := Event.mem_ifAny_iff.1 he
  exact ⟨rfl, rfl⟩

theorem kind_of_mem_acceptance (r : Report) : ∀ e ∈ r.acceptance,
    e.level = .debug ∧ e.message = "accepting channel list" := by
  intro e he
  obtain ⟨-, rfl⟩ : r.isAccepted = true ∧ e = .accepted r.origin := by
    simpa [acceptance] using he
  exact ⟨rfl, rfl⟩

/-- A peer is accepted if there is no error to log. -/
theorem errors_eq_nil_iff (r : Report) :
    r.repetition ++ r.rejection = [] ↔ r.isAccepted = true := by
  rw [isAccepted_iff, List.append_eq_nil_iff, repetition, rejection]
  simp only [Event.ifAny, ite_eq_left_iff, reduceCtorEq, imp_false, not_not]

/-- The errors and the acceptance are told apart by two different tests, which agree. -/
theorem closingEvents_eq (r : Report) :
    r.closingEvents = r.repetition ++ r.rejection ++ r.acceptance := by
  have haccepted := r.isAccepted_iff
  rw [closingEvents, repetition, rejection, acceptance, Event.ifAny, Event.ifAny]
  -- with duplicates and nothing rejected, neither the acceptance nor the second error is logged
  by_cases hd : r.duplicates = [] <;> by_cases hr : r.rejected = [] <;> simp_all

end Report

/-! ## The log of a validation -/

theorem Manifest.kind_of_mem_unreadableEvents (m : Manifest) : ∀ e ∈ m.unreadableEvents,
    e.level = .debug ∧ e.message = "ignoring unparseable remote channel" := by
  intro e he
  obtain ⟨entry, -, hentry⟩ := List.mem_filterMap.1 he
  cases hparse : ChannelName.parse entry.name with
  | ok n => simp [hparse] at hentry
  | error error =>
    obtain rfl : .unreadable entry.name error = e := by simpa [hparse] using hentry
    exact ⟨rfl, rfl⟩

/-- What a channel logs that is not listed repeatedly. -/
def Channel.testedEvent (c : Channel) (side : Side) (m : Manifest) : Event :=
  .tested c.name (m.testedVersion c.name) side.opposite (c.testFor side (m.testedVersion c.name))

/-- A channel logs its test, unless it is listed repeatedly. -/
theorem Channel.eventsOn_eq (c : Channel) (side : Side) (m : Manifest) :
    c.eventsOn side (m.entriesFor c.name) =
      if c.name ∈ m.duplicates then [] else [c.testedEvent side m] := by
  rcases hentries : m.entriesFor c.name with _ | ⟨e, _ | ⟨e', rest⟩⟩ <;>
    simp [eventsOn, testedEvent, Manifest.testedVersion, Manifest.mem_duplicates_iff, hentries]

namespace Registry

/-- What the channels log that are not listed repeatedly, in the order of the names. -/
def testedEvents (r : Registry) (m : Manifest) (side : Side) : List Event :=
  (r.channels.filter fun c => c.name ∉ m.duplicates).map fun c => c.testedEvent side m

/-- What a validation logs. -/
def emitted (r : Registry) (m : Manifest) (side : Side) : List Event :=
  m.unreadableEvents ++ r.testedEvents m side ++ (r.validate m side).closingEvents

theorem kind_of_mem_testedEvents (r : Registry) (m : Manifest) (side : Side) :
    ∀ e ∈ r.testedEvents m side, e.level = .debug ∧ e.message = "channel version test" := by
  intro e he
  obtain ⟨c, -, rfl⟩ := List.mem_map.1 he
  exact ⟨rfl, rfl⟩

/-- Each of the five groups of events in the log of a validation is chosen by its level and its
message, as a whole or not at all. -/
theorem filter_emitted (r : Registry) (m : Manifest) (side : Side)
    (chosen : Level → String → Bool) :
    (r.emitted m side).filter
        (fun e => chosen e.level e.message) =
      (if chosen .debug "ignoring unparseable remote channel" then m.unreadableEvents else []) ++
        (if chosen .debug "channel version test" then r.testedEvents m side else []) ++
        (if chosen .error "remote listed channels more than once" then
          (r.validate m side).repetition else []) ++
        (if chosen .error "channels rejected their remote version" then
          (r.validate m side).rejection else []) ++
        if chosen .debug "accepting channel list" then (r.validate m side).acceptance else [] := by
  rw [emitted, Report.closingEvents_eq]
  simp only [List.filter_append, List.append_assoc]
  rw [Event.filter_eq_ite (m.kind_of_mem_unreadableEvents) chosen,
    Event.filter_eq_ite (r.kind_of_mem_testedEvents m side) chosen,
    Event.filter_eq_ite (Report.kind_of_mem_repetition _) chosen,
    Event.filter_eq_ite (Report.kind_of_mem_rejection _) chosen,
    Event.filter_eq_ite (Report.kind_of_mem_acceptance _) chosen]

theorem errors_emitted (r : Registry) (m : Manifest) (side : Side) :
    (r.emitted m side).filter (fun e => e.level = .error) =
      (r.validate m side).repetition ++ (r.validate m side).rejection := by
  simpa using r.filter_emitted m side fun level _ => level = .error

theorem acceptance_emitted (r : Registry) (m : Manifest) (side : Side) :
    (r.emitted m side).filter
        (fun e => e.level = .debug ∧ e.message = "accepting channel list") =
      (r.validate m side).acceptance := by
  simpa using r.filter_emitted m side fun level message =>
    level = .debug ∧ message = "accepting channel list"

theorem tests_emitted (r : Registry) (m : Manifest) (side : Side) :
    (r.emitted m side).filter
        (fun e => e.level = .debug ∧ e.message = "channel version test") =
      r.testedEvents m side := by
  simpa using r.filter_emitted m side fun level message =>
    level = .debug ∧ message = "channel version test"

/-- An error is logged for a peer that is refused, and for no other. -/
theorem exists_error_iff (r : Registry) (m : Manifest) (side : Side) :
    (∃ e ∈ r.emitted m side, e.level = .error) ↔
      (r.validate m side).isAccepted = false := by
  rw [← Bool.not_eq_true, ← Report.errors_eq_nil_iff, ← errors_emitted]
  simp only [List.filter_eq_nil_iff, decide_eq_true_eq, not_forall, not_not, exists_prop]

end Registry

theorem State.events_validate (s : State) (m : Manifest) (side : Side) :
    (s.validate m side).2.journal.events = s.journal.events ++ s.registry.emitted m side := by
  have htests : (s.registry.channels.flatMap fun c => c.eventsOn side (m.entriesFor c.name)) =
      s.registry.testedEvents m side :=
    Channel.flatMap_eq_map_filter (fun c => c.eventsOn_eq side m) s.registry.channels
  rw [journal_validate, Report.countIn_eq, htests]
  simp [Journal.log, Journal.recordCalls, Registry.emitted]

/-- Refusals are logged as errors that name the peer and the channels. A validation logs an error if
and only if it refuses the peer: one with the duplicates if there are any, then one with the
channels that reject the peer if there are any. Both name the side that sent the manifest, and
what stands between the commas of their texts are the names in order. That the peer is accepted is
logged if and only if it is; and each channel that is not listed repeatedly logs its test once, in
the order of the names, with the version tested and the answer in its verdict. -/
theorem log_of_validation (s : State) (m : Manifest) (side : Side) :
    let report := (s.validate m side).1
    ∃ emitted, (s.validate m side).2.journal.events = s.journal.events ++ emitted ∧
      ((∃ e ∈ emitted, e.level = .error) ↔ report.isAccepted = false) ∧
      emitted.filter (fun e => e.level = .error) =
        (if report.duplicates = [] then []
          else [.duplicated report.duplicates side.opposite]) ++
        (if report.rejected = [] then [] else [.rejected report.rejected side.opposite]) ∧
      (report.duplicates ≠ [] → (Event.duplicated report.duplicates side.opposite).Carries
        report.duplicates side.opposite) ∧
      (report.rejected ≠ [] → (Event.rejected report.rejected side.opposite).Carries
        report.rejected side.opposite) ∧
      emitted.filter (fun e => e.level = .debug ∧ e.message = "accepting channel list") =
        (if report.isAccepted then [.accepted side.opposite] else []) ∧
      emitted.filter (fun e => e.level = .debug ∧ e.message = "channel version test") =
        (s.registry.channels.filter fun c => c.name ∉ report.duplicates).map
          (fun c => c.testedEvent side m) ∧
      s.registry.names.Pairwise (· < ·) ∧
      ∀ c ∈ s.registry.channels, c.name ∉ report.duplicates →
        ∃ remote, remote.getD absent = m.testedVersion c.name ∧
          ⟨c.name, remote, c.testFor side (m.testedVersion c.name)⟩ ∈ report.verdicts := by
  rw [s.fst_validate]
  intro report
  refine ⟨_, s.events_validate m side, s.registry.exists_error_iff m side,
    s.registry.errors_emitted m side, ?_, ?_, s.registry.acceptance_emitted m side,
    s.registry.tests_emitted m side, s.registry.pairwise_names, ?_⟩
  · intro hne
    exact Event.carries_of_fields_eq hne rfl
  · intro hne
    exact Event.carries_of_fields_eq hne rfl
  · intro c hc hnot
    obtain ⟨remote, hversion, hverdict⟩ := Channel.verdictOn_of_not_duplicate hnot side
    exact ⟨remote, hversion, hverdict ▸ Registry.verdictOn_mem_verdicts hc m side⟩

/-- A peer that repeats a channel which the registry does not have is refused with an error, though
no channel rejects it. -/
example :
    let core : ChannelName := ⟨"netreg", "core", by decide, by decide, by decide, by decide⟩
    (State.initial.validate [⟨"core", "1"⟩, ⟨"netreg:core", "2"⟩] .server).2.journal.events =
      [.duplicated [core] .client] := by
  cbv

end ChannelHandshake
