import ChannelHandshake.Proofs.ChannelName.Order
import ChannelHandshake.Proofs.Manifest.Accepted
import ChannelHandshake.Proofs.Manifest.RoundTrip
import ChannelHandshake.Registry.Handshake

/-!
# What a channel makes of a peer

A channel's verdict depends on the entries of the peer's manifest whose names spell the channel: on
none of them it tests absence, on one of them the listed version, and on several it tests nothing
and refuses. `Channel.judge_eq` says so of the turn of one channel, with the call and the event of
its test, and `Channel.judgeAll_eq` of the walk over all of them; what a validation returns, calls
and logs is read off that walk (`State.fst_validate`, `State.calls_validate`,
`State.events_validate`).

A manifest that was received holds no version of absence, and so a peer can be taken for one without
the channel only by not listing it (`absence_not_forged`).
-/

namespace ChannelHandshake

namespace Manifest

/-- The entries whose names spell `name`. -/
def entriesFor (m : Manifest) (name : ChannelName) : Manifest :=
  m.filter fun e => (ChannelName.parse e.name).toOption = some name

theorem mem_entriesFor_iff {m : Manifest} {e : Entry} {name : ChannelName} :
    e ∈ m.entriesFor name ↔ e ∈ m ∧ (ChannelName.parse e.name).toOption = some name := by
  simp [entriesFor]

theorem entriesFor_cons_of_eq {m : Manifest} {e : Entry} {name : ChannelName}
    (h : (ChannelName.parse e.name).toOption = some name) :
    entriesFor (e :: m) name = e :: m.entriesFor name :=
  List.filter_cons_of_pos (by simpa using h)

theorem entriesFor_cons_of_ne {m : Manifest} {e : Entry} {name : ChannelName}
    (h : (ChannelName.parse e.name).toOption ≠ some name) :
    entriesFor (e :: m) name = m.entriesFor name :=
  List.filter_cons_of_neg (by simpa using h)

theorem readable_cons_of_eq_some {m : Manifest} {e : Entry} {name : ChannelName}
    (h : (ChannelName.parse e.name).toOption = some name) :
    readable (e :: m) = (name, e.version) :: m.readable := by
  simp [readable, h]

theorem readable_cons_of_eq_none {m : Manifest} {e : Entry}
    (h : (ChannelName.parse e.name).toOption = none) : readable (e :: m) = m.readable := by
  simp [readable, h]

theorem count_readable (m : Manifest) (name : ChannelName) :
    (m.readable.map Prod.fst).count name = (m.entriesFor name).length := by
  induction m with
  | nil => rfl
  | cons e m ih =>
    cases hparse : (ChannelName.parse e.name).toOption with
    | none =>
      rw [readable_cons_of_eq_none hparse, entriesFor_cons_of_ne (by simp [hparse]), ih]
    | some n =>
      rw [readable_cons_of_eq_some hparse, List.map_cons]
      by_cases hn : n = name
      · rw [entriesFor_cons_of_eq (by rw [hparse, hn]), List.length_cons, hn,
          List.count_cons_self, ih]
      · rw [entriesFor_cons_of_ne (by simp [hparse, hn]), List.count_cons_of_ne hn, ih]

theorem lookup_readable (m : Manifest) (name : ChannelName) :
    m.readable.lookup name = (m.entriesFor name).head?.map Entry.version := by
  induction m with
  | nil => rfl
  | cons e m ih =>
    cases hparse : (ChannelName.parse e.name).toOption with
    | none =>
      rw [readable_cons_of_eq_none hparse, entriesFor_cons_of_ne (by simp [hparse]), ih]
    | some n =>
      rw [readable_cons_of_eq_some hparse]
      by_cases hn : n = name
      · rw [entriesFor_cons_of_eq (by rw [hparse, hn]), hn, List.lookup_cons_self]
        rfl
      · have hne : (name == n) = false := by simpa using Ne.symm hn
        rw [entriesFor_cons_of_ne (by simp [hparse, hn]), List.lookup_cons, hne, ih]

/-- A channel is listed more than once if several entries spell its name. -/
theorem mem_duplicates_iff {m : Manifest} {name : ChannelName} :
    name ∈ m.duplicates ↔ 2 ≤ (m.entriesFor name).length := by
  rw [duplicates, ChannelName.mem_duplicates_iff, count_readable]

end Manifest

namespace Channel

/-- The verdict of a channel for which the peer has these entries. -/
def verdictOn (c : Channel) (side : Side) : Manifest → Verdict
  | [] => ⟨c.name, none, c.testFor side absent⟩
  | [e] => ⟨c.name, some e.version, c.testFor side e.version⟩
  | _ => ⟨c.name, none, false⟩

/-- The tests that a channel makes for which the peer has these entries. -/
def testsOn (c : Channel) (side : Side) : Manifest → List Call
  | [] => [.test side c.name absent (c.testFor side absent)]
  | [e] => [.test side c.name e.version (c.testFor side e.version)]
  | _ => []

/-- What a channel logs for which the peer has these entries. -/
def eventsOn (c : Channel) (side : Side) : Manifest → List Event
  | [] => [.tested c.name absent side.opposite (c.testFor side absent)]
  | [e] => [.tested c.name e.version side.opposite (c.testFor side e.version)]
  | _ => []

theorem name_verdictOn (c : Channel) (side : Side) (entries : Manifest) :
    (c.verdictOn side entries).name = c.name := by
  unfold verdictOn
  split <;> rfl

/-- The turn of a channel: its verdict, and the call and the event of its test if it makes one. -/
theorem judge_eq (m : Manifest) (side : Side) (c : Channel) (j : Journal) :
    c.judge m.readable m.duplicates side j =
      (c.verdictOn side (m.entriesFor c.name),
        (j.recordCalls (c.testsOn side (m.entriesFor c.name))).log
          (c.eventsOn side (m.entriesFor c.name))) := by
  have hduplicate : c.name ∈ m.duplicates ↔ 2 ≤ (m.entriesFor c.name).length :=
    Manifest.mem_duplicates_iff
  have hlookup := Manifest.lookup_readable m c.name
  rcases hentries : m.entriesFor c.name with _ | ⟨e, _ | ⟨e', rest⟩⟩
  · rw [judge, if_neg (by simp [hduplicate, hentries]), hlookup, hentries]
    rfl
  · rw [judge, if_neg (by simp [hduplicate, hentries]), hlookup, hentries]
    rfl
  · rw [judge, if_pos (by simp [hduplicate, hentries])]
    simp [verdictOn, testsOn, eventsOn, Journal.recordCalls, Journal.log]

/-- A channel that is not listed repeatedly has a verdict on the version found for it. -/
theorem verdictOn_of_not_mem_duplicates {m : Manifest} {c : Channel} (h : c.name ∉ m.duplicates)
    (side : Side) :
    c.verdictOn side (m.entriesFor c.name) =
      ⟨c.name, m.readable.lookup c.name,
        c.testFor side ((m.readable.lookup c.name).getD absent)⟩ := by
  have hturn := congrArg Prod.fst (judge_eq m side c .empty)
  rw [judge, if_neg h] at hturn
  exact hturn.symm

/-- The walk over the channels: the turns one after the other. -/
theorem judgeAll_eq (m : Manifest) (side : Side) (channels : List Channel) (j : Journal) :
    judgeAll m.readable m.duplicates side channels j =
      (channels.map fun c => c.verdictOn side (m.entriesFor c.name),
        (j.recordCalls (channels.flatMap fun c => c.testsOn side (m.entriesFor c.name))).log
          (channels.flatMap fun c => c.eventsOn side (m.entriesFor c.name))) := by
  induction channels generalizing j with
  | nil => simp [judgeAll, Journal.recordCalls, Journal.log]
  | cons c channels ih =>
    rw [judgeAll, judge_eq]
    dsimp only
    rw [ih]
    simp [Journal.recordCalls, Journal.log]

end Channel

/-- A validation puts the verdicts of the channels together. -/
theorem State.fst_validate_eq (s : State) (m : Manifest) (side : Side) :
    (s.validate m side).1 =
      { side, duplicates := m.duplicates,
        verdicts := s.registry.channels.map fun c => c.verdictOn side (m.entriesFor c.name) } := by
  rw [validate, Channel.judgeAll_eq]

namespace Registry

theorem validate_eq (r : Registry) (m : Manifest) (side : Side) :
    r.validate m side =
      { side, duplicates := m.duplicates,
        verdicts := r.channels.map fun c => c.verdictOn side (m.entriesFor c.name) } :=
  State.fst_validate_eq ⟨r, .empty⟩ m side

/-- The channels that do not accept are in the order of the registry. -/
theorem pairwise_rejected (r : Registry) (m : Manifest) (side : Side) :
    (r.validate m side).rejected.Pairwise (· < ·) := by
  rw [Report.rejected, validate_eq, List.pairwise_map]
  refine List.Pairwise.filter _ (List.pairwise_map.2 (r.sorted.imp ?_))
  intro a b hlt
  rwa [Channel.name_verdictOn, Channel.name_verdictOn]

/-- The calls of the tests of a registry, one channel after the other. -/
def tests (r : Registry) (m : Manifest) (side : Side) : List Call :=
  r.channels.flatMap fun c => c.testsOn side (m.entriesFor c.name)

end Registry

namespace State

theorem fst_validate (s : State) (m : Manifest) (side : Side) :
    (s.validate m side).1 = s.registry.validate m side :=
  (s.fst_validate_eq m side).trans (s.registry.validate_eq m side).symm

/-- What is written to the journal: unreadable entries, then the tests, then the outcome. -/
theorem journal_validate (s : State) (m : Manifest) (side : Side) :
    (s.validate m side).2.journal =
      (s.registry.validate m side).countIn
        ((((s.journal.log m.unreadableEvents).recordCalls (s.registry.tests m side)).log
          (s.registry.channels.flatMap fun c => c.eventsOn side (m.entriesFor c.name))).log
            (s.registry.validate m side).closingEvents) := by
  rw [Registry.validate_eq, validate, Channel.judgeAll_eq]
  rfl

end State

/-! ## The tests of one channel -/

/-- The call is one of a test of the channel `name`. -/
def Call.isTestOf (name : ChannelName) : Call → Bool
  | .test _ channel _ _ => channel = name
  | _ => false

namespace Channel

theorem filter_testsOn (c : Channel) (name : ChannelName) (side : Side) (entries : Manifest) :
    (c.testsOn side entries).filter (Call.isTestOf name) =
      if c.name = name then c.testsOn side entries else [] := by
  rcases entries with _ | ⟨e, _ | ⟨e', rest⟩⟩ <;> by_cases h : c.name = name <;>
    simp [testsOn, Call.isTestOf, h]

/-- Channels of a registry have names of their own. -/
theorem Sorted.flatMap_eq {α : Type} {channels : List Channel} (hsorted : Sorted channels)
    {c : Channel} (hc : c ∈ channels) (f : Channel → List α) :
    (channels.flatMap fun d => if d.name = c.name then f d else []) = f c := by
  induction channels with
  | nil => simp at hc
  | cons d channels ih =>
    have hd := List.pairwise_cons.1 hsorted
    rw [List.flatMap_cons]
    rcases List.mem_cons.1 hc with rfl | hmem
    · -- no later channel has the name of the first
      have hrest : (channels.flatMap fun d => if d.name = c.name then f d else []) = [] := by
        rw [List.flatMap_eq_nil_iff]
        intro x hx
        have hne : x.name ≠ c.name := fun heq =>
          ChannelName.lt_irrefl c.name (heq ▸ hd.1 x hx)
        rw [if_neg hne]
      rw [if_pos rfl, hrest, List.append_nil]
    · have hne : d.name ≠ c.name := fun heq =>
        ChannelName.lt_irrefl c.name (heq ▸ hd.1 c hmem)
      rw [if_neg hne, List.nil_append, ih hd.2 hmem]

end Channel

theorem Registry.filter_tests {r : Registry} {c : Channel} (hc : c ∈ r.channels)
    (m : Manifest) (side : Side) :
    (r.tests m side).filter (Call.isTestOf c.name) = c.testsOn side (m.entriesFor c.name) := by
  rw [tests, List.filter_flatMap]
  simp only [Channel.filter_testsOn]
  exact r.sorted.flatMap_eq hc fun d => d.testsOn side (m.entriesFor d.name)

/-- Counting changes the metrics alone. -/
theorem Report.countIn_eq (r : Report) (j : Journal) :
    r.countIn j = { j with metrics := (r.countIn j).metrics } := by
  have hfold : ∀ (names : List ChannelName) (j : Journal), ∃ metrics,
      names.foldl (fun j name => j.count (.rejections r.side name) 1) j = { j with metrics } := by
    intro names
    induction names with
    | nil => intro j; exact ⟨j.metrics, rfl⟩
    | cons name names ih => intro j; exact ih (j.count (.rejections r.side name) 1)
  obtain ⟨metrics, hmetrics⟩ := hfold r.rejected (j.count (.validations r.side r.isAccepted) 1)
  rw [countIn, hmetrics]
  rfl

/-- A validation makes the tests of the channels and no other call. -/
theorem State.calls_validate (s : State) (m : Manifest) (side : Side) :
    (s.validate m side).2.journal.calls = s.journal.calls ++ s.registry.tests m side := by
  rw [journal_validate, Report.countIn_eq]
  rfl

/-! ## Absence -/

/-- The version of absence is tested only where the peer lists nothing. -/
theorem Channel.test_absent_mem_testsOn_iff (c : Channel) (side : Side) {entries : Manifest}
    (hversion : ∀ e ∈ entries, e.version ≠ absent) :
    (∃ side' accepted, Call.test side' c.name absent accepted ∈ c.testsOn side entries) ↔
      entries = [] := by
  rcases entries with _ | ⟨e, _ | ⟨e', rest⟩⟩
  · simp [testsOn]
  · have he : absent ≠ e.version := (hversion e List.mem_cons_self).symm
    simp [testsOn, he]
  · simp [testsOn]

/-- A peer cannot pass for one without a channel that it lists. What is read from a payload has
distinct names and no version of absence; and a validation of it tests every channel once on what
the peer lists for it, on absence exactly where the peer lists nothing, and not at all where the
peer lists it repeatedly, which is refused. -/
theorem absence_not_forged (payload : List UInt8) (m : Manifest)
    (h : Manifest.Accepts payload m) :
    ((m.map Entry.name).Nodup ∧ (∀ e ∈ m, e.version ≠ absent) ∧
      ∀ name version, m.versionOf name = some version ↔ ⟨name, version⟩ ∈ m) ∧
    ∀ (s : State) (side : Side), ∃ calls,
      (s.validate m side).2.journal.calls = s.journal.calls ++ calls ∧
      (s.validate m side).1.verdicts =
        s.registry.channels.map (fun c => c.verdictOn side (m.entriesFor c.name)) ∧
      (∀ c ∈ s.registry.channels,
        calls.filter (Call.isTestOf c.name) = c.testsOn side (m.entriesFor c.name) ∧
        ((∃ side' accepted, Call.test side' c.name absent accepted ∈ calls) ↔
          m.entriesFor c.name = [])) ∧
      ∀ v ∈ (s.validate m side).1.verdicts,
        (v.accepted = true → v.remote = none → m.entriesFor v.name = []) ∧
        v.remote ≠ some absent := by
  have hclean := h.clean
  refine ⟨⟨hclean.names_nodup, hclean.version_ne_absent,
    fun name version => hclean.versionOf_eq_some_iff⟩, ?_⟩
  intro s side
  have hverdicts : (s.validate m side).1.verdicts =
      s.registry.channels.map (fun c => c.verdictOn side (m.entriesFor c.name)) := by
    rw [State.fst_validate_eq]
  have hversion : ∀ name, ∀ e ∈ m.entriesFor name, e.version ≠ absent := fun name e he =>
    hclean.version_ne_absent e (Manifest.mem_entriesFor_iff.1 he).1
  refine ⟨s.registry.tests m side, s.calls_validate m side, hverdicts, ?_, ?_⟩
  · intro c hc
    have hfilter := Registry.filter_tests hc m side
    refine ⟨hfilter, ?_⟩
    rw [← Channel.test_absent_mem_testsOn_iff c side (hversion c.name), ← hfilter]
    simp [Call.isTestOf]
  · intro v hv
    rw [hverdicts] at hv
    obtain ⟨c, hc, rfl⟩ := List.mem_map.1 hv
    rw [Channel.name_verdictOn]
    have hc' := hversion c.name
    rcases hentries : m.entriesFor c.name with _ | ⟨e, _ | ⟨e', rest⟩⟩
    · simp [Channel.verdictOn]
    · rw [hentries] at hc'
      simp [Channel.verdictOn, hc' e List.mem_cons_self]
    · simp [Channel.verdictOn]

/-- A peer that lists one channel under both its spellings. -/
theorem absence_not_forged_by_two_spellings :
    let m : Manifest := [⟨"core", "1"⟩, ⟨"netreg:core", "\n"⟩]
    let core : ChannelName := ⟨"netreg", "core", by decide, by decide, by decide, by decide⟩
    let s := (State.initial.register (.accepting core "1")).2
    Manifest.Accepts (Utf8.encode m.encodeList) m ∧ m.versionOf "core" = some "1" ∧
      (s.validate m .server).1.verdicts = [⟨core, none, false⟩] := by
  intro m core s
  have hclean : m.Clean := ⟨by decide, by decide⟩
  have hsize : (Utf8.encode m.encodeList).length ≤ maxPayloadBytes := by
    refine Nat.le_trans (Json.Value.length_encode_render_le _) ?_
    simp only [m, Manifest.toJson, Entry.toJson, Json.Value.tokens, List.map_cons, List.map_nil]
    decide
  have haccepts : Manifest.Accepts (Utf8.encode m.encodeList) m :=
    .inl (((Manifest.decodeList_encodeList m).iff_eq _).2 (.accepted hsize hclean))
  obtain ⟨⟨-, -, hversion⟩, hvalidate⟩ := absence_not_forged _ m haccepts
  obtain ⟨calls, -, hverdicts, -⟩ := hvalidate s .server
  refine ⟨haccepts, (hversion "core" "1").2 List.mem_cons_self, hverdicts.trans ?_⟩
  decide

end ChannelHandshake
