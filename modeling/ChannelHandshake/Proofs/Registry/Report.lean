import ChannelHandshake.Proofs.Registry.Advertisement
import ChannelHandshake.Proofs.Registry.Verdict

/-!
# What a report says

A report describes a manifest as a registry sees it: the channels that several entries spell, and
for each channel of the registry what it makes of the entries that spell its name. A manifest has
only one description (`Report.Describes.unique`), and a validation returns it and runs no test but
those that it rests on (`report_of_validation`).
-/

namespace ChannelHandshake

/-- The report says of `m` what the channels of `r` make of it as `side`. -/
structure Report.Describes (report : Report) (r : Registry) (m : Manifest) (side : Side) :
    Prop where
  side_eq : report.side = side
  duplicates_increasing : report.duplicates.Pairwise (· < ·)
  /-- Duplicates are the channels that several entries spell, whether the registry has them or
  not. -/
  mem_duplicates_iff : ∀ name, name ∈ report.duplicates ↔ 2 ≤ (m.entriesFor name).length
  /-- There is one verdict for each channel of the registry, in the order of the registry. -/
  names_eq : report.verdicts.map Verdict.name = r.names
  of_duplicate : ∀ c ∈ r.channels, c.name ∈ report.duplicates →
    ⟨c.name, none, false⟩ ∈ report.verdicts
  of_listed : ∀ c ∈ r.channels, ∀ e, m.entriesFor c.name = [e] →
    ⟨c.name, some e.version, c.testFor side e.version⟩ ∈ report.verdicts
  of_unlisted : ∀ c ∈ r.channels, m.entriesFor c.name = [] →
    ⟨c.name, none, c.testFor side absent⟩ ∈ report.verdicts

namespace Registry

theorem names_validate (r : Registry) (m : Manifest) (side : Side) :
    (r.validate m side).verdicts.map Verdict.name = r.names := by
  rw [validate_eq, names, List.map_map]
  exact List.map_congr_left fun c _ => c.name_verdictOn side _

theorem verdictOn_mem_verdicts {r : Registry} {c : Channel} (hc : c ∈ r.channels) (m : Manifest)
    (side : Side) : c.verdictOn side (m.entriesFor c.name) ∈ (r.validate m side).verdicts := by
  rw [validate_eq]
  exact List.mem_map.2 ⟨c, hc, rfl⟩

theorem validate_describes (r : Registry) (m : Manifest) (side : Side) :
    (r.validate m side).Describes r m side where
  side_eq := rfl
  duplicates_increasing := ChannelName.pairwise_duplicates _
  mem_duplicates_iff _ := Manifest.mem_duplicates_iff
  names_eq := r.names_validate m side
  of_duplicate c hc hduplicate := by
    have hmem := verdictOn_mem_verdicts hc m side
    have hlength := Manifest.mem_duplicates_iff.1 hduplicate
    rcases hentries : m.entriesFor c.name with _ | ⟨e, _ | ⟨e', rest⟩⟩
    · simp [hentries] at hlength
    · simp [hentries] at hlength
    · rwa [hentries] at hmem
  of_listed c hc e he := by
    have hmem := verdictOn_mem_verdicts hc m side
    rwa [he] at hmem
  of_unlisted c hc hnil := by
    have hmem := verdictOn_mem_verdicts hc m side
    rwa [hnil] at hmem

end Registry

/-! ## One description -/

/-- Verdicts in the same order of distinct names are the same if each of the one list is in the
other. -/
theorem Verdict.eq_of_map_name_eq {verdicts verdicts' : List Verdict}
    (hnames : verdicts.map Verdict.name = verdicts'.map Verdict.name)
    (hnodup : (verdicts.map Verdict.name).Nodup) (hsubset : verdicts' ⊆ verdicts) :
    verdicts = verdicts' := by
  induction verdicts generalizing verdicts' with
  | nil => exact (List.map_eq_nil_iff.1 hnames.symm).symm
  | cons v verdicts ih =>
    obtain ⟨v', rest, rfl, hv, hrest⟩ := List.map_eq_cons_iff.1 hnames.symm
    obtain ⟨hnotmem, hnodup'⟩ := List.nodup_cons.1 hnodup
    -- a verdict of the name of `v` is `v` itself, for no later one has this name
    have hhead : v' = v := by
      refine (List.mem_cons.1 (hsubset List.mem_cons_self)).resolve_right fun hmem => ?_
      exact hnotmem (hv ▸ List.mem_map_of_mem hmem)
    have htail : rest ⊆ verdicts := by
      intro w hw
      refine (List.mem_cons.1 (hsubset (List.mem_cons_of_mem v' hw))).resolve_left ?_
      rintro rfl
      exact hnotmem (hrest ▸ List.mem_map_of_mem hw)
    rw [hhead, ih hrest.symm hnodup' htail]

namespace Report.Describes

variable {report report' : Report} {r : Registry} {m : Manifest} {side : Side}

theorem verdictOn_mem (h : report.Describes r m side) {c : Channel} (hc : c ∈ r.channels) :
    c.verdictOn side (m.entriesFor c.name) ∈ report.verdicts := by
  rcases hentries : m.entriesFor c.name with _ | ⟨e, _ | ⟨e', rest⟩⟩
  · exact h.of_unlisted c hc hentries
  · exact h.of_listed c hc e hentries
  · exact h.of_duplicate c hc ((h.mem_duplicates_iff c.name).2 (by simp [hentries]))

theorem verdicts_eq (h : report.Describes r m side) :
    report.verdicts = r.channels.map fun c => c.verdictOn side (m.entriesFor c.name) := by
  have hnames := r.names_validate m side
  rw [Registry.validate_eq] at hnames
  refine Verdict.eq_of_map_name_eq (h.names_eq.trans hnames.symm) ?_ ?_
  · rw [h.names_eq]
    exact r.nodup_names
  · intro v hv
    obtain ⟨c, hc, rfl⟩ := List.mem_map.1 hv
    exact h.verdictOn_mem hc

/-- There is one report only that describes a manifest. -/
theorem unique (h : report.Describes r m side) (h' : report'.Describes r m side) :
    report = report' := by
  have hduplicates : report.duplicates = report'.duplicates :=
    ChannelName.eq_of_pairwise_lt h.duplicates_increasing h'.duplicates_increasing fun name =>
      (h.mem_duplicates_iff name).trans (h'.mem_duplicates_iff name).symm
  have hverdicts := h.verdicts_eq.trans h'.verdicts_eq.symm
  have hside := h.side_eq.trans h'.side_eq.symm
  cases report
  cases report'
  simp_all

end Report.Describes

/-! ## The tests that are run -/

/-- The version that a channel tests which is not listed repeatedly. -/
def Manifest.testedVersion (m : Manifest) (name : ChannelName) : String :=
  ((m.entriesFor name).head?.map Entry.version).getD absent

/-- The one test that a channel runs which is not listed repeatedly. -/
def Channel.testOn (c : Channel) (side : Side) (m : Manifest) : Call :=
  .test side c.name (m.testedVersion c.name) (c.testFor side (m.testedVersion c.name))

/-- A channel that is not listed repeatedly has a verdict on the version that it tests. -/
theorem Channel.verdictOn_of_not_duplicate {m : Manifest} {c : Channel}
    (hc : c.name ∉ m.duplicates) (side : Side) :
    ∃ remote, remote.getD absent = m.testedVersion c.name ∧
      c.verdictOn side (m.entriesFor c.name) =
        ⟨c.name, remote, c.testFor side (m.testedVersion c.name)⟩ := by
  have hversion : (m.readable.lookup c.name).getD absent = m.testedVersion c.name := by
    rw [Manifest.lookup_readable, Manifest.testedVersion]
  exact ⟨m.readable.lookup c.name, hversion, hversion ▸ verdictOn_of_not_mem_duplicates hc side⟩

/-- A channel runs its test once, unless it is listed repeatedly. -/
theorem Channel.testsOn_eq (c : Channel) (side : Side) (m : Manifest) :
    c.testsOn side (m.entriesFor c.name) =
      if c.name ∈ m.duplicates then [] else [c.testOn side m] := by
  rcases hentries : m.entriesFor c.name with _ | ⟨e, _ | ⟨e', rest⟩⟩ <;>
    simp [testsOn, testOn, Manifest.testedVersion, Manifest.mem_duplicates_iff, hentries]

/-- Channels contribute to a list one item each, but for those that are left out. -/
theorem Channel.flatMap_eq_map_filter {α : Type} {items : Channel → List α} {item : Channel → α}
    {left : List ChannelName} (h : ∀ c, items c = if c.name ∈ left then [] else [item c])
    (channels : List Channel) :
    channels.flatMap items = (channels.filter fun c => c.name ∉ left).map item := by
  induction channels with
  | nil => rfl
  | cons c channels ih =>
    rw [List.flatMap_cons, ih, h, List.filter_cons]
    by_cases hc : c.name ∈ left <;> simp [hc]

/-- Each channel that is not listed repeatedly runs its test once, in the order of the names. -/
theorem Registry.tests_eq (r : Registry) (m : Manifest) (side : Side) :
    r.tests m side =
      (r.channels.filter fun c => c.name ∉ m.duplicates).map fun c => c.testOn side m :=
  Channel.flatMap_eq_map_filter (fun c => c.testsOn_eq side m) r.channels

/-- A peer is accepted if it repeats no channel and no channel rejects it. -/
theorem Report.isAccepted_iff (report : Report) :
    report.isAccepted = true ↔ report.duplicates = [] ∧ report.rejected = [] := by
  simp [isAccepted, rejected]

/-- A validation returns the one report that describes the manifest. It runs the test of each
channel that is not listed repeatedly, once and in the order of the names, calls nothing else and
leaves the registry as it is. -/
theorem report_of_validation (s : State) (m : Manifest) (side : Side) :
    let report := (s.validate m side).1
    (∀ report', report = report' ↔ report'.Describes s.registry m side) ∧
    s.registry.names.Pairwise (· < ·) ∧
    (report.isAccepted = true ↔ report.duplicates = [] ∧ report.rejected = []) ∧
    (s.validate m side).2.journal.calls =
      s.journal.calls ++
        (s.registry.channels.filter fun c => c.name ∉ report.duplicates).map
          (fun c => c.testOn side m) ∧
    (s.validate m side).2.registry = s.registry := by
  intro report
  have hreport : report = s.registry.validate m side := s.fst_validate m side
  have hdescribes : report.Describes s.registry m side :=
    hreport ▸ s.registry.validate_describes m side
  have hcalls : (s.validate m side).2.journal.calls =
      s.journal.calls ++
        (s.registry.channels.filter fun c => c.name ∉ report.duplicates).map
          (fun c => c.testOn side m) := by
    rw [s.calls_validate, s.registry.tests_eq]
    rfl
  refine ⟨fun report' => ?_, s.registry.pairwise_names, report.isAccepted_iff, hcalls, rfl⟩
  constructor
  · rintro rfl
    exact hdescribes
  · exact hdescribes.unique

end ChannelHandshake
