import ChannelHandshake.Proofs.Manifest.Permutation
import ChannelHandshake.Proofs.Registry.Verdict

/-!
# Manifests that mean the same

For a report it counts which versions a manifest lists for a channel, not where in the list they
stand nor how the channel is spelled (`validate_congr`). So entries may be put in another order or
be spelled otherwise, and entries that no channel of the registry reads may come and go
(`outcome_of_reordering`).
-/

namespace ChannelHandshake

/-! ## Versions for a channel -/

/-- The versions that are listed for a channel, under whatever spelling. -/
def Manifest.versionsFor (m : Manifest) (name : ChannelName) : List String :=
  (m.entriesFor name).map Entry.version

/-- A verdict rests on the versions, and on more than one of them it does not depend. -/
theorem Channel.verdictOn_congr (c : Channel) (side : Side) {entries entries' : Manifest}
    (h : (entries.map Entry.version).Perm (entries'.map Entry.version)) :
    c.verdictOn side entries = c.verdictOn side entries' := by
  have hlength := h.length_eq
  simp only [List.length_map] at hlength
  match entries, entries' with
  | [], [] => rfl
  | [e], [e'] =>
    have hversion : e.version = e'.version := by simpa using h
    rw [verdictOn, verdictOn, hversion]
  | _ :: _ :: _, _ :: _ :: _ => rfl
  | [], _ :: _ | _ :: _, [] | [_], _ :: _ :: _ | _ :: _ :: _, [_] => simp at hlength

theorem Manifest.duplicates_congr {m m' : Manifest}
    (h : ∀ name, 2 ≤ (m.versionsFor name).length ↔ 2 ≤ (m'.versionsFor name).length) :
    m.duplicates = m'.duplicates := by
  refine ChannelName.eq_of_pairwise_lt (ChannelName.pairwise_duplicates _)
    (ChannelName.pairwise_duplicates _) fun name => ?_
  have hname := h name
  simp only [versionsFor, List.length_map] at hname
  exact mem_duplicates_iff.trans (hname.trans mem_duplicates_iff.symm)

/-- Two manifests have one report if they list the same channels repeatedly, and the same versions
for the channels of the registry. -/
theorem Registry.validate_congr (r : Registry) (side : Side) {m m' : Manifest}
    (hduplicates : ∀ name, 2 ≤ (m.versionsFor name).length ↔ 2 ≤ (m'.versionsFor name).length)
    (hversions : ∀ name ∈ r.names, (m.versionsFor name).Perm (m'.versionsFor name)) :
    r.validate m side = r.validate m' side := by
  have hverdicts : (r.channels.map fun c => c.verdictOn side (m.entriesFor c.name)) =
      r.channels.map fun c => c.verdictOn side (m'.entriesFor c.name) :=
    List.map_congr_left fun c hc =>
      c.verdictOn_congr side (hversions c.name (List.mem_map_of_mem hc))
  rw [validate_eq, validate_eq, Manifest.duplicates_congr hduplicates, hverdicts]

theorem Registry.validate_of_versionsFor (r : Registry) (side : Side) {m m' : Manifest}
    (h : ∀ name, (m.versionsFor name).Perm (m'.versionsFor name)) :
    r.validate m side = r.validate m' side :=
  r.validate_congr side (fun name => by rw [(h name).length_eq]) fun name _ => h name

/-! ## Another order -/

theorem Manifest.versionsFor_of_perm {m m' : Manifest} (h : m.Perm m') (name : ChannelName) :
    (m.versionsFor name).Perm (m'.versionsFor name) :=
  (h.filter _).map _

theorem Registry.validate_of_perm (r : Registry) (side : Side) {m m' : Manifest}
    (h : m.Perm m') : r.validate m side = r.validate m' side :=
  r.validate_of_versionsFor side fun name => m.versionsFor_of_perm h name

/-! ## Entries that do not count -/

theorem Manifest.versionsFor_remove_of_ne {before after : Manifest} {e : Entry}
    {name : ChannelName} (h : (ChannelName.parse e.name).toOption ≠ some name) :
    versionsFor (before ++ e :: after) name = versionsFor (before ++ after) name := by
  simp [versionsFor, entriesFor, h]

theorem Manifest.length_versionsFor_of_only {before after : Manifest} {e : Entry}
    {name : ChannelName} (hname : (ChannelName.parse e.name).toOption = some name)
    (honly : (before ++ after).entriesFor name = []) :
    (versionsFor (before ++ e :: after) name).length = 1 := by
  simp only [entriesFor, List.filter_append, List.append_eq_nil_iff] at honly
  simp [versionsFor, entriesFor, honly, hname]

/-- The entry `e` does not count for `r` in a manifest with these other entries: its name is none,
or it is the only one for a channel that the registry does not have. -/
def Entry.IgnoredBy (e : Entry) (r : Registry) (others : Manifest) : Prop :=
  (ChannelName.parse e.name).toOption = none ∨
    ∃ name, (ChannelName.parse e.name).toOption = some name ∧ name ∉ r.names ∧
      others.entriesFor name = []

theorem Registry.validate_of_ignored (r : Registry) (side : Side) {before after : Manifest}
    {e : Entry} (h : e.IgnoredBy r (before ++ after)) :
    r.validate (before ++ e :: after) side = r.validate (before ++ after) side := by
  rcases h with hnone | ⟨name, hname, hunknown, honly⟩
  · refine r.validate_of_versionsFor side fun name => ?_
    rw [Manifest.versionsFor_remove_of_ne (by simp [hnone])]
  · have hother : ∀ n, n ≠ name → Manifest.versionsFor (before ++ e :: after) n =
        Manifest.versionsFor (before ++ after) n := by
      intro n hn
      exact Manifest.versionsFor_remove_of_ne (by simp [hname, hn.symm])
    refine r.validate_congr side ?_ ?_
    · intro n
      by_cases hn : n = name
      · -- listed once or not at all, the channel is no duplicate
        have hone := Manifest.length_versionsFor_of_only hname honly
        have hzero : (Manifest.versionsFor (before ++ after) name).length = 0 := by
          simp [Manifest.versionsFor, honly]
        rw [hn, hone, hzero]
        omega
      · rw [hother n hn]
    · intro n hn
      rw [hother n fun heq => hunknown (heq ▸ hn)]

/-- The outcome of a handshake does not depend on the order of the entries nor on their spelling.
In another order a manifest is taken in either form or refused as before, and its report is the
same; the report is the same for any two manifests that list the same versions for every channel;
and an entry that does not count may be left out. -/
theorem outcome_of_reordering :
    (∀ (form : Manifest.Form) (m m' : Manifest), m.Perm m' →
      ((∃ received, Manifest.decode (form.payload m) = .ok received) ↔
        ∃ received, Manifest.decode (form.payload m') = .ok received) ∧
      ∀ received received', Manifest.decode (form.payload m) = .ok received →
        Manifest.decode (form.payload m') = .ok received' →
        ∀ (r : Registry) (side : Side), r.validate received side = r.validate received' side) ∧
    (∀ m m' : Manifest, (∀ name, (m.versionsFor name).Perm (m'.versionsFor name)) →
      ∀ (r : Registry) (side : Side), r.validate m side = r.validate m' side) ∧
    (∀ (r : Registry) (before after : Manifest) (e : Entry), e.IgnoredBy r (before ++ after) →
      ∀ side, r.validate (before ++ e :: after) side = r.validate (before ++ after) side) := by
  refine ⟨?_, ?_, ?_⟩
  · intro form m m' h
    constructor
    · exact ⟨Manifest.exists_decode_of_perm h, Manifest.exists_decode_of_perm h.symm⟩
    · intro received received' hreceived hreceived' r side
      obtain ⟨-, -, rfl⟩ := Manifest.decode_payload_eq_ok_iff.1 hreceived
      obtain ⟨-, -, rfl⟩ := Manifest.decode_payload_eq_ok_iff.1 hreceived'
      exact r.validate_of_perm side h
  · intro m m' h r side
    exact r.validate_of_versionsFor side h
  · intro r before after e h side
    exact r.validate_of_ignored side h

end ChannelHandshake
