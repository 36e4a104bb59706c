import ChannelHandshake.Proofs.ChannelName.Spelling
import ChannelHandshake.Proofs.Registry.Verdict

/-!
# The duplicates that a receiver can meet

A manifest that was received lists no text twice, and a name has two spellings at most. So what a
peer lists for a channel are its spellings, each of them once or not at all
(`Clean.perm_names_entriesFor`), and a channel can be listed repeatedly only under the two
spellings that names of the default namespace have (`duplicates_of_received`).
-/

namespace ChannelHandshake

namespace Manifest

theorem mem_entriesFor_iff_spellings {m : Manifest} {e : Entry} {name : ChannelName} :
    e ∈ m.entriesFor name ↔ e ∈ m ∧ e.name ∈ name.spellings := by
  rw [mem_entriesFor_iff, ← ChannelName.parse_eq_ok_iff]
  cases ChannelName.parse e.name <;> simp [Except.toOption]

/-- The names under which a peer lists a channel are the spellings of the channel that it lists. -/
theorem Clean.perm_names_entriesFor {m : Manifest} (hclean : m.Clean) (name : ChannelName) :
    ((m.entriesFor name).map Entry.name).Perm
      (name.spellings.filter fun text => text ∈ m.map Entry.name) := by
  have hsublist : ((m.entriesFor name).map Entry.name).Sublist (m.map Entry.name) :=
    List.filter_sublist.map Entry.name
  have hnodup := hsublist.nodup hclean.names_nodup
  have hspellings := name.nodup_spellings.filter fun text => text ∈ m.map Entry.name
  rw [List.perm_ext_iff_of_nodup hnodup hspellings]
  intro text
  simp only [List.mem_map, List.mem_filter, mem_entriesFor_iff_spellings, decide_eq_true_eq]
  constructor
  · rintro ⟨e, ⟨he, hspelling⟩, rfl⟩
    exact ⟨hspelling, e, he, rfl⟩
  · rintro ⟨hspelling, e, he, rfl⟩
    exact ⟨e, ⟨he, hspelling⟩, rfl⟩

/-- Only a name of the default namespace is listed repeatedly, and only under both spellings. -/
theorem Clean.mem_duplicates_iff {m : Manifest} (hclean : m.Clean) {name : ChannelName} :
    name ∈ m.duplicates ↔
      name.scope = defaultNamespace ∧ name.path ∈ m.map Entry.name ∧
        name.text ∈ m.map Entry.name := by
  have hlength := (hclean.perm_names_entriesFor name).length_eq
  rw [List.length_map] at hlength
  rw [Manifest.mem_duplicates_iff, hlength, ChannelName.spellings]
  by_cases hscope : name.scope = defaultNamespace
  · rw [if_pos hscope]
    by_cases hpath : name.path ∈ m.map Entry.name <;>
      by_cases htext : name.text ∈ m.map Entry.name <;>
        simp [-List.mem_map, hscope, hpath, htext]
  · rw [if_neg hscope]
    by_cases htext : name.text ∈ m.map Entry.name <;>
      simp [-List.mem_map, hscope, htext]

/-- A channel that is listed repeatedly is listed twice, once under each spelling. -/
theorem Clean.perm_entriesFor_of_mem_duplicates {m : Manifest} (hclean : m.Clean)
    {name : ChannelName} (h : name ∈ m.duplicates) :
    ∃ version version',
      (m.entriesFor name).Perm [⟨name.path, version⟩, ⟨name.text, version'⟩] := by
  obtain ⟨hscope, hpath, htext⟩ := hclean.mem_duplicates_iff.1 h
  have hnames := hclean.perm_names_entriesFor name
  rw [ChannelName.spellings, if_pos hscope, List.filter_cons_of_pos (by simpa using hpath),
    List.filter_cons_of_pos (by simpa using htext), List.filter_nil] at hnames
  generalize m.entriesFor name = entries at hnames ⊢
  have hlength : entries.length = 2 := by simpa using hnames.length_eq
  have hpath' : name.path ∈ entries.map Entry.name := hnames.mem_iff.2 (by simp)
  have htext' : name.text ∈ entries.map Entry.name := hnames.mem_iff.2 (by simp)
  have hne := name.path_ne_text
  match entries with
  | [e, e'] =>
    simp only [List.map_cons, List.map_nil, List.mem_cons, List.not_mem_nil, or_false]
      at hpath' htext'
    rcases hpath' with hpath' | hpath'
    · have htext' := htext'.resolve_left fun h => hne (hpath'.trans h.symm)
      exact ⟨e.version, e'.version, hpath' ▸ htext' ▸ .refl _⟩
    · have htext' := htext'.resolve_right fun h => hne (hpath'.trans h.symm)
      exact ⟨e'.version, e.version, hpath' ▸ htext' ▸ .swap _ _ _⟩

end Manifest

/-- Of a received manifest, the duplicates that a validation reports are the names `netreg:path`
that the peer lists both in full and by the path alone; each of them it lists exactly twice. A peer
that writes every name with a colon is not refused for duplicates. -/
theorem duplicates_of_received (payload : List UInt8) (m : Manifest)
    (h : Manifest.decode payload = .ok m) (s : State) (side : Side) :
    let report := (s.validate m side).1
    (∀ name, name ∈ report.duplicates ↔
      ∃ path, ChannelName.make "netreg" path = .ok name ∧
        path ∈ m.map Entry.name ∧ "netreg:" ++ path ∈ m.map Entry.name) ∧
    (∀ name ∈ report.duplicates, ∃ version version',
      (m.entriesFor name).Perm [⟨name.path, version⟩, ⟨"netreg:" ++ name.path, version'⟩]) ∧
    ((∀ e ∈ m, ':' ∈ e.name.toList) → report.duplicates = []) := by
  intro report
  have hclean : m.Clean := Manifest.Accepts.clean (.inr (.inr h))
  have htext : ∀ name : ChannelName, name.scope = "netreg" →
      name.text = "netreg:" ++ name.path := by
    intro name hscope
    rw [ChannelName.text, hscope]
    rfl
  have hmem : ∀ name, name ∈ report.duplicates ↔ name ∈ m.duplicates := fun _ => Iff.rfl
  refine ⟨?_, ?_, ?_⟩
  · intro name
    rw [hmem, hclean.mem_duplicates_iff]
    constructor
    · rintro ⟨hscope, hpath, hfull⟩
      have hmake := ChannelName.make_eq_ok_iff.2 ⟨hscope, rfl⟩
      exact ⟨name.path, hmake, hpath, htext name hscope ▸ hfull⟩
    · rintro ⟨path, hmake, hpath, hfull⟩
      obtain ⟨hscope, rfl⟩ := ChannelName.make_eq_ok_iff.1 hmake
      exact ⟨hscope, hpath, (htext name hscope).symm ▸ hfull⟩
  · intro name hname
    have hscope := (hclean.mem_duplicates_iff.1 hname).1
    rw [← htext name hscope]
    exact hclean.perm_entriesFor_of_mem_duplicates hname
  · intro hcolon
    rw [List.eq_nil_iff_forall_not_mem]
    intro name hname
    obtain ⟨e, he, hpath⟩ := List.mem_map.1 (hclean.mem_duplicates_iff.1 hname).2.1
    exact name.colon_not_mem_path (hpath ▸ hcolon e he)

/-- A peer that lists one channel under both its spellings and another one once. -/
theorem duplicates_of_received_core :
    let m : Manifest := [⟨"core", "1"⟩, ⟨"a:core", "1"⟩, ⟨"netreg:core", "2"⟩]
    let core : ChannelName := ⟨"netreg", "core", by decide, by decide, by decide, by decide⟩
    Manifest.decode (Utf8.encode m.encodeList) = .ok m ∧
      ∀ (s : State) (side : Side),
        core ∈ (s.validate m side).1.duplicates ∧ (m.entriesFor core).length = 2 := by
  intro m core
  have hclean : m.Clean := ⟨by decide, by decide⟩
  have hsize : (Utf8.encode m.encodeList).length ≤ maxPayloadBytes :=
    Nat.le_trans (Manifest.length_encodeList_le m) (by decide)
  have hdecode : Manifest.decode (Utf8.encode m.encodeList) = .ok m := by
    rw [Manifest.decode_encodeList]
    exact ((Manifest.decodeList_encodeList m).iff_eq _).2 (.accepted hsize hclean)
  refine ⟨hdecode, fun s side => ?_⟩
  obtain ⟨hmem, htwice, -⟩ := duplicates_of_received _ m hdecode s side
  have hcore := (hmem core).2 ⟨"core", rfl, by decide, by decide⟩
  obtain ⟨version, version', hperm⟩ := htwice core hcore
  exact ⟨hcore, hperm.length_eq⟩

end ChannelHandshake
