import Std.Data.HashMap
import Std.Data.TreeSet
import ChannelHandshake.Proofs.Registry.Verdict

/-!
# Validation in one pass

A manifest can be read in one pass that keeps for each channel the version listed last, and the
channels that have come again (`Covers.add`). Of a channel that comes again no version counts, so
that it does no harm that the last one is kept and not the first, and the report made in this way
is that of a validation (`report_foldl_add`).
-/

namespace ChannelHandshake

namespace ChannelName

instance : Ord ChannelName where
  compare a b := compareOfLessAndEq a b

theorem lt_iff_not_lt_and_ne (a b : ChannelName) : a < b ↔ ¬b < a ∧ a ≠ b := by
  constructor
  · intro h
    refine ⟨fun h' => lt_irrefl a (lt_trans h h'), ?_⟩
    rintro rfl
    exact lt_irrefl a h
  · rintro ⟨h, hne⟩
    exact (eq_or_lt_of_not_lt h).resolve_left hne.symm

instance : Std.TransOrd ChannelName :=
  Std.TransOrd.compareOfLessAndEq_of_lt_trans_of_lt_iff lt_trans lt_iff_not_lt_and_ne

theorem compare_eq_lt_iff {a b : ChannelName} : compare a b = .lt ↔ a < b := by
  simp only [compare, compareOfLessAndEq]
  split
  · simpa
  · split <;> simpa

instance : Std.LawfulEqOrd ChannelName where
  eq_of_compare {a b} h := by
    simp only [compare, compareOfLessAndEq] at h
    split at h
    · cases h
    · split at h
      · assumption
      · cases h

end ChannelName

/-- What is kept of the entries read so far. -/
structure Index where
  /-- For each channel that is listed, the last of its versions. -/
  versions : Std.HashMap ChannelName String
  /-- The channels that have come again. -/
  duplicates : Std.TreeSet ChannelName

namespace Index

/-- No entry has been read. -/
def empty : Index :=
  ⟨∅, ∅⟩

/-- The index after one more entry, which does not count if its name cannot be read. -/
def add (index : Index) (e : Entry) : Index :=
  match (ChannelName.parse e.name).toOption with
  | none => index
  | some name =>
    { versions := index.versions.insert name e.version
      duplicates :=
        if name ∈ index.versions then index.duplicates.insert name else index.duplicates }

/-- The verdict of a channel. -/
def verdict (index : Index) (side : Side) (c : Channel) : Verdict :=
  if c.name ∈ index.duplicates then ⟨c.name, none, false⟩
  else
    let remote := index.versions[c.name]?
    ⟨c.name, remote, c.testFor side (remote.getD absent)⟩

/-- The report of a registry. -/
def report (index : Index) (r : Registry) (side : Side) : Report :=
  { side, verdicts := r.channels.map (index.verdict side), duplicates := index.duplicates.toList }

/-- The index is what one knows of the entries `m`. -/
structure Covers (index : Index) (m : Manifest) : Prop where
  versions_eq : ∀ name, index.versions[name]? = (m.entriesFor name).getLast?.map Entry.version
  mem_duplicates_iff : ∀ name, name ∈ index.duplicates ↔ 2 ≤ (m.entriesFor name).length

theorem covers_empty : empty.Covers [] where
  versions_eq name := by simp [empty, Manifest.entriesFor]
  mem_duplicates_iff name := by simp [empty, Manifest.entriesFor]

variable {index : Index} {m : Manifest} {e : Entry} {name : ChannelName}

theorem entriesFor_concat_of_eq (h : (ChannelName.parse e.name).toOption = some name) :
    Manifest.entriesFor (m ++ [e]) name = m.entriesFor name ++ [e] := by
  simp [Manifest.entriesFor, h]

theorem entriesFor_concat_of_ne (h : (ChannelName.parse e.name).toOption ≠ some name) :
    Manifest.entriesFor (m ++ [e]) name = m.entriesFor name := by
  simp [Manifest.entriesFor, h]

theorem add_of_eq_none (h : (ChannelName.parse e.name).toOption = none) :
    index.add e = index := by
  simp [Index.add, h]

theorem versions_add (h : (ChannelName.parse e.name).toOption = some name) :
    (index.add e).versions = index.versions.insert name e.version := by
  simp [Index.add, h]

theorem mem_duplicates_add (h : (ChannelName.parse e.name).toOption = some name)
    (n : ChannelName) : n ∈ (index.add e).duplicates ↔
      (name = n ∧ name ∈ index.versions) ∨ n ∈ index.duplicates := by
  by_cases hlisted : name ∈ index.versions
  · simp [Index.add, h, hlisted, Std.TreeSet.mem_insert]
  · simp [Index.add, h, hlisted]

namespace Covers

theorem mem_versions_iff (h : index.Covers m) :
    name ∈ index.versions ↔ 1 ≤ (m.entriesFor name).length := by
  rw [Std.HashMap.mem_iff_isSome_getElem?, h.versions_eq]
  cases m.entriesFor name <;> simp

/-- An entry counts for the channel that it spells and for no other. -/
theorem add (h : index.Covers m) (e : Entry) : (index.add e).Covers (m ++ [e]) := by
  cases hparse : (ChannelName.parse e.name).toOption with
  | none =>
    have hsame : ∀ name, Manifest.entriesFor (m ++ [e]) name = m.entriesFor name :=
      fun name => entriesFor_concat_of_ne (by simp [hparse])
    rw [add_of_eq_none hparse]
    exact ⟨fun name => by rw [hsame, h.versions_eq],
      fun name => by rw [hsame, h.mem_duplicates_iff]⟩
  | some n =>
    have hself : Manifest.entriesFor (m ++ [e]) n = m.entriesFor n ++ [e] :=
      entriesFor_concat_of_eq hparse
    have hother : ∀ name, n ≠ name →
        Manifest.entriesFor (m ++ [e]) name = m.entriesFor name :=
      fun name hne => entriesFor_concat_of_ne (by simpa [hparse] using hne)
    refine ⟨fun name => ?_, fun name => ?_⟩
    · rw [versions_add hparse, Std.HashMap.getElem?_insert]
      by_cases hname : n = name
      · rw [if_pos (by simpa using hname), ← hname, hself]
        simp
      · rw [if_neg (by simpa using hname), hother name hname, h.versions_eq]
    · rw [mem_duplicates_add hparse, h.mem_versions_iff, h.mem_duplicates_iff]
      by_cases hname : n = name
      · rw [← hname, hself, List.length_append, List.length_singleton]
        simp only [true_and]
        omega
      · rw [hother name hname]
        simp [hname]

theorem foldl_add (h : index.Covers m) (rest : Manifest) :
    (rest.foldl Index.add index).Covers (m ++ rest) := by
  induction rest generalizing index m with
  | nil => rwa [List.append_nil]
  | cons e rest ih =>
    rw [List.append_cons]
    exact ih (h.add e)

theorem verdict_eq (h : index.Covers m) (side : Side) (c : Channel) :
    index.verdict side c = c.verdictOn side (m.entriesFor c.name) := by
  have hduplicate := h.mem_duplicates_iff c.name
  have hversion := h.versions_eq c.name
  rcases hentries : m.entriesFor c.name with _ | ⟨e, _ | ⟨e', rest⟩⟩
  · rw [verdict, if_neg (by simp [hduplicate, hentries]), hversion, hentries]
    rfl
  · -- the last version of one is the first
    rw [verdict, if_neg (by simp [hduplicate, hentries]), hversion, hentries]
    rfl
  · rw [verdict, if_pos (by simp [hduplicate, hentries])]
    rfl

theorem toList_duplicates (h : index.Covers m) : index.duplicates.toList = m.duplicates := by
  refine ChannelName.eq_of_pairwise_lt
    (Std.TreeSet.ordered_toList.imp ChannelName.compare_eq_lt_iff.1)
    (ChannelName.pairwise_duplicates _) fun name => ?_
  rw [Std.TreeSet.mem_toList, h.mem_duplicates_iff, Manifest.mem_duplicates_iff]

end Covers

/-- A validation needs to read the manifest once only. -/
theorem report_foldl_add (r : Registry) (m : Manifest) (side : Side) :
    (m.foldl Index.add empty).report r side = r.validate m side := by
  have h : (m.foldl Index.add empty).Covers m := covers_empty.foldl_add m
  have hverdicts : r.channels.map ((m.foldl Index.add empty).verdict side) =
      r.channels.map fun c => c.verdictOn side (m.entriesFor c.name) :=
    List.map_congr_left fun c _ => h.verdict_eq side c
  rw [report, hverdicts, h.toList_duplicates, Registry.validate_eq]

end Index

end ChannelHandshake
