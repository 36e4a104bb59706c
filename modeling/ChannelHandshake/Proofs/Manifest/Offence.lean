import ChannelHandshake.Manifest

/-!
# What a receiver refuses

A manifest is clean if its names are distinct and none of its versions is that of absence. The
scan that `Manifest.check` makes keeps the names that it has seen; read against the entries before
the place it has come to, it finds the first entry that offends, and nothing in exactly the clean
manifests (`firstOffence_spec`, `check_eq_iff`).
-/

namespace ChannelHandshake

/-- How an entry offends that is listed after the entries `before`: a repeated name counts before
the version of absence. -/
def Entry.offence (e : Entry) (before : Manifest) : Option DecodeError :=
  if e.name ∈ before.map Entry.name then some (.duplicateChannel e.name)
  else if e.version = absent then some (.reservedVersion e.name)
  else none

namespace Manifest

/-- Nothing in the manifest is refused. -/
structure Clean (m : Manifest) : Prop where
  names_nodup : (m.map Entry.name).Nodup
  version_ne_absent : ∀ e ∈ m, e.version ≠ absent

/-- `error` is what the first entry is refused for that offends. -/
def Offends (m : Manifest) (error : DecodeError) : Prop :=
  ∃ before e after, m = before ++ e :: after ∧ Clean before ∧ e.offence before = some error

theorem clean_nil : Clean [] :=
  ⟨List.nodup_nil, fun _ h => absurd h List.not_mem_nil⟩

/-- A clean manifest stays clean by an entry that does not offend, and by no other. -/
theorem clean_concat_iff {m : Manifest} {e : Entry} :
    Clean (m ++ [e]) ↔ Clean m ∧ e.offence m = none := by
  have hnodup : ((m ++ [e]).map Entry.name).Nodup ↔
      (m.map Entry.name).Nodup ∧ e.name ∉ m.map Entry.name := by
    rw [List.map_append, List.nodup_append]
    constructor
    · intro ⟨hm, _, hne⟩
      exact ⟨hm, fun hmem => hne e.name hmem e.name (by simp) rfl⟩
    · intro ⟨hm, hnot⟩
      refine ⟨hm, by simp, fun n hn n' hn' heq => ?_⟩
      have hn'' : n' = e.name := by simpa using hn'
      exact hnot (hn'' ▸ heq ▸ hn)
  constructor
  · intro ⟨hnames, hversions⟩
    obtain ⟨hm, hnot⟩ := hnodup.1 hnames
    have he : e.version ≠ absent := hversions e (by simp)
    exact ⟨⟨hm, fun x hx => hversions x (List.mem_append_left _ hx)⟩, by
      rw [Entry.offence, if_neg hnot, if_neg he]⟩
  · intro ⟨⟨hm, hversions⟩, hnone⟩
    have hnot : e.name ∉ m.map Entry.name := by
      intro hmem
      simp [Entry.offence, hmem] at hnone
    have he : e.version ≠ absent := by
      intro habsent
      simp [Entry.offence, hnot, habsent] at hnone
    refine ⟨hnodup.2 ⟨hm, hnot⟩, fun x hx => ?_⟩
    rcases List.mem_append.1 hx with hx | hx
    · exact hversions x hx
    · have hxe : x = e := by simpa using hx
      exact hxe ▸ he

theorem Clean.of_append {m m' : Manifest} (h : Clean (m ++ m')) : Clean m := by
  have hnodup := h.names_nodup
  rw [List.map_append, List.nodup_append] at hnodup
  exact ⟨hnodup.1, fun e he => h.version_ne_absent e (List.mem_append_left _ he)⟩

/-- Where keys are distinct, none before an element is its key. -/
theorem key_ne_of_nodup {α κ : Type} {key : α → κ} {before after : List α} {x : α}
    (h : ((before ++ x :: after).map key).Nodup) : ∀ y ∈ before, key y ≠ key x := by
  rw [List.map_append, List.map_cons, List.nodup_append] at h
  intro y hy
  exact h.2.2 (key y) (List.mem_map_of_mem hy) (key x) List.mem_cons_self

/-- No entry of a clean manifest offends. -/
theorem Clean.offence_eq_none {before after : Manifest} {e : Entry}
    (h : Clean (before ++ e :: after)) : e.offence before = none := by
  have hsplit : before ++ e :: after = before ++ [e] ++ after := by simp
  exact (clean_concat_iff.1 (hsplit ▸ h).of_append).2

/-- The scan, when it has come past the clean entries `before` and has seen their names. -/
theorem firstOffence_spec (before m : Manifest) {seen : Std.HashSet String}
    (hseen : ∀ name, name ∈ seen ↔ name ∈ before.map Entry.name) (hclean : Clean before) :
    match firstOffence seen m with
    | none => Clean (before ++ m)
    | some error => Offends (before ++ m) error := by
  induction m generalizing before seen with
  | nil => simpa [firstOffence] using hclean
  | cons e rest ih =>
    have hcontains : seen.contains e.name = true ↔ e.name ∈ before.map Entry.name := by
      rw [← Std.HashSet.mem_iff_contains, hseen]
    by_cases hname : e.name ∈ before.map Entry.name
    · have hoffence : e.offence before = some (.duplicateChannel e.name) := if_pos hname
      rw [firstOffence, if_pos (hcontains.2 hname)]
      exact ⟨before, e, rest, rfl, hclean, hoffence⟩
    rw [firstOffence, if_neg fun h => hname (hcontains.1 h)]
    by_cases hversion : e.version = absent
    · have hoffence : e.offence before = some (.reservedVersion e.name) := by
        rw [Entry.offence, if_neg hname, if_pos hversion]
      rw [if_pos hversion]
      exact ⟨before, e, rest, rfl, hclean, hoffence⟩
    · -- the scan goes on with the name of `e` among those it has seen
      have hnone : e.offence before = none := by
        rw [Entry.offence, if_neg hname, if_neg hversion]
      have hseen' : ∀ name, name ∈ seen.insert e.name ↔
          name ∈ (before ++ [e]).map Entry.name := by
        intro name
        rw [Std.HashSet.mem_insert, hseen, List.map_append, List.mem_append, beq_iff_eq]
        simp [or_comm, eq_comm]
      have hrest := ih (before ++ [e]) hseen' (clean_concat_iff.2 ⟨hclean, hnone⟩)
      rw [if_neg hversion]
      rw [List.append_assoc, List.singleton_append] at hrest
      exact hrest

/-- An offending entry is the first one: a later one comes after an entry that offends. -/
theorem Offends.unique {m : Manifest} {error error' : DecodeError} (h : Offends m error)
    (h' : Offends m error') : error = error' := by
  obtain ⟨before, e, after, hm, hclean, he⟩ := h
  obtain ⟨before', e', after', hm', hclean', he'⟩ := h'
  rw [hm] at hm'
  rcases List.append_eq_append_iff.1 hm' with ⟨between, hbefore, hrest⟩ | ⟨between, hbefore, hrest⟩
  · cases between with
    | nil =>
      simp_all
    | cons x between =>
      have hxe : x = e := by simp_all
      have hnone := (hxe ▸ hbefore ▸ hclean').offence_eq_none
      simp_all
  · cases between with
    | nil =>
      simp_all
    | cons x between =>
      have hxe : x = e' := by simp_all
      have hnone := (hxe ▸ hbefore ▸ hclean).offence_eq_none
      simp_all

theorem Clean.not_offends {m : Manifest} (hclean : Clean m) (error : DecodeError) :
    ¬Offends m error := by
  rintro ⟨before, e, after, rfl, -, he⟩
  rw [hclean.offence_eq_none] at he
  exact absurd he (by simp)

/-- A receiver takes the clean manifests and refuses any other one for its first offence. -/
theorem check_eq_iff {m : Manifest} {result : Except DecodeError Manifest} :
    m.check = result ↔
      (Clean m ∧ result = .ok m) ∨ ∃ error, Offends m error ∧ result = .error error := by
  have hseen : ∀ name, name ∈ (∅ : Std.HashSet String) ↔
      name ∈ ([] : Manifest).map Entry.name := by
    simp
  have hspec := firstOffence_spec [] m hseen clean_nil
  rw [check]
  cases hscan : firstOffence ∅ m with
  | none =>
    have hclean : Clean m := by simpa [hscan] using hspec
    constructor
    · rintro rfl
      exact .inl ⟨hclean, rfl⟩
    · rintro (⟨-, rfl⟩ | ⟨error, hoffends, -⟩)
      · rfl
      · exact absurd hoffends (hclean.not_offends error)
  | some error =>
    have hoffends : Offends m error := by simpa [hscan] using hspec
    constructor
    · rintro rfl
      exact .inr ⟨error, hoffends, rfl⟩
    · rintro (⟨hclean, -⟩ | ⟨error', hoffends', rfl⟩)
      · exact absurd hoffends (hclean.not_offends error)
      · rw [hoffends.unique hoffends']

theorem check_eq_ok_iff {m m' : Manifest} : m.check = .ok m' ↔ Clean m ∧ m' = m := by
  simp [check_eq_iff]

end Manifest

end ChannelHandshake
