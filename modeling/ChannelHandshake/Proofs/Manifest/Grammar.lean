import Mathlib.Data.List.Forall2
import ChannelHandshake.Proofs.Json.Reading
import ChannelHandshake.Proofs.Manifest.Accepted

/-!
# The grammar of a bare list

Which payloads are read as which manifest (`decodeList_eq_ok_iff`), in terms of the grammar of JSON
alone: an entry is an object with a `name` and a `version`, each given once, or the list of the two
(`Entry.IsWrittenAs`). What else an object holds is skipped, but its keys have to be texts.
-/

namespace ChannelHandshake

/-- The value stands for the entry. -/
inductive Entry.IsWrittenAs (e : Entry) : Json.Value → Prop where
  /-- Other members may stand anywhere, and the two in either order. -/
  | object {members : List (Option String × Json.Value)} (hkeys : ∀ m ∈ members, m.1.isSome)
      (hname : (some "name", .string (some e.name)) ∈ members)
      (honce : (members.map Prod.fst).count (some "name") = 1)
      (hversion : (some "version", .string (some e.version)) ∈ members)
      (honce' : (members.map Prod.fst).count (some "version") = 1) :
      IsWrittenAs e (.object members)
  | array : IsWrittenAs e (.array [.string (some e.name), .string (some e.version)])

namespace Json.Value

/-- The member of a key is the one that has this key, given once. -/
theorem member?_eq_some_iff {key : String} {members : List (Option String × Value)} {v : Value} :
    member? key members = some v ↔
      (some key, v) ∈ members ∧ (members.map Prod.fst).count (some key) = 1 := by
  have hcount : (members.map Prod.fst).count (some key) =
      (members.filter fun m => m.1 == some key).length := by
    rw [List.count, List.countP_map, List.countP_eq_length_filter]
    rfl
  have hmem : (some key, v) ∈ members ↔
      (some key, v) ∈ members.filter fun m => m.1 == some key := by
    simp
  rw [hcount, hmem, member?]
  constructor
  · intro h
    split at h
    · rename_i key' v' hfilter
      cases h
      have hkey : key' = some key := by
        have hfirst : (key', v) ∈ members.filter fun m => m.1 == some key := by simp [hfilter]
        simpa using (List.mem_filter.1 hfirst).2
      simp [hfilter, hkey]
    · simp at h
  · rintro ⟨hv, hlength⟩
    obtain ⟨m, hfilter⟩ := List.length_eq_one_iff.1 hlength
    rw [hfilter, List.mem_singleton] at hv
    rw [hfilter, ← hv]

theorem text?_eq_some_iff {v : Value} {text : String} :
    v.text? = some text ↔ v = .string (some text) := by
  cases v <;> simp [text?]

end Json.Value

theorem Entry.ofJson?_eq_some_iff {v : Json.Value} {e : Entry} :
    Entry.ofJson? v = some e ↔ e.IsWrittenAs v := by
  constructor
  · intro h
    unfold Entry.ofJson? at h
    split at h
    · rename_i members
      split at h
      · rename_i hkeys
        simp only [Option.bind_eq_bind, Option.bind_eq_some_iff, Option.pure_def,
          Option.some.injEq] at h
        obtain ⟨v, hv, name, hname, w, hw, version, hversion, rfl⟩ := h
        obtain rfl := Json.Value.text?_eq_some_iff.1 hname
        obtain rfl := Json.Value.text?_eq_some_iff.1 hversion
        obtain ⟨hname, honce⟩ := Json.Value.member?_eq_some_iff.1 hv
        obtain ⟨hversion, honce'⟩ := Json.Value.member?_eq_some_iff.1 hw
        exact .object (List.all_eq_true.1 hkeys) hname honce hversion honce'
      · simp at h
    · simp only [Option.bind_eq_bind, Option.bind_eq_some_iff, Option.pure_def,
        Option.some.injEq] at h
      obtain ⟨name, hname, version, hversion, rfl⟩ := h
      obtain rfl := Json.Value.text?_eq_some_iff.1 hname
      obtain rfl := Json.Value.text?_eq_some_iff.1 hversion
      exact .array
    · simp at h
  · intro h
    cases h with
    | object hkeys hname honce hversion honce' =>
      have hname := Json.Value.member?_eq_some_iff.2 ⟨hname, honce⟩
      have hversion := Json.Value.member?_eq_some_iff.2 ⟨hversion, honce'⟩
      rw [Entry.ofJson?, if_pos (List.all_eq_true.2 hkeys), hname, hversion]
      rfl
    | array => rfl

namespace Manifest

theorem mapM_ofJson?_eq_some_iff {items : List Json.Value} {m : Manifest} :
    items.mapM Entry.ofJson? = some m ↔ List.Forall₂ Entry.IsWrittenAs m items := by
  induction items generalizing m with
  | nil =>
    rw [List.mapM_nil, List.forall₂_nil_right_iff]
    exact ⟨fun h => (Option.some.inj h).symm, fun h => congrArg some h.symm⟩
  | cons item items ih =>
    simp only [List.mapM_cons, Option.bind_eq_bind, Option.bind_eq_some_iff, Option.pure_def,
      Option.some.injEq, List.forall₂_cons_right_iff]
    constructor
    · rintro ⟨e, he, rest, hrest, rfl⟩
      exact ⟨e, rest, Entry.ofJson?_eq_some_iff.1 he, ih.1 hrest, rfl⟩
    · rintro ⟨e, rest, he, hrest, rfl⟩
      exact ⟨e, Entry.ofJson?_eq_some_iff.2 he, rest, ih.2 hrest, rfl⟩

theorem readJson_eq_ok_iff {payload : List UInt8} {v : Json.Value} :
    readJson payload = .ok v ↔
      payload.length ≤ maxPayloadBytes ∧ Json.Spells payload v.tokens := by
  rw [← Json.Value.ofBytes?_eq_some_iff, readJson]
  split
  · rename_i hlarge
    simp [Nat.not_le.2 hlarge]
  · rename_i hsize
    cases Json.Value.ofBytes? payload <;> simp [Nat.le_of_not_lt hsize]

theorem ofJson?_eq_some_iff {v : Json.Value} {m : Manifest} :
    ofJson? v = some m ↔ ∃ items, v = .array items ∧ List.Forall₂ Entry.IsWrittenAs m items := by
  cases v <;> simp [ofJson?, mapM_ofJson?_eq_some_iff]

/-- A payload of a bare list is read exactly if it is such a list: not too long, with names that
differ and no version of absence, and written by the grammar. -/
theorem decodeList_eq_ok_iff (payload : List UInt8) (m : Manifest) :
    decodeList payload = .ok m ↔
      payload.length ≤ 262144 ∧ m.Clean ∧
        ∃ items, Json.Spells payload (Json.Value.array items).tokens ∧
          List.Forall₂ Entry.IsWrittenAs m items := by
  constructor
  · intro h
    obtain ⟨v, hread, hlist, hclean⟩ := exists_of_decodeList h
    obtain ⟨hsize, hspells⟩ := readJson_eq_ok_iff.1 hread
    obtain ⟨items, rfl, hitems⟩ := ofJson?_eq_some_iff.1 hlist
    exact ⟨hsize, hclean, items, hspells, hitems⟩
  · rintro ⟨hsize, hclean, items, hspells, hitems⟩
    have hread := readJson_eq_ok_iff.2 ⟨hsize, hspells⟩
    have hlist := ofJson?_eq_some_iff.2 ⟨items, rfl, hitems⟩
    have hcheck := check_eq_ok_iff.2 ⟨hclean, rfl⟩
    simp only [decodeList, hread, bind, Except.bind, hlist, hcheck]

end Manifest

end ChannelHandshake
