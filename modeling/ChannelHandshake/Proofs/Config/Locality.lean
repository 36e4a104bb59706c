import ChannelHandshake.Proofs.Config.Agreement
import ChannelHandshake.Proofs.Config.Payloads

/-!
# Findings channel by channel

The check carries the names that it has met from channel to channel. What it says of a channel
depends on them in one way only: on where the channel's own name was met first
(`lintChannel_congr`). So its findings come in groups, one for each channel and told apart by their
places (`lint_eq_flatMap`), and a channel that is added at the end changes no group before it.
-/

namespace ChannelHandshake

namespace Config

/-! ## Declarations -/

/-- Channel number `j` is declared under the name `name`. -/
def DeclaredAt (channels : List ChannelConfig) (name : ChannelName) (j : Nat) : Prop :=
  ∃ x, channels[j]? = some x ∧ ChannelName.parse x.name = .ok name

/-- Of the channels before number `i`, number `first` is the first that is declared as `name`. -/
structure IsFirst (channels : List ChannelConfig) (name : ChannelName) (i first : Nat) : Prop where
  lt : first < i
  declared : DeclaredAt channels name first
  least : ∀ j < first, ¬DeclaredAt channels name j

/-- What the check remembers before channel number `i`. -/
def namesBefore (channels : List ChannelConfig) (i : Nat) : List (Option ChannelName) :=
  (channels.take i).map nameOf?

variable {channels : List ChannelConfig} {name : ChannelName} {i j first : Nat}

theorem getElem?_namesBefore_eq_some_iff :
    (namesBefore channels i)[j]? = some (some name) ↔ j < i ∧ DeclaredAt channels name j := by
  rw [namesBefore, List.getElem?_map, List.getElem?_take]
  split
  · rename_i hlt
    simp only [Option.map_eq_some_iff, nameOf?_eq_some_iff, DeclaredAt, hlt, true_and]
  · rename_i hle
    simp [hle]

theorem idxOf?_namesBefore_eq_some_iff :
    (namesBefore channels i).idxOf? (some name) = some first ↔ IsFirst channels name i first := by
  rw [List.idxOf?_eq_some_iff]
  constructor
  · rintro ⟨hlength, hfirst, hleast⟩
    have hfound : (namesBefore channels i)[first]? = some (some name) := by
      rw [List.getElem?_eq_getElem hlength, hfirst]
    rcases getElem?_namesBefore_eq_some_iff.1 hfound with ⟨hlt, hdeclared⟩
    refine ⟨hlt, hdeclared, ?_⟩
    intro j hj hdeclared'
    have hfound' := getElem?_namesBefore_eq_some_iff.2 ⟨Nat.lt_trans hj hlt, hdeclared'⟩
    rcases List.getElem?_eq_some_iff.1 hfound' with ⟨_, hname⟩
    exact hleast j hj hname
  · rintro ⟨hlt, hdeclared, hleast⟩
    have hfound := getElem?_namesBefore_eq_some_iff.2 ⟨hlt, hdeclared⟩
    rcases List.getElem?_eq_some_iff.1 hfound with ⟨hlength, hname⟩
    refine ⟨hlength, hname, ?_⟩
    intro j hj hname'
    have hfound' : (namesBefore channels i)[j]? = some (some name) := by
      rw [List.getElem?_eq_getElem (Nat.lt_trans hj hlength), hname']
    exact hleast j hj (getElem?_namesBefore_eq_some_iff.1 hfound').2

theorem idxOf?_namesBefore_eq_none_iff :
    (namesBefore channels i).idxOf? (some name) = none ↔
      ∀ j < i, ¬DeclaredAt channels name j := by
  rw [List.idxOf?_eq_none_iff, List.mem_iff_getElem?]
  simp only [getElem?_namesBefore_eq_some_iff, not_exists, not_and]

/-- The same number is the first in two lists, or none is in either. -/
theorem idxOf?_namesBefore_congr {channels' : List ChannelConfig}
    (h : ∀ first, IsFirst channels name i first ↔ IsFirst channels' name i first) :
    (namesBefore channels i).idxOf? (some name) = (namesBefore channels' i).idxOf? (some name) := by
  apply Option.ext
  intro first
  rw [idxOf?_namesBefore_eq_some_iff, idxOf?_namesBefore_eq_some_iff, h]

/-! ## The findings about one channel -/

/-- The place of the data of a payload. -/
def payloadPath (i j : Nat) : String :=
  channelPath i ++ ".login_payloads[" ++ toString j ++ "]" ++ ".data"

/-- The parts of a channel that findings are about, the data of its payloads apart. -/
def channelParts : List String :=
  [".name", ".version", ".client", ".client.versions", ".server", ".server.versions",
    ".login_payloads"]

/-- Payload number `j` of the channel exists and cannot be decoded. -/
def FailsAt (x : ChannelConfig) (j : Nat) (e : PayloadError) : Prop :=
  ∃ p, x.loginPayloads[j]? = some p ∧ p.decode = .error e

variable {side : Side} {before : List (Option ChannelName)} {x : ChannelConfig} {place : String}
  {d : Diagnostic}

/-- Of the names before a channel only those count that are its own. -/
theorem lintChannel_congr {before' : List (Option ChannelName)}
    (hlength : before.length = before'.length)
    (hfirst : ∀ name, ChannelName.parse x.name = .ok name →
      before.idxOf? (some name) = before'.idxOf? (some name)) :
    lintChannel side before x = lintChannel side before' x := by
  have hname : ∀ place, lintName before x place = lintName before' x place := by
    intro place
    rw [lintName, lintName]
    cases hparse : ChannelName.parse x.name with
    | error e => rfl
    | ok name =>
      dsimp only
      rw [hfirst name hparse]
  rw [lintChannel, lintChannel, hlength, hname]

theorem path_lintName (h : d ∈ lintName before x place) : d.path = place ++ ".name" := by
  grind [lintName]

theorem path_lintVersion (h : d ∈ lintVersion x place) : d.path = place ++ ".version" := by
  grind [lintVersion]

theorem path_lintPolicy {p : AcceptPolicy} (h : d ∈ lintPolicy p place) :
    d.path = place ∨ d.path = place ++ ".versions" := by
  grind [lintPolicy]

theorem mem_lintPayload_iff {p : PayloadConfig} :
    d ∈ lintPayload p place ↔
      ∃ e, p.decode = .error e ∧ d = ⟨.error, .payload, place ++ ".data", e.message⟩ := by
  rw [lintPayload]
  cases p.decode with
  | ok data => simp
  | error e =>
    rw [List.mem_singleton]
    constructor
    · intro h
      exact ⟨e, rfl, h⟩
    · rintro ⟨e', he, h⟩
      cases he
      exact h

/-- A finding about the payloads of a channel says that they are on the wrong side, or is about one
that cannot be decoded. -/
theorem mem_lintPayloads_iff :
    d ∈ lintPayloads side x place ↔
      (d = ⟨.warning, .side, place ++ ".login_payloads",
          "login payloads are only sent by the server"⟩ ∧
        x.loginPayloads ≠ [] ∧ side = .client) ∨
      ∃ j e, FailsAt x j e ∧
        d = ⟨.error, .payload, place ++ ".login_payloads[" ++ toString j ++ "]" ++ ".data",
          e.message⟩ := by
  rw [lintPayloads, List.mem_append, List.mem_flatMap]
  apply or_congr
  · split <;> simp_all
  · constructor
    · rintro ⟨⟨p, j⟩, hp, hd⟩
      rcases mem_lintPayload_iff.1 hd with ⟨e, he, hd⟩
      exact ⟨j, e, ⟨p, List.mem_zipIdx_iff_getElem?.1 hp, he⟩, hd⟩
    · rintro ⟨j, e, ⟨p, hp, he⟩, hd⟩
      exact ⟨(p, j), List.mem_zipIdx_iff_getElem?.2 hp, mem_lintPayload_iff.2 ⟨e, he, hd⟩⟩

/-- A finding about a channel is about a part of it or about the data of one of its payloads. -/
theorem path_lintChannel (h : d ∈ lintChannel side before x) :
    (∃ part ∈ channelParts, d.path = channelPath before.length ++ part) ∨
    ∃ j e, FailsAt x j e ∧ d = ⟨.error, .payload, payloadPath before.length j, e.message⟩ := by
  simp only [lintChannel, List.mem_append] at h
  rcases h with (((h | h) | h) | h) | h
  · exact .inl ⟨".name", by decide, path_lintName h⟩
  · exact .inl ⟨".version", by decide, path_lintVersion h⟩
  · rcases path_lintPolicy h with hpath | hpath
    · exact .inl ⟨".client", by decide, hpath⟩
    · exact .inl ⟨".client.versions", by decide, hpath.trans String.append_assoc⟩
  · rcases path_lintPolicy h with hpath | hpath
    · exact .inl ⟨".server", by decide, hpath⟩
    · exact .inl ⟨".server.versions", by decide, hpath.trans String.append_assoc⟩
  · rcases mem_lintPayloads_iff.1 h with ⟨rfl, -, -⟩ | hpayload
    · exact .inl ⟨".login_payloads", by decide, rfl⟩
    · exact .inr hpayload

theorem isPrefix_path_of_mem_lintChannel (h : d ∈ lintChannel side before x) :
    (channelPath before.length).toList <+: d.path.toList := by
  rcases path_lintChannel h with ⟨part, -, hpath⟩ | ⟨j, e, -, rfl⟩
  · rw [hpath, String.toList_append]
    exact List.prefix_append _ _
  · simp only [payloadPath, String.toList_append, List.append_assoc]
    exact List.prefix_append _ _

/-- No part of a channel is the data of a payload. -/
theorem append_part_ne_payloadPath {part : String} (hpart : part ∈ channelParts) (i j : Nat) :
    channelPath i ++ part ≠ payloadPath i j := by
  have hother : ∀ part ∈ channelParts, ¬".login_payloads[".toList <+: part.toList := by
    decide
  intro h
  apply hother part hpart
  have hpath := congrArg String.toList h
  simp only [payloadPath, String.toList_append, List.append_assoc, List.append_cancel_left_eq]
    at hpath
  rw [hpath]
  exact List.prefix_append _ _

/-- The places of payloads tell the payloads apart. -/
theorem payloadPath_injective {i j j' : Nat} (h : payloadPath i j = payloadPath i j') :
    j = j' := by
  have hpath : ∀ k : Nat, (payloadPath i k).toList =
      (channelPath i ++ ".login_payloads[" ++ toString k ++ "]").toList ++ ".data".toList :=
    fun k => String.toList_append
  have hprefix : (channelPath i ++ ".login_payloads[" ++ toString j ++ "]").toList <+:
      (channelPath i ++ ".login_payloads[" ++ toString j' ++ "]").toList ++ ".data".toList := by
    rw [← hpath, ← h, hpath]
    exact List.prefix_append _ _
  exact eq_of_isPrefix_numbered hprefix

/-! ## Groups of findings -/

theorem length_namesBefore (h : i ≤ channels.length) : (namesBefore channels i).length = i := by
  rw [namesBefore, List.length_map, List.length_take, Nat.min_eq_left h]

theorem lintChannels_append (side : Side) (before : List (Option ChannelName))
    (channels channels' : List ChannelConfig) :
    lintChannels side before (channels ++ channels') =
      lintChannels side before channels ++
        lintChannels side (before ++ channels.map nameOf?) channels' := by
  induction channels generalizing before with
  | nil => rw [List.nil_append, List.map_nil, List.append_nil, lintChannels, List.nil_append]
  | cons x rest ih =>
    rw [List.cons_append, lintChannels, lintChannels, ih, List.append_assoc, List.append_assoc,
      List.map_cons, List.singleton_append]

/-- Findings about a row of channels are inside one of these channels. -/
theorem exists_isPrefix_of_mem_lintChannels (h : d ∈ lintChannels side before channels) :
    ∃ k, before.length ≤ k ∧ k < before.length + channels.length ∧
      (channelPath k).toList <+: d.path.toList := by
  induction channels generalizing before with
  | nil => simp [lintChannels] at h
  | cons x rest ih =>
    rw [lintChannels, List.mem_append] at h
    rcases h with h | h
    · refine ⟨before.length, Nat.le_refl _, ?_, isPrefix_path_of_mem_lintChannel h⟩
      simp
    · rcases ih h with ⟨k, hle, hlt, hprefix⟩
      rw [List.length_append, List.length_singleton] at hle hlt
      refine ⟨k, by omega, ?_, hprefix⟩
      rw [List.length_cons]
      omega

/-- What the check says of channel number `i` and of nothing else. -/
def findingsAt (c : Config) (i : Nat) : List Diagnostic :=
  c.lint.filter fun d => (channelPath i).toList.isPrefixOf d.path.toList

theorem lint_eq_lintChannels {c : Config} (h : c.channels ≠ []) :
    c.lint = lintChannels c.side [] c.channels := by
  rw [lint, if_neg (by simpa using h)]

/-- The channels before number `i`, this channel and those behind it. -/
theorem lintChannels_eq_append {side : Side} (h : channels[i]? = some x) :
    lintChannels side [] channels =
      lintChannels side [] (channels.take i) ++
        (lintChannel side (namesBefore channels i) x ++
          lintChannels side (namesBefore channels i ++ [nameOf? x]) (channels.drop (i + 1))) := by
  rcases List.getElem?_eq_some_iff.1 h with ⟨hlt, rfl⟩
  conv_lhs => rw [← List.take_append_drop i channels, List.drop_eq_getElem_cons hlt]
  rw [lintChannels_append, lintChannels, List.nil_append, namesBefore]

/-- The findings that are inside channel number `i` are those that the check made of it. -/
theorem findingsAt_eq {c : Config} (h : c.channels[i]? = some x) :
    c.findingsAt i = lintChannel c.side (namesBefore c.channels i) x := by
  rcases List.getElem?_eq_some_iff.1 h with ⟨hlt, -⟩
  have hlength := length_namesBefore (Nat.le_of_lt hlt)
  have hinside : ∀ d ∈ lintChannel c.side (namesBefore c.channels i) x,
      (channelPath i).toList.isPrefixOf d.path.toList = true := by
    intro d hd
    rw [List.isPrefixOf_iff_prefix]
    exact hlength ▸ isPrefix_path_of_mem_lintChannel hd
  -- a finding about other channels is inside one of them
  have houtside : ∀ {before : List (Option ChannelName)} {others : List ChannelConfig},
      (∀ k, before.length ≤ k → k < before.length + others.length → k ≠ i) →
        ∀ d ∈ lintChannels c.side before others,
          ¬(channelPath i).toList.isPrefixOf d.path.toList = true := by
    intro before others hne d hd hprefix
    rcases exists_isPrefix_of_mem_lintChannels hd with ⟨k, hle, hlt, rest, hrest⟩
    rw [List.isPrefixOf_iff_prefix, ← hrest] at hprefix
    exact hne k hle hlt (eq_of_isPrefix_channelPath hprefix).symm
  rw [findingsAt, lint_eq_lintChannels (List.ne_nil_of_mem (List.mem_of_getElem? h)),
    lintChannels_eq_append h, List.filter_append, List.filter_append]
  rw [List.filter_eq_nil_iff.2 (houtside _), List.filter_eq_self.2 hinside,
    List.filter_eq_nil_iff.2 (houtside _), List.nil_append, List.append_nil]
  · intro k hle
    rw [List.length_append, hlength, List.length_singleton] at hle
    omega
  · intro k _ hlt'
    rw [List.length_nil, Nat.zero_add, List.length_take] at hlt'
    omega

theorem mem_lint_of_mem_lintChannel {c : Config} (hx : c.channels[i]? = some x)
    (hd : d ∈ lintChannel c.side (namesBefore c.channels i) x) : d ∈ c.lint := by
  rw [← findingsAt_eq hx, findingsAt, List.mem_filter] at hd
  exact hd.1

/-- The findings about the first `n` channels are the groups of these. -/
theorem lintChannels_take_eq_flatMap (c : Config) {n : Nat} (h : n ≤ c.channels.length) :
    lintChannels c.side [] (c.channels.take n) = (List.range n).flatMap c.findingsAt := by
  induction n with
  | zero => rfl
  | succ n ih =>
    have hx : c.channels[n]? = some c.channels[n] := List.getElem?_eq_getElem h
    rw [List.take_add_one, hx, Option.toList_some, lintChannels_append, ih (Nat.le_of_succ_le h),
      List.range_succ, List.flatMap_append, List.flatMap_singleton, findingsAt_eq hx]
    rw [lintChannels, lintChannels, List.append_nil, List.nil_append, namesBefore]

/-- The findings of the check are grouped by channel, in the order of the file. -/
theorem lint_eq_flatMap {c : Config} (h : c.channels ≠ []) :
    c.lint = (List.range c.channels.length).flatMap c.findingsAt := by
  rw [← lintChannels_take_eq_flatMap c (Nat.le_refl _), List.take_length, lint_eq_lintChannels h]

theorem findingsAt_congr {c c' : Config} (hside : c.side = c'.side)
    (hx : c.channels[i]? = some x) (hx' : c'.channels[i]? = some x)
    (hfirst : ∀ name, ChannelName.parse x.name = .ok name → ∀ first,
      IsFirst c.channels name i first ↔ IsFirst c'.channels name i first) :
    c.findingsAt i = c'.findingsAt i := by
  rcases List.getElem?_eq_some_iff.1 hx with ⟨hlt, -⟩
  rcases List.getElem?_eq_some_iff.1 hx' with ⟨hlt', -⟩
  rw [findingsAt_eq hx, findingsAt_eq hx', hside]
  apply lintChannel_congr
  · rw [length_namesBefore (Nat.le_of_lt hlt), length_namesBefore (Nat.le_of_lt hlt')]
  · intro name hname
    exact idxOf?_namesBefore_congr (hfirst name hname)

/-- Channels that are added at the end add their findings at the end. -/
theorem lint_isPrefix_append {c : Config} (h : c.channels ≠ []) (more : List ChannelConfig) :
    c.lint <+: ({ c with channels := c.channels ++ more } : Config).lint := by
  rw [lint_eq_lintChannels h, lint_eq_lintChannels (by simp [h]), lintChannels_append]
  exact List.prefix_append _ _

/-! ## Errors about names -/

/-- The errors about the name of channel number `i`, which is configured as `x`. -/
inductive NameErrors (channels : List ChannelConfig) (i : Nat) (x : ChannelConfig) :
    List Diagnostic → Prop where
  | invalid {e : ChannelName.Invalid} (hname : ChannelName.parse x.name = .error e) :
    NameErrors channels i x [⟨.error, .name, channelPath i ++ ".name", e.message⟩]
  | repeated {name : ChannelName} {first : Nat} (hname : ChannelName.parse x.name = .ok name)
      (hfirst : IsFirst channels name i first) :
    NameErrors channels i x [⟨.error, .duplicate, channelPath i ++ ".name",
      "channel " ++ name.text ++ " is already declared at " ++ channelPath first⟩]
  | new {name : ChannelName} (hname : ChannelName.parse x.name = .ok name)
      (hnew : ∀ j < i, ¬DeclaredAt channels name j) : NameErrors channels i x []

theorem nameErrors_lintName (channels : List ChannelConfig) (i : Nat) (x : ChannelConfig) :
    NameErrors channels i x (lintName (namesBefore channels i) x (channelPath i)) := by
  rw [lintName]
  cases hname : ChannelName.parse x.name with
  | error e => exact .invalid hname
  | ok name =>
    dsimp only
    cases hindex : (namesBefore channels i).idxOf? (some name) with
    | some first => exact .repeated hname (idxOf?_namesBefore_eq_some_iff.1 hindex)
    | none => exact .new hname (idxOf?_namesBefore_eq_none_iff.1 hindex)

theorem nameErrors_findingsAt {c : Config} (h : c.channels[i]? = some x) :
    NameErrors c.channels i x ((c.findingsAt i).filter Diagnostic.isNameError) := by
  rcases List.getElem?_eq_some_iff.1 h with ⟨hlt, -⟩
  rw [findingsAt_eq h, filter_isNameError_lintChannel, length_namesBefore (Nat.le_of_lt hlt)]
  exact nameErrors_lintName c.channels i x

/-! ## Places -/

/-- A place inside a channel is inside one that there is. -/
theorem lt_length_of_isPrefix_path {c : Config} (hd : d ∈ c.lint)
    (h : (channelPath i).toList <+: d.path.toList) : i < c.channels.length := by
  by_cases hnil : c.channels = []
  · -- the only finding is about the file as a whole
    rw [lint, if_pos (by simpa using hnil), List.mem_singleton] at hd
    have hlength := h.length_le
    have hopening : "channels[".toList.length = 9 := by decide
    have hwhole : "channels".toList.length = 8 := by decide
    simp only [hd, channelPath, String.toList_append, List.length_append] at hlength
    omega
  · rw [lint_eq_lintChannels hnil] at hd
    rcases exists_isPrefix_of_mem_lintChannels hd with ⟨k, -, hlt, rest, hrest⟩
    rw [List.length_nil, Nat.zero_add] at hlt
    rw [← hrest] at h
    exact eq_of_isPrefix_channelPath h ▸ hlt

/-- The finding at the place of a payload's data says why this payload cannot be decoded. -/
theorem mem_lint_and_path_eq_payloadPath_iff {c : Config} :
    d ∈ c.lint ∧ d.path = payloadPath i j ↔
      ∃ x e, c.channels[i]? = some x ∧ FailsAt x j e ∧
        d = ⟨.error, .payload, payloadPath i j, e.message⟩ := by
  have hprefix : (channelPath i).toList <+: (payloadPath i j).toList := by
    simp only [payloadPath, String.toList_append, List.append_assoc]
    exact List.prefix_append _ _
  constructor
  · rintro ⟨hd, hpath⟩
    have hlt : i < c.channels.length := lt_length_of_isPrefix_path hd (hpath ▸ hprefix)
    have hx : c.channels[i]? = some c.channels[i] := List.getElem?_eq_getElem hlt
    have hgroup : d ∈ c.findingsAt i := by
      rw [findingsAt, List.mem_filter, List.isPrefixOf_iff_prefix]
      exact ⟨hd, hpath ▸ hprefix⟩
    rw [findingsAt_eq hx] at hgroup
    have hlength := length_namesBefore (Nat.le_of_lt hlt)
    rcases path_lintChannel hgroup with ⟨part, hpart, hpath'⟩ | ⟨j', e, hfails, rfl⟩
    · rw [hpath, hlength] at hpath'
      exact absurd hpath'.symm (append_part_ne_payloadPath hpart i j)
    · rw [hlength] at hpath ⊢
      obtain rfl := payloadPath_injective hpath
      exact ⟨_, e, hx, hfails, rfl⟩
  · rintro ⟨x, e, hx, hfails, rfl⟩
    refine ⟨?_, rfl⟩
    rcases List.getElem?_eq_some_iff.1 hx with ⟨hlt, -⟩
    apply mem_lint_of_mem_lintChannel hx
    rw [lintChannel, length_namesBefore (Nat.le_of_lt hlt)]
    exact List.mem_append_right _ (mem_lintPayloads_iff.2 (.inr ⟨j, e, hfails, rfl⟩))

end Config

/-- The findings of the check, channel by channel. They are grouped in the order of the file, and
the group of a channel depends on the side, the channel and the first number under which its name
is declared before it; so channels that are added to others add their findings at the end. A
channel has one error about its name if this is none, one that points to the first declaration if
there is one before, and none otherwise. Every place is inside a channel that there is, and the
place of a payload's data is that of a payload that cannot be decoded. -/
theorem findings_by_channel (c : Config) :
    (c.channels ≠ [] → c.lint = (List.range c.channels.length).flatMap c.findingsAt) ∧
    (∀ i x, c.channels[i]? = some x →
      Config.NameErrors c.channels i x ((c.findingsAt i).filter Diagnostic.isNameError)) ∧
    (∀ (c' : Config) i x, c.side = c'.side → c.channels[i]? = some x → c'.channels[i]? = some x →
      (∀ name, ChannelName.parse x.name = .ok name → ∀ first,
        Config.IsFirst c.channels name i first ↔ Config.IsFirst c'.channels name i first) →
      c.findingsAt i = c'.findingsAt i) ∧
    (c.channels ≠ [] → ∀ more,
      c.lint <+: ({ c with channels := c.channels ++ more } : Config).lint) ∧
    (∀ d ∈ c.lint, ∀ i, (Config.channelPath i).toList <+: d.path.toList →
      i < c.channels.length) ∧
    ∀ i j d, d ∈ c.lint ∧ d.path = Config.payloadPath i j ↔
      ∃ x e, c.channels[i]? = some x ∧ Config.FailsAt x j e ∧
        d = ⟨.error, .payload, Config.payloadPath i j, e.message⟩ := by
  refine ⟨Config.lint_eq_flatMap, ?_, ?_, Config.lint_isPrefix_append, ?_, ?_⟩
  · intro i x hx
    exact Config.nameErrors_findingsAt hx
  · intro c' i x hside hx hx' hfirst
    exact Config.findingsAt_congr hside hx hx' hfirst
  · intro d hd i hprefix
    exact Config.lt_length_of_isPrefix_path hd hprefix
  · intro i j d
    exact Config.mem_lint_and_path_eq_payloadPath_iff

/-- Three declarations under two spellings, with an invalid name between them: both repetitions
point to the first. -/
example :
    let channel (name : String) : ChannelConfig := ⟨name, "1", .default, .default, []⟩
    let c : Config := { Config.default with
      channels := [channel "a:b", channel "core", channel "A", channel "netreg:core",
        channel "core"] }
    c.lint.map (fun d => (d.category, d.path)) =
        [(.name, "channels[2].name"), (.duplicate, "channels[3].name"),
          (.duplicate, "channels[4].name")] ∧
      (c.lint.drop 1).map Diagnostic.message =
        ["channel netreg:core is already declared at channels[1]",
          "channel netreg:core is already declared at channels[1]"] := by
  decide +kernel

end ChannelHandshake
