import ChannelHandshake.Proofs.ChannelName.Grammar
import ChannelHandshake.Proofs.Registry.Direction
import ChannelHandshake.Proofs.Text.Pieces

/-!
# The lines of a printed report

A report is printed in lines, whose fields stand between tabs: one line for each verdict, one for
each channel that is listed more than once, and the outcome. Names hold neither tabs nor line ends;
but the version in a verdict is the peer's and is printed as it is, so that a line end in it begins
a new line of the output (`Cli.verdictLines`). What the lines tell of a channel is what the report
says, apart from the lines that the peer has added in this way (`lines_of_printed_report`).
-/

namespace ChannelHandshake

/-- No version in the report holds a line end. -/
def Report.IsUnbroken (r : Report) : Prop :=
  ∀ v ∈ r.verdicts, ∀ version, v.remote = some version → '\n' ∉ version.toList

namespace Cli

/-- The first field of a verdict's line. -/
def mark (v : Verdict) : String :=
  if v.accepted then "ok" else "REJECTED"

/-- What is printed as the version of a verdict. -/
def shownVersion (v : Verdict) : String :=
  v.remote.getD "<absent>"

/-- The lines in which a verdict appears: the second and later ones hold what is behind a line end
in the version. -/
def verdictLines (v : Verdict) : List String :=
  (Text.pieces '\n' (shownVersion v)).modifyHead fun first => fields [mark v, v.name.text, first]

/-- The lines that the version of a verdict adds. -/
def addedLines (v : Verdict) : List String :=
  (Text.pieces '\n' (shownVersion v)).tail

/-- The line tells that the channel was accepted. -/
def TellsAccepted (line : String) (name : ChannelName) : Prop :=
  ∃ rest, line = fields ["ok", name.text, rest]

/-! ## Lines -/

theorem verdictLine_eq (v : Verdict) :
    verdictLine v = fields [mark v, v.name.text, shownVersion v] :=
  rfl

/-- A line end is printed behind every line, and so each line falls into its own pieces. -/
theorem pieces_lines (texts : List String) :
    Text.pieces '\n' (lines texts) = texts.flatMap (Text.pieces '\n') ++ [""] := by
  induction texts with
  | nil => decide
  | cons text texts ih =>
    have hcons : lines (text :: texts) = text ++ '\n'.toString ++ lines texts := by
      rw [lines, List.map_cons, String.join_cons]
      rfl
    rw [hcons, Text.pieces_append_separator, ih, List.flatMap_cons, List.append_assoc]

theorem not_mem_mark {c : Char} (hc : c = '\n' ∨ c = '\t') (v : Verdict) :
    c ∉ (mark v).toList := by
  unfold mark
  rcases hc with rfl | rfl <;> split <;> decide

theorem not_mem_name {c : Char} (hc : c = '\n' ∨ c = '\t') (name : ChannelName) :
    c ∉ name.text.toList := by
  refine name.not_mem_text ?_
  rcases hc with rfl | rfl <;> decide

theorem not_mem_summaryLine {c : Char} (hc : c = '\n' ∨ c = '\t') (r : Report) :
    c ∉ (summaryLine r).toList := by
  have hnames : c ∉ (Text.joined ", " (r.rejected.map ChannelName.text)).toList := by
    refine Text.not_mem_joined (by rcases hc with rfl | rfl <;> decide) ?_
    intro part hpart
    obtain ⟨name, -, rfl⟩ := List.mem_map.1 hpart
    exact not_mem_name hc name
  have haccepted : c ∉ ("accepted " ++ r.origin.text ++ " channel list").toList := by
    rcases hc with rfl | rfl <;> cases r.origin <;> decide
  have hrejected : c ∉ ("rejected " ++ r.origin.text ++ " channel list: ").toList := by
    rcases hc with rfl | rfl <;> cases r.origin <;> decide
  unfold summaryLine
  split
  · exact haccepted
  · rw [String.toList_append, List.mem_append, not_or]
    exact ⟨hrejected, hnames⟩

theorem not_mem_duplicateLine (name : ChannelName) : '\n' ∉ (duplicateLine name).toList := by
  refine Text.not_mem_joined (by decide) ?_
  simp only [List.mem_cons, List.not_mem_nil, or_false, forall_eq_or_imp, forall_eq]
  exact ⟨by decide, not_mem_name (.inl rfl) name⟩

/-- The mark and the name are in the first line of a verdict, and what else there is comes from the
version. -/
theorem pieces_verdictLine (v : Verdict) : Text.pieces '\n' (verdictLine v) = verdictLines v := by
  have hfields (text : String) :
      fields [mark v, v.name.text, text] = fields [mark v, v.name.text, ""] ++ text := by
    apply String.toList_injective
    simp [fields, Text.joined]
  have hbefore : '\n' ∉ (fields [mark v, v.name.text, ""]).toList := by
    refine Text.not_mem_joined (by decide) ?_
    simp only [List.mem_cons, List.not_mem_nil, or_false, forall_eq_or_imp, forall_eq]
    exact ⟨not_mem_mark (.inl rfl) v, not_mem_name (.inl rfl) v.name, by decide⟩
  rw [verdictLine_eq, hfields, Text.pieces_append_of_not_mem hbefore, verdictLines]
  congr 1
  funext first
  exact (hfields first).symm

/-- A printed report falls into the lines of its verdicts, those of the duplicates and the
outcome. -/
theorem pieces_reportLines (r : Report) :
    Text.pieces '\n' (lines (reportLines r)) =
      r.verdicts.flatMap verdictLines ++ r.duplicates.map duplicateLine ++ [summaryLine r, ""] := by
  have hduplicates : (r.duplicates.map duplicateLine).flatMap (Text.pieces '\n') =
      r.duplicates.map duplicateLine := by
    rw [List.flatMap_map, List.map_eq_flatMap]
    simp only [Text.pieces_of_not_mem (not_mem_duplicateLine _)]
  have hsummary : Text.pieces '\n' (summaryLine r) = [summaryLine r] :=
    Text.pieces_of_not_mem (not_mem_summaryLine (.inl rfl) r)
  rw [pieces_lines, reportLines, List.flatMap_append, List.flatMap_append, List.flatMap_map,
    hduplicates, List.flatMap_singleton, hsummary]
  simp only [pieces_verdictLine, List.append_assoc, List.singleton_append]

theorem verdictLines_of_not_mem {v : Verdict} (h : '\n' ∉ (shownVersion v).toList) :
    verdictLines v = [verdictLine v] ∧ addedLines v = [] := by
  rw [verdictLines, addedLines, Text.pieces_of_not_mem h]
  exact ⟨rfl, rfl⟩

theorem isUnbroken_iff {r : Report} :
    r.IsUnbroken ↔ ∀ v ∈ r.verdicts, '\n' ∉ (shownVersion v).toList := by
  refine forall₂_congr fun v _ => ?_
  cases hremote : v.remote <;> simp [shownVersion, hremote]

/-- Each verdict has one line only if no version breaks it. -/
theorem pieces_reportLines_eq_iff (r : Report) :
    Text.pieces '\n' (lines (reportLines r)) =
        r.verdicts.map verdictLine ++ r.duplicates.map duplicateLine ++ [summaryLine r, ""] ↔
      r.IsUnbroken := by
  rw [isUnbroken_iff]
  constructor
  · intro h v hv hbreak
    have hmem : verdictLine v ∈ Text.pieces '\n' (lines (reportLines r)) := by
      rw [h]
      simp only [List.mem_append, List.mem_map]
      exact .inl (.inl ⟨v, hv, rfl⟩)
    -- a line of the output holds no line end
    have hline := Text.not_mem_of_mem_pieces hmem
    rw [verdictLine_eq] at hline
    exact hline (by simp [fields, Text.joined, hbreak])
  · intro h
    have hverdicts : r.verdicts.flatMap verdictLines = r.verdicts.map verdictLine := by
      rw [List.map_eq_flatMap]
      exact List.flatMap_congr fun v hv => (verdictLines_of_not_mem (h v hv)).1
    rw [pieces_reportLines, hverdicts]

/-! ## Fields -/

/-- What is in front of two tabs is read back. -/
theorem pieces_fields {first second : String} (hfirst : '\t' ∉ first.toList)
    (hsecond : '\t' ∉ second.toList) (third : String) :
    Text.pieces '\t' (fields [first, second, third]) =
      first :: second :: Text.pieces '\t' third := by
  have hthird : Text.joined '\t'.toString [third] = third := String.intercalate_singleton
  have hsplit := Text.pieces_joined_cons_cons hfirst second [third]
  rw [Text.pieces_joined_cons_cons hsecond third [], hthird] at hsplit
  exact hsplit

theorem TellsAccepted.pieces_eq {line : String} {name : ChannelName}
    (h : TellsAccepted line name) :
    ∃ rest, Text.pieces '\t' line = "ok" :: name.text :: rest := by
  obtain ⟨rest, rfl⟩ := h
  exact ⟨_, pieces_fields (by decide) (not_mem_name (.inr rfl) name) rest⟩

theorem pieces_fields_verdict (v : Verdict) (version : String) :
    Text.pieces '\t' (fields [mark v, v.name.text, version]) =
      mark v :: v.name.text :: Text.pieces '\t' version :=
  pieces_fields (not_mem_mark (.inr rfl) v) (not_mem_name (.inr rfl) v.name) version

/-- The first line of a verdict tells what the verdict says. -/
theorem tellsAccepted_verdict_iff {v : Verdict} {version : String} {name : ChannelName} :
    TellsAccepted (fields [mark v, v.name.text, version]) name ↔
      v.name = name ∧ v.accepted = true := by
  constructor
  · intro h
    obtain ⟨rest, hrest⟩ := h.pieces_eq
    rw [pieces_fields_verdict, List.cons.injEq, List.cons.injEq] at hrest
    obtain ⟨hmark, hname, -⟩ := hrest
    refine ⟨ChannelName.text_injective hname, ?_⟩
    by_contra hnot
    rw [mark, if_neg hnot] at hmark
    exact absurd hmark (by decide)
  · rintro ⟨rfl, haccepted⟩
    exact ⟨version, by rw [mark, if_pos haccepted]⟩

theorem exists_tellsAccepted_verdictLines_iff {v : Verdict} {name : ChannelName} :
    (∃ line ∈ verdictLines v, TellsAccepted line name) ↔
      (v.name = name ∧ v.accepted = true) ∨ ∃ line ∈ addedLines v, TellsAccepted line name := by
  obtain ⟨first, rest, hpieces⟩ := Text.exists_pieces_eq_cons '\n' (shownVersion v)
  rw [verdictLines, addedLines, hpieces, List.modifyHead_cons, List.tail_cons]
  simp only [List.mem_cons, exists_eq_or_imp, tellsAccepted_verdict_iff]

theorem not_tellsAccepted_duplicateLine (duplicate name : ChannelName) :
    ¬TellsAccepted (duplicateLine duplicate) name := by
  intro h
  obtain ⟨rest, hrest⟩ := h.pieces_eq
  have hduplicate : '\t' ∉ "DUPLICATE".toList := by decide
  have hpieces : Text.pieces '\t' (duplicateLine duplicate) = "DUPLICATE" :: _ :=
    Text.pieces_joined_cons_cons hduplicate duplicate.text []
  rw [hpieces, List.cons.injEq] at hrest
  exact absurd hrest.1 (by decide)

theorem not_tellsAccepted_of_not_mem {line : String} (h : '\t' ∉ line.toList)
    (name : ChannelName) : ¬TellsAccepted line name := by
  intro htells
  obtain ⟨rest, hrest⟩ := htells.pieces_eq
  rw [Text.pieces_of_not_mem h] at hrest
  simp at hrest

/-- A line of the output tells that a channel was accepted if its verdict says so, or if a version
has added the line. -/
theorem exists_tellsAccepted_iff {r : Report} {name : ChannelName} :
    (∃ line ∈ Text.pieces '\n' (lines (reportLines r)), TellsAccepted line name) ↔
      (∃ v ∈ r.verdicts, v.name = name ∧ v.accepted = true) ∨
        ∃ v ∈ r.verdicts, ∃ line ∈ addedLines v, TellsAccepted line name := by
  have hverdicts : (∃ line ∈ r.verdicts.flatMap verdictLines, TellsAccepted line name) ↔
      ∃ v ∈ r.verdicts, ∃ line ∈ verdictLines v, TellsAccepted line name := by
    constructor
    · rintro ⟨line, hline, htells⟩
      obtain ⟨v, hv, hmem⟩ := List.mem_flatMap.1 hline
      exact ⟨v, hv, line, hmem, htells⟩
    · rintro ⟨v, hv, line, hmem, htells⟩
      exact ⟨line, List.mem_flatMap.2 ⟨v, hv, hmem⟩, htells⟩
  have hduplicates : ¬∃ line ∈ r.duplicates.map duplicateLine, TellsAccepted line name := by
    rintro ⟨line, hline, htells⟩
    obtain ⟨duplicate, -, rfl⟩ := List.mem_map.1 hline
    exact not_tellsAccepted_duplicateLine duplicate name htells
  have hsummary := not_tellsAccepted_of_not_mem (not_mem_summaryLine (.inr rfl) r) name
  have hempty : ¬TellsAccepted "" name := not_tellsAccepted_of_not_mem (by decide) name
  rw [pieces_reportLines]
  simp only [List.mem_append, List.mem_cons, List.not_mem_nil, or_false, or_and_right, exists_or,
    exists_eq_left, hverdicts, hduplicates, hsummary, hempty,
    exists_tellsAccepted_verdictLines_iff, and_or_left]

end Cli

/-- The versions that can break a report are those of the channels that the registry has and that
the peer lists once. -/
theorem Registry.isUnbroken_validate_iff (r : Registry) (m : Manifest) (side : Side) :
    (r.validate m side).IsUnbroken ↔
      ∀ c ∈ r.channels, ∀ e, m.entriesFor c.name = [e] → '\n' ∉ e.version.toList := by
  constructor
  · intro h c hc e he
    exact h _ ((r.validate_describes m side).of_listed c hc e he) e.version rfl
  · intro h v hv version hremote
    rw [validate_eq] at hv
    obtain ⟨c, hc, rfl⟩ := List.mem_map.1 hv
    rcases hentries : m.entriesFor c.name with _ | ⟨e, _ | ⟨e', rest⟩⟩
    · simp [hentries, Channel.verdictOn] at hremote
    · obtain rfl : e.version = version := by simpa [hentries, Channel.verdictOn] using hremote
      exact h c hc e hentries
    · simp [hentries, Channel.verdictOn] at hremote

/-- The lines that are printed for a peer that can be read. They are those of the verdicts, in order,
those of the duplicates and the outcome; and a verdict has one line, which begins with its mark and
the name, unless the version that the peer lists for the channel holds a line end. A line tells that
a channel was accepted if the channel is registered and its verdict says so, or if such a version
has added the line. The exit status is that of the report. -/
theorem lines_of_printed_report (payload : List UInt8) (m : Manifest)
    (h : Manifest.decode payload = .ok m) (s : State) (side : Side) :
    let report := (s.validate m side).1
    let output := Cli.lines (Cli.reportLines report)
    let printed := Text.pieces '\n' output
    (∀ files stdin path, Cli.payload files stdin path = .ok payload →
      Cli.validate files stdin s side path =
        .ok ⟨if report.isAccepted then 0 else 1, output, ""⟩) ∧
    printed = report.verdicts.flatMap Cli.verdictLines ++
      report.duplicates.map Cli.duplicateLine ++ [Cli.summaryLine report, ""] ∧
    (printed = report.verdicts.map Cli.verdictLine ++
      report.duplicates.map Cli.duplicateLine ++ [Cli.summaryLine report, ""] ↔
        report.IsUnbroken) ∧
    (report.IsUnbroken ↔ ∀ c ∈ s.registry.channels, ∀ e, m.entriesFor c.name = [e] →
      '\n' ∉ e.version.toList) ∧
    (∀ v ∈ report.verdicts, Text.pieces '\t' (Cli.verdictLine v) =
      Cli.mark v :: v.name.text :: Text.pieces '\t' (Cli.shownVersion v)) ∧
    ∀ name,
      ((∃ line ∈ printed, Cli.TellsAccepted line name) ↔
        (name ∈ s.registry.names ∧ ∃ v ∈ report.verdicts, v.name = name ∧ v.accepted = true) ∨
          ∃ v ∈ report.verdicts, ∃ line ∈ Cli.addedLines v, Cli.TellsAccepted line name) ∧
      (report.IsUnbroken →
        ((∃ line ∈ printed, Cli.TellsAccepted line name) ↔
          name ∈ s.registry.names ∧
            ∃ v ∈ report.verdicts, v.name = name ∧ v.accepted = true)) := by
  intro report output printed
  have htold (name : ChannelName) : (∃ line ∈ printed, Cli.TellsAccepted line name) ↔
      (name ∈ s.registry.names ∧ ∃ v ∈ report.verdicts, v.name = name ∧ v.accepted = true) ∨
        ∃ v ∈ report.verdicts, ∃ line ∈ Cli.addedLines v, Cli.TellsAccepted line name := by
    have hnames : (∃ v ∈ report.verdicts, v.name = name ∧ v.accepted = true) →
        name ∈ s.registry.names := by
      rintro ⟨v, hv, rfl, -⟩
      rw [← s.registry.names_validate m side, ← s.fst_validate]
      exact List.mem_map_of_mem hv
    rw [and_iff_right_of_imp hnames]
    exact Cli.exists_tellsAccepted_iff
  have hreport : report = s.registry.validate m side := s.fst_validate m side
  refine ⟨?_, Cli.pieces_reportLines report, Cli.pieces_reportLines_eq_iff report,
    hreport ▸ s.registry.isUnbroken_validate_iff m side,
    fun v _ => Cli.pieces_fields_verdict v _, ?_⟩
  · intro files stdin path hpayload
    exact Cli.validate_of_decode hpayload h s side
  · intro name
    refine ⟨htold name, fun hunbroken => ?_⟩
    -- versions without line ends add no lines
    have hnone : ¬∃ v ∈ report.verdicts, ∃ line ∈ Cli.addedLines v,
        Cli.TellsAccepted line name := by
      rintro ⟨v, hv, line, hline, -⟩
      rw [(Cli.verdictLines_of_not_mem (Cli.isUnbroken_iff.1 hunbroken v hv)).2] at hline
      exact List.not_mem_nil hline
    rw [htold name, or_iff_left hnone]

/-- A channel that accepts any version, and one that accepts its own. -/
def State.twoChannels : State :=
  let any : ChannelName := ⟨"a", "x", by decide, by decide, by decide, by decide⟩
  let own : ChannelName := ⟨"b", "y", by decide, by decide, by decide, by decide⟩
  let s := (State.initial.register (.accepting any "1")).2
  (s.register
    { name := own, supplier := .constant "2", client := .exactly "2", server := .exactly "2",
      gatherers := [] }).2

/-- A version with a tab stays in its line, and one with a line end adds none if it belongs to no
channel. -/
theorem lines_of_printed_report_with_tab :
    let m : Manifest := [⟨"a:x", "1\tok"⟩, ⟨"B:Y", "1\nok\tb:y\t2"⟩]
    let report := (State.twoChannels.validate m .server).1
    Manifest.decode (Utf8.encode m.encodeList) = .ok m ∧ report.IsUnbroken ∧
      Text.pieces '\n' (Cli.lines (Cli.reportLines report)) =
        ["ok\ta:x\t1\tok", "REJECTED\tb:y\t<absent>", "rejected client channel list: b:y", ""] := by
  intro m report
  have hclean : m.Clean := ⟨by decide, by decide⟩
  have hsize : (Utf8.encode m.encodeList).length ≤ maxPayloadBytes :=
    Nat.le_trans m.length_encodeList_le (by decide)
  have hdecode : Manifest.decode (Utf8.encode m.encodeList) = .ok m :=
    hclean.decode_encodeList hsize
  have hremote : report.verdicts.map Verdict.remote = [some "1\tok", none] := by
    decide +kernel
  have hunbroken : report.IsUnbroken := by
    intro v hv version hversion
    have hmem : some version ∈ report.verdicts.map Verdict.remote :=
      hversion ▸ List.mem_map_of_mem hv
    obtain rfl : version = "1\tok" := by simpa [hremote] using hmem
    decide
  obtain ⟨-, -, hlines, -⟩ := lines_of_printed_report _ m hdecode State.twoChannels .server
  exact ⟨hdecode, hunbroken, (hlines.2 hunbroken).trans (by decide +kernel)⟩

/-- A version can add a line that tells of a channel which the peer does not list and which has
rejected it. -/
theorem accepted_line_added_by_version :
    ¬∀ (payload : List UInt8) (m : Manifest) (s : State) (side : Side) (name : ChannelName),
      Manifest.decode payload = .ok m →
      ∀ files stdin path outcome, Cli.payload files stdin path = .ok payload →
        Cli.validate files stdin s side path = .ok outcome →
        ((∃ line ∈ Text.pieces '\n' outcome.output, Cli.TellsAccepted line name) ↔
          name ∈ s.registry.names ∧
            ∃ v ∈ (s.validate m side).1.verdicts, v.name = name ∧ v.accepted = true) := by
  intro h
  let m : Manifest := [⟨"a:x", "1\nok\tb:y\t2"⟩]
  let own : ChannelName := ⟨"b", "y", by decide, by decide, by decide, by decide⟩
  have hclean : m.Clean := ⟨by decide, by decide⟩
  have hsize : (Utf8.encode m.encodeList).length ≤ maxPayloadBytes :=
    Nat.le_trans m.length_encodeList_le (by decide)
  have hdecode : Manifest.decode (Utf8.encode m.encodeList) = .ok m :=
    hclean.decode_encodeList hsize
  let files : Files := fun _ => .ok (.file (Utf8.encode m.encodeList))
  have hpayload : Cli.payload files (Utf8.encode m.encodeList) "-" =
      .ok (Utf8.encode m.encodeList) := by
    unfold Cli.payload
    split <;> rfl
  have hline : "ok\tb:y\t2" ∈ Text.pieces '\n'
      (Cli.lines (Cli.reportLines (State.twoChannels.validate m .server).1)) := by
    decide +kernel
  have htold := h _ m State.twoChannels .server own hdecode _ _ _ _ hpayload
    (Cli.validate_of_decode hpayload hdecode State.twoChannels .server)
  obtain ⟨-, haccepted⟩ := htold.1 ⟨_, hline, "2", by decide⟩
  revert haccepted
  decide +kernel

end ChannelHandshake
