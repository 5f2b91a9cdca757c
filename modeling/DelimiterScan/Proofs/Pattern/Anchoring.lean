import DelimiterScan.Proofs.Limit
import DelimiterScan.Proofs.Pattern.Bodies
import DelimiterScan.Proofs.Pattern.Program
import DelimiterScan.Proofs.Tiling

/-!
# Anchored patterns

A source is pasted into a group behind the condition for the start of the text. If it stays in that
group (`Pattern.Contained`), then the pattern compiles as the source does by itself, up to the room
and the two levels that the group takes, and it finds what the source finds at the start of the text
ahead (`Pattern.find?_eq`). A source that closes the group is read outside of it: it may compile
where it has no meaning by itself, and match anywhere (`unanchored_of_closed_group`).
-/

namespace DelimiterScan

open DelimiterScan.Regex DelimiterScan.Regex.Source

variable {source : String} {flags : Flags} {measure : RoomMeasure}

/-! ## Reading the group around a source -/

/-- The text in the group: the source, and a line end where a comment could go on. -/
def Pattern.inner (source : String) (flags : Flags) : List Char :=
  source.toList ++ if flags.ignoreWhitespace then ['\n'] else []

theorem Pattern.toList_anchored (source : String) (flags : Flags) :
    (anchored source flags).toList =
      '\\' :: 'A' :: '(' :: '?' :: ':' :: (inner source flags ++ [')']) := by
  unfold anchored inner
  cases flags.ignoreWhitespace <;> simp

theorem Pattern.pasted_inner (source : String) (flags : Flags) :
    Pasted (flags.ignoreWhitespace = false) (inner source flags) (inner source flags ++ [')']) := by
  unfold inner
  by_cases hspaced : flags.ignoreWhitespace = true
  · rw [if_pos hspaced]
    exact .of_line _ _
  · rw [if_neg hspaced, List.append_nil]
    exact .of_loose (by simpa using hspaced) _

namespace Regex.Source

/-- Reads a group behind the condition for the start of the text. -/
theorem readBody_anchored (fuel : Nat) (mode : Mode) (names : List (List Char)) (cs : List Char) :
    readBody (fuel + 2) mode names [] [] ('\\' :: 'A' :: '(' :: '?' :: ':' :: cs) =
      readBody fuel mode names [] [] cs >>=
        readBehindGroup fuel mode [] [.expr (.look .textStart) 0] := by
  have hescape := skip_cons mode.ignoreWhitespace (c := '\\') (by decide +kernel) (by decide)
    ('A' :: '(' :: '?' :: ':' :: cs)
  have hopen := skip_cons mode.ignoreWhitespace (c := '(') (by decide +kernel) (by decide)
    ('?' :: ':' :: cs)
  have hmark := skip_cons mode.ignoreWhitespace (c := '?') (by decide +kernel) (by decide)
    (':' :: cs)
  rw [readBody_of_ne hescape (by decide) (by decide) (by decide) (by decide)]
  show readBody (fuel + 1) mode names [] [.expr (.look .textStart) 0] _ = _
  rw [readBody_open hopen, readOpening_marked hmark]
  rfl

theorem readBehindGroup_closed {fuel : Nat} (hfuel : 0 < fuel) (mode : Mode)
    (body : Read × List (List Char)) :
    readBehindGroup fuel mode [] [.expr (.look .textStart) 0] (putBody body [')']) =
      .ok (putBody (⟨.concat (.look .textStart) body.1.expr, body.1.depth + 2⟩, body.2) []) := by
  show readBody fuel mode body.2 [] _ [] = _
  rw [readBody_end hfuel]
  simp [closeChoice, closeSequence, Expr.choice, Expr.sequence, Item.expr?, Item.depth, putBody]

variable {cs : List Char}

theorem readWhole_eq_ok_iff {body : Read} : readWhole flags cs = .ok body ↔
    ∃ names, readBody (cs.length + 1) (.ofFlags flags) [] [] [] cs = .ok (body, names, []) := by
  constructor
  · intro h
    obtain ⟨⟨read, names, rest⟩, hread, h⟩ := ok_of_bind h
    cases rest with
    | nil =>
      cases h
      exact ⟨names, hread⟩
    | cons c rest => cases h
  · rintro ⟨names, hread⟩
    exact bind_of_ok hread _

theorem readWhole_of_rest {body : Read × List (List Char)} {c : Char} {rest : List Char}
    (h : readBody (cs.length + 1) (.ofFlags flags) [] [] [] cs = .ok (putBody body (c :: rest))) :
    readWhole flags cs = .error .groupUnopened :=
  bind_of_ok h _

theorem readWhole_of_error {e : Fault}
    (h : readBody (cs.length + 1) (.ofFlags flags) [] [] [] cs = .error e) :
    readWhole flags cs = .error e := by
  unfold readWhole
  rw [h]
  rfl

end Regex.Source

/-- The source stays in the group that it is pasted into. -/
structure Pattern.Contained (source : String) (flags : Flags) : Prop where
  /-- It closes no group that it does not open. -/
  closes : readWhole flags (inner source flags) ≠ .error .groupUnopened
  /-- A line end behind it adds nothing. -/
  line : flags.ignoreWhitespace = true →
    (readWhole flags (source.toList ++ ['\n'])).toOption = (readWhole flags source.toList).toOption
  /-- No comment at its end swallows a parenthesis behind it. -/
  comment : flags.ignoreWhitespace = false → ∀ body, readWhole flags source.toList = .ok body →
    ∀ body', readWhole flags (source.toList ++ [')']) ≠ .ok body'

namespace Pattern

theorem Contained.readWhole_inner (h : Contained source flags) :
    (readWhole flags (inner source flags)).toOption = (readWhole flags source.toList).toOption := by
  unfold inner
  by_cases hspaced : flags.ignoreWhitespace = true
  · rw [if_pos hspaced]
    exact h.line hspaced
  · rw [if_neg hspaced, List.append_nil]

theorem follows_inner (source : String) (flags : Flags) {fuel : Nat}
    (hfuel : (inner source flags).length + 1 < fuel) :
    Follows (flags.ignoreWhitespace = false) putBody Drained
      (readBody ((inner source flags).length + 1) (.ofFlags flags) [] [] [] (inner source flags))
      (readBody fuel (.ofFlags flags) [] [] [] (inner source flags ++ [')'])) := by
  have hpasted := pasted_inner source flags
  exact follows_readBody hpasted (Nat.lt_succ_self _) (hpasted.length ▸ hfuel)

/-- The parenthesis that closes the group is not swallowed. -/
theorem Contained.not_swallowed (h : Contained source flags)
    (hspaced : flags.ignoreWhitespace = false) {body : Read × List (List Char)}
    (hread : readBody ((inner source flags).length + 1) (.ofFlags flags) [] [] []
      (inner source flags) = .ok (putBody body [])) :
    readBody ((inner source flags).length + 5) (.ofFlags flags) [] [] []
      (inner source flags ++ [')']) ≠ .ok (putBody body []) := by
  have hlength := (pasted_inner source flags).length
  intro hspent
  obtain ⟨body', rest, rest', hbody, hread', hrest⟩ :=
    (follows_inner source flags (Nat.lt_succ_self _)).exists_ok hread
  rcases hrest with hrest | ⟨-, -, rfl⟩
  · -- with less fuel the parenthesis is left, so it is left here
    have hmore := readBody_succ (readBody_succ (readBody_succ hread'))
    have hlast : rest' = [] :=
      congrArg (fun read => read.2.2) (Except.ok.inj (hmore.symm.trans hspent))
    have := hrest.length
    rw [hlast] at this
    cases this
  · have hsource : inner source flags = source.toList := by
      rw [inner, if_neg (by simp [hspaced]), List.append_nil]
    rw [hsource] at hread hread' hlength
    refine h.comment hspaced body.1 (readWhole_eq_ok_iff.mpr ⟨_, hread⟩) body'.1 ?_
    rw [readWhole_eq_ok_iff, hlength]
    exact ⟨_, hread'⟩

/-- The group is read as the source is, behind the condition and two levels deeper. -/
theorem readWhole_anchored (h : Contained source flags) :
    (readWhole flags (anchored source flags).toList).toOption =
      (readWhole flags source.toList).toOption.map fun body =>
        ⟨.concat (.look .textStart) body.expr, body.depth + 2⟩ := by
  have hfollows := follows_inner source flags
    (show (inner source flags).length + 1 < (inner source flags).length + 5 by omega)
  have hlength : (anchored source flags).toList.length + 1 =
      (inner source flags).length + 5 + 2 := by simp [toList_anchored]
  have hgroup := readBody_anchored ((inner source flags).length + 5) (.ofFlags flags) []
    (inner source flags ++ [')'])
  rw [← toList_anchored, ← hlength] at hgroup
  rw [← h.readWhole_inner]
  cases hread : readBody ((inner source flags).length + 1) (.ofFlags flags) [] [] []
    (inner source flags) with
  | error e =>
    rw [readWhole_of_error hread]
    cases hwhole : readWhole flags (anchored source flags).toList with
    | error e => rfl
    | ok body =>
      obtain ⟨names, hbody⟩ := readWhole_eq_ok_iff.mp hwhole
      rw [hgroup] at hbody
      obtain ⟨read, hread', hbehind⟩ := ok_of_bind hbody
      rw [readBehindGroup_of_drained (hfollows.lost_of_error hread hread')] at hbehind
      cases hbehind
  | ok read =>
    obtain ⟨body, rest, rest', rfl, hread', hrest⟩ := hfollows.exists_ok hread
    rcases hrest with hrest | ⟨hspaced, rfl, rfl⟩
    · cases hrest with
      | nil =>
        rw [readWhole_eq_ok_iff.mpr ⟨_, hread⟩]
        rw [bind_of_ok hread', readBehindGroup_closed (Nat.succ_pos _)] at hgroup
        rw [readWhole_eq_ok_iff.mpr ⟨_, hgroup⟩]
        rfl
      | cons => exact absurd (readWhole_of_rest hread) h.closes
    · exact absurd hread' (h.not_swallowed hspaced hread)

end Pattern

/-! ## Compiling the group around a source -/

theorem Regex.compile_eq_ok_iff_readWhole {cs : List Char} {regex : Regex} :
    compile flags cs measure = .ok regex ↔ ∃ body, readWhole flags cs = .ok body ∧
      body.depth ≤ maxDepth ∧ measure.room body.expr ≤ greatestRoom ∧
      regex = ⟨body.expr, .ofExpr body.expr⟩ := by
  rw [compile_eq_ok_iff]
  constructor
  · rintro ⟨_, hread, hroom, rfl⟩
    obtain ⟨body, hwhole, hdepth, rfl⟩ := read_eq_ok_iff.mp hread
    exact ⟨body, hwhole, hdepth, hroom, rfl⟩
  · rintro ⟨body, hwhole, hdepth, hroom, rfl⟩
    exact ⟨body.expr, read_eq_ok_iff.mpr ⟨body, hwhole, hdepth, rfl⟩, hroom, rfl⟩

namespace Pattern

theorem regex_of_compile {p : Pattern} (h : compile source flags measure = .ok p) :
    Regex.compile flags (anchored source flags).toList measure = .ok p.regex := by
  unfold compile at h
  split at h
  · next regex hregex =>
    cases h
    exact hregex
  · cases h

theorem exists_compile {regex : Regex}
    (h : Regex.compile flags (anchored source flags).toList measure = .ok regex) :
    ∃ p, compile source flags measure = .ok p := by
  unfold compile
  split
  · exact ⟨_, rfl⟩
  · next hfault =>
    rw [h] at hfault
    cases hfault

/-- The room of the group is that of one state and of what the group holds. -/
theorem room_group (measure : RoomMeasure) (e : Expr) :
    measure.room (.concat (.look .textStart) e) = measure.stateRoom + measure.room e := by
  rw [measure.room_concat, measure.room_look]

/-- What the group is compiled to. -/
theorem exists_body (h : Contained source flags) {p : Pattern}
    (hp : compile source flags measure = .ok p) :
    ∃ body, readWhole flags source.toList = .ok body ∧ body.depth + 2 ≤ maxDepth ∧
      measure.stateRoom + measure.room body.expr ≤ greatestRoom ∧
      p.regex = ⟨.concat (.look .textStart) body.expr,
        .ofExpr (.concat (.look .textStart) body.expr)⟩ := by
  obtain ⟨group, hwhole, hdepth, hroom, hregex⟩ :=
    Regex.compile_eq_ok_iff_readWhole.mp (regex_of_compile hp)
  have hgroup := readWhole_anchored h
  rw [hwhole] at hgroup
  obtain ⟨body, hbody, rfl⟩ := Option.map_eq_some_iff.mp hgroup.symm
  rw [room_group] at hroom
  exact ⟨body, toOption_eq_some_iff.mp hbody, hdepth, hroom, hregex⟩

/-- A source that stays in its group compiles as it does by itself, up to the two levels and the
room of the group. -/
theorem exists_compile_iff (h : Contained source flags) :
    (∃ p, compile source flags measure = .ok p) ↔
      ∃ body, readWhole flags source.toList = .ok body ∧ body.depth + 2 ≤ maxDepth ∧
        measure.stateRoom + measure.room body.expr ≤ greatestRoom := by
  constructor
  · rintro ⟨p, hp⟩
    obtain ⟨body, hwhole, hdepth, hroom, -⟩ := exists_body h hp
    exact ⟨body, hwhole, hdepth, hroom⟩
  · rintro ⟨body, hwhole, hdepth, hroom⟩
    have hgroup := readWhole_anchored h
    rw [hwhole] at hgroup
    rw [← room_group] at hroom
    exact exists_compile (Regex.compile_eq_ok_iff_readWhole.mpr
      ⟨_, toOption_eq_some_iff.mp hgroup, hdepth, hroom, rfl⟩)

/-- A source that stays in its group finds what it finds by itself at the start of the text. -/
theorem find?_eq (h : Contained source flags) {p : Pattern}
    (hp : compile source flags measure = .ok p) :
    ∃ regex, Regex.compile flags source.toList measure = .ok regex ∧
      ∀ rest, p.find? rest = (regex.program.matchLength? none rest).map rest.take := by
  obtain ⟨body, hwhole, hdepth, hroom, hregex⟩ := exists_body h hp
  refine ⟨⟨body.expr, .ofExpr body.expr⟩, ?_, fun rest => ?_⟩
  · exact Regex.compile_eq_ok_iff_readWhole.mpr ⟨body, hwhole, by omega, by omega, rfl⟩
  · have hstart : Expr.startsAtText (.concat (.look .textStart) body.expr) = true := rfl
    show p.regex.find? rest = _
    rw [hregex, Regex.find?, if_pos hstart, Program.matchLength?_textStart]

theorem prefix_of_find? (h : Contained source flags) {p : Pattern}
    (hp : compile source flags measure = .ok p) {rest text : List Char}
    (hfind : p.find? rest = some text) : text <+: rest := by
  obtain ⟨regex, -, hfind'⟩ := find?_eq h hp
  rw [hfind'] at hfind
  obtain ⟨n, -, rfl⟩ := Option.map_eq_some_iff.mp hfind
  exact List.take_prefix n rest

end Pattern

/-! ## The matches of a scan -/

/-- The delimiter gives the text of the match where the input is passed up to the offset. -/
def Delimiter.MatchesAt (d : Delimiter) (input : String) (caseInsensitive : Bool)
    (m : Nat × String) : Prop :=
  ∃ cur buffer, cur.text = input ∧ cur.offset = m.1 ∧
    d.match? cur buffer caseInsensitive = some m.2

namespace Plan

variable {plan : Plan} {input : String} {s t : State} {cur cur' : Cursor}

/-- A step notes a match only of a delimiter, and where the scan stands. -/
theorem match_of_step (hstep : plan.step s cur = .advanced t cur') {m : Nat × String}
    (hm : m ∈ t.cutsAt) : m ∈ s.cutsAt ∨
      ∃ d ∈ plan.delims, d.MatchesAt cur.text plan.options.caseInsensitive m := by
  cases records_of_advanced hstep with
  | kept _ _ hcutsAt | edge _ _ _ _ hcutsAt => exact .inl (hcutsAt ▸ hm)
  | delimiter text hdelims _ _ hcuts _ =>
    have hchanged : t.cuts ≠ s.cuts := by
      intro heq
      have hsize := congrArg Array.size (heq.symm.trans hcuts)
      rw [Array.size_push] at hsize
      omega
    obtain ⟨hidle, -, c, cs, matched, -, hmatch, rfl, -⟩ :=
      exists_match_of_cut hstep hdelims hchanged
    rw [(cutState_spec plan hidle.openComment cur _ _).2.2.2.1] at hm
    rcases Array.mem_push.mp hm with hm | rfl
    · exact .inl hm
    · obtain ⟨d, hd, hmatch⟩ := List.exists_of_findSome?_eq_some hmatch
      exact .inr ⟨d, hd, cur, _, rfl, rfl, hmatch⟩

theorem match_of_reaches (h : plan.Reaches input s cur) : ∀ m ∈ s.cutsAt,
    ∃ d ∈ plan.delims, d.MatchesAt input plan.options.caseInsensitive m := by
  refine h.induct (motive := fun s _ => ∀ m ∈ s.cutsAt,
    ∃ d ∈ plan.delims, d.MatchesAt input plan.options.caseInsensitive m) ?_ ?_
  · exact nofun
  · intro s t cur cur' hreach ih hstep m hm
    rcases match_of_step hstep hm with hm | hm
    · exact ih m hm
    · rwa [hreach.text] at hm

theorem match_of_finalState (plan : Plan) (input : String) :
    ∀ m ∈ (plan.finalState input).cutsAt,
      ∃ d ∈ plan.delims, d.MatchesAt input plan.options.caseInsensitive m := by
  obtain ⟨s, cur, s', hreach, hend, hfinal⟩ := plan.exists_reaches_finished input
  have hcutsAt : (plan.finalState input).cutsAt = s.cutsAt := by
    rw [hfinal, ← (cuts_of_finished hend).2]
    rfl
  rw [hcutsAt]
  exact match_of_reaches hreach

end Plan

/-- What a pattern of a contained source matches is what the input goes on with there. -/
theorem Delimiter.MatchesAt.begins {p : Pattern} {input : String} {caseInsensitive : Bool}
    {m : Nat × String} (h : (pattern p).MatchesAt input caseInsensitive m)
    (hcontained : Pattern.Contained source flags)
    (hp : Pattern.compile source flags measure = .ok p) :
    ∃ before after, input = before ++ m.2 ++ after ∧ before.utf8ByteSize = m.1 := by
  obtain ⟨cur, buffer, rfl, hoffset, hmatch⟩ := h
  obtain ⟨found, hfound, htext⟩ := Option.map_eq_some_iff.mp hmatch
  obtain ⟨after, hafter⟩ := Pattern.prefix_of_find? hcontained hp hfound
  refine ⟨cur.before, String.ofList after, ?_, hoffset⟩
  rw [← htext, Cursor.text, ← hafter, String.ofList_append, String.append_assoc]

/-- Whatever room is measured by, a source that stays in the group that it is pasted into compiles
as it does by itself, up to the two levels and the one state of the group, and finds in the text
ahead what it finds by itself at the start of a text. So each match that a scan notes of such a
pattern stands in the input at its offset. -/
theorem pattern_anchored (measure : RoomMeasure) (hcontained : Pattern.Contained source flags) :
    ((∃ p, Pattern.compile source flags measure = .ok p) ↔
      ∃ body, readWhole flags source.toList = .ok body ∧ body.depth + 2 ≤ maxDepth ∧
        measure.stateRoom + measure.room body.expr ≤ greatestRoom) ∧
    ∀ p, Pattern.compile source flags measure = .ok p →
      (∃ regex, Regex.compile flags source.toList measure = .ok regex ∧
        ∀ rest, p.find? rest = (regex.program.matchLength? none rest).map rest.take) ∧
      ∀ {input options delims r}, scan input options delims measure = .ok r →
        ∃ es, Plan.resolve options.useRegex delims measure = .ok es ∧
          ∀ m ∈ r.cutsAt, ∃ d ∈ es, d.MatchesAt input options.caseInsensitive m ∧
            (d = .pattern p →
              ∃ before after, input = before ++ m.2 ++ after ∧ before.utf8ByteSize = m.1) := by
  refine ⟨Pattern.exists_compile_iff hcontained,
    fun p hp => ⟨Pattern.find?_eq hcontained hp, fun hscan => ?_⟩⟩
  obtain ⟨plan, hmake, rfl⟩ := exists_plan_of_scan hscan
  obtain ⟨rfl, hresolved, -⟩ := Plan.make_eq_ok_iff.mp hmake
  refine ⟨plan.delims, hresolved, fun m hm => ?_⟩
  obtain ⟨d, hd, hmatch⟩ := plan.match_of_finalState _ m hm
  refine ⟨d, hd, hmatch, ?_⟩
  rintro rfl
  exact hmatch.begins hcontained hp

/-- Of two alternatives that begin alike the first is found, and noted where it stands. -/
theorem pattern_anchored_of_alternatives :
    Pattern.Contained "bc|b" {} ∧
    (∃ p, Pattern.compile "bc|b" {} = .ok p ∧ p.find? "bca".toList = some "bc".toList) ∧
    ∃ r, scan "abca" { useRegex := some {} } [.literal "bc|b"] = .ok r ∧ r.cutsAt = #[(1, "bc")] ∧
      ∃ before after, "abca" = before ++ "bc" ++ after ∧ before.utf8ByteSize = 1 := by
  have hcontained : Pattern.Contained "bc|b" {} := by
    refine ⟨fun h => ?_, nofun, fun _ _ _ _ h => ?_⟩
    · have hwhole : readWhole {} (Pattern.inner "bc|b" {}) = .ok _ := rfl
      cases hwhole.symm.trans h
    · have hclosing : readWhole {} ("bc|b".toList ++ [')']) = .error .groupUnopened := rfl
      cases hclosing.symm.trans h
  obtain ⟨hcompiles, hfinds⟩ := pattern_anchored .estimate hcontained
  obtain ⟨p, hp⟩ := hcompiles.mpr ⟨_, rfl, by decide +kernel, by decide +kernel⟩
  obtain ⟨⟨regex, hregex, hfind⟩, hscans⟩ := hfinds p hp
  refine ⟨hcontained, ⟨p, hp, ?_⟩, ?_⟩
  · have hfound : (Regex.compile {} "bc|b".toList).toOption.map
        (fun regex => (regex.program.matchLength? none "bca".toList).map "bca".toList.take) =
          some (some "bc".toList) := by decide +kernel
    rw [hregex] at hfound
    rw [hfind]
    exact Option.some.inj hfound
  · have hcuts : (scan "abca" { useRegex := some {} } [.literal "bc|b"]).toOption.map (·.cutsAt) =
        some #[(1, "bc")] := by decide +kernel
    obtain ⟨r, hscan, hcutsAt⟩ := Option.map_eq_some_iff.mp hcuts
    replace hscan := toOption_eq_some_iff.mp hscan
    obtain ⟨es, hresolved, hmatches⟩ := hscans hscan
    have hnoted : (1, "bc") ∈ r.cutsAt := hcutsAt ▸ Array.mem_singleton.mpr rfl
    obtain ⟨d, hd, -, hbegins⟩ := hmatches (1, "bc") hnoted
    -- the literal is resolved to the pattern of its text
    rcases Plan.resolve_eq_ok_iff.mp hresolved with _ | ⟨hfirst, _ | _⟩
    rw [List.mem_singleton] at hd
    subst hd
    have hpattern : (Pattern.compile "bc|b" {}).map Delimiter.pattern = .ok d := hfirst
    rw [hp] at hpattern
    exact ⟨r, hscan, hcutsAt, hbegins (Except.ok.inj hpattern).symm⟩

/-- A source that closes the group has no meaning by itself, but it compiles, and what it finds need
not stand where it is looked for. -/
theorem unanchored_of_closed_group :
    (∀ regex, Regex.compile {} "a)|(b".toList ≠ .ok regex) ∧
    (∃ p, Pattern.compile "a)|(b" {} = .ok p ∧ p.find? "xxb".toList = some "b".toList ∧
      ¬ "b".toList <+: "xxb".toList) ∧
    ∃ r, scan "xxb" { useRegex := some {} } [.literal "a)|(b"] = .ok r ∧ (0, "b") ∈ r.cutsAt := by
  refine ⟨fun regex h => ?_, ?_, ?_⟩
  · cases (show Regex.compile {} "a)|(b".toList = .error .groupUnopened from rfl).symm.trans h
  · have hfound : (Pattern.compile "a)|(b" {}).toOption.map (·.find? "xxb".toList) =
        some (some "b".toList) := by decide +kernel
    obtain ⟨p, hp, hfind⟩ := Option.map_eq_some_iff.mp hfound
    exact ⟨p, toOption_eq_some_iff.mp hp, hfind, by decide⟩
  · have hcuts : (scan "xxb" { useRegex := some {} } [.literal "a)|(b"]).toOption.map
        (·.cutsAt.contains (0, "b")) = some true := by decide +kernel
    obtain ⟨r, hscan, hmem⟩ := Option.map_eq_some_iff.mp hcuts
    exact ⟨r, toOption_eq_some_iff.mp hscan, Array.contains_iff_mem.mp hmem⟩

end DelimiterScan
