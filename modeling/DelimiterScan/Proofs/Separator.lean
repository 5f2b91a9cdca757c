import DelimiterScan.Proofs.Separator.Back

/-!
# Texts joined by a separator

Two texts with a separator between them are scanned like each by itself (`scan_separator`). The
text in front has to end outside of blocks, quotations and comments; then its tokens come first, the
separator is a cut, and the tokens of the text behind follow.
-/

namespace DelimiterScan

variable {options : Options} {delims : List Delimiter} {plan : Plan} {sep : Char} {s t : State}
  {front back input : String}

/-- The scan of the text ends outside of quotations and comments. -/
def EndsIdle (input : String) (options : Options) (delims : List Delimiter) : Prop :=
  ∃ plan, Plan.make options delims = .ok plan ∧ (plan.finalState input).Idle

/-- The result for two texts with a cut at `sep` between them, where the text in front has `offset`
bytes. -/
def ScanResult.join (front : ScanResult) (sep : String) (offset : Nat) (back : ScanResult) :
    ScanResult where
  delims := back.delims
  options := back.options
  nesting := back.nesting
  maxDepth := max front.maxDepth back.maxDepth
  comments := front.comments ++ back.comments
  tokens :=
    (if back.options.preserveDelimiters then
      front.tokens.modify (front.tokens.size - 1) (·.addText sep)
    else front.tokens) ++ back.tokens
  cuts := front.cuts.push (some sep) ++ back.cuts
  cutsAt := front.cutsAt.push (offset, sep) ++
    back.cutsAt.map fun m => (offset + sep.utf8ByteSize + m.1, m.2)
  stop := back.stop

/-- The state behind a cut, where nothing is begun yet. -/
def State.cutAt (s : State) (preserve : Bool) (offset : Nat) (matched : String) : State :=
  let s := s.noteMatch offset matched
  (if preserve then s.addText matched else s).cut (some matched)

/-! ## The cut between the texts -/

theorem Boundary.marked_nil (marker : String) : marked [] marker = false := by
  rw [Bool.eq_false_iff, ne_eq, marked_iff]
  rintro ⟨hne, hbegins⟩
  exact hne (by simpa using hbegins)

namespace Plan

section Seam

variable (hsep : Separates sep plan.options plan.delims) (hidle : t.Idle)
  (hnesting : t.nesting = [])

include hsep

theorem firstMatch?_separator (before : String) (tail : List Char) (buffer : TokenBuffer) :
    Delimiter.firstMatch? plan.delims ⟨before, sep :: tail⟩ buffer
      plan.options.caseInsensitive = some sep.toString := by
  rw [hsep.caseInsensitive]
  have hstands : Delimiter.literalStandsAt sep.toString (sep :: tail) false = true := by
    rw [Delimiter.literalStandsAt_iff]
    simp [Char.toString]
  cases hmatch : Delimiter.firstMatch? plan.delims ⟨before, sep :: tail⟩ buffer false with
  | none =>
    have hnone := List.findSome?_eq_none_iff.mp hmatch _ hsep.delimiter
    rw [Delimiter.match?, if_pos hstands] at hnone
    cases hnone
  | some matched =>
    obtain ⟨d, hd, hfound⟩ := List.exists_of_findSome?_eq_some hmatch
    obtain ⟨text, rfl, hne, htext⟩ := hsep.literals d hd
    rw [Delimiter.match?, Option.ite_none_right_eq_some, Delimiter.literalStandsAt_iff,
      Option.some.injEq] at hfound
    obtain ⟨hbegins, rfl⟩ := hfound
    rcases htext with rfl | hfree
    · rfl
    · -- Another delimiter would begin with the separator.
      rw [← List.nil_append (sep :: tail), List.prefix_append_cons_iff hfree] at hbegins
      exact absurd (by simpa using hbegins) hne

include hidle in
theorem looks_separator (tail : List Char) : plan.Looks t (sep :: tail) where
  openQuote := hidle.openQuote
  openComment := hidle.openComment
  noQuote := by
    refine List.find?_eq_none.mpr fun mark hmark => ?_
    rw [← List.nil_append (sep :: tail), Boundary.marked_append_cons (hsep.quotes mark hmark),
      Boundary.marked_nil]
    exact Bool.false_ne_true
  noComment := by
    refine List.find?_eq_none.mpr fun k hk => ?_
    rw [← List.nil_append (sep :: tail), Boundary.marked_append_cons (hsep.comments k hk).1,
      Boundary.marked_nil]
    exact Bool.false_ne_true
  limit := by
    rw [hsep.limit]
    exact Option.some_ne_none _ |>.symm

include hnesting in
theorem blockAt_separator (before : String) (tail : List Char) :
    plan.blockAt t ⟨before, sep :: tail⟩ = .none := by
  have hblocks := Boundary.ofBlocks_append_cons hsep.blocks t.nesting [] tail
  rw [List.nil_append] at hblocks
  have hnone : plan.options.blocks.findSome? (Boundary.ofBlock? t.nesting []) = none := by
    refine List.findSome?_eq_none_iff.mpr fun k _ => ?_
    simp [Boundary.ofBlock?, Boundary.marked_nil, hnesting]
  rw [blockAt, hblocks, Boundary.ofBlocks, hnone]
  rfl

include hidle hnesting in
/-- At the separator a scan makes a cut. -/
theorem step_separator (hstops : plan.stops = []) (before : String) (tail : List Char) :
    plan.step t ⟨before, sep :: tail⟩ =
      .advanced (plan.cutState t ⟨before, sep :: tail⟩ sep.toString sep.toString.utf8ByteSize)
        ⟨before ++ sep.toString, tail⟩ := by
  have hlooks : plan.Looks t (⟨before, sep :: tail⟩ : Cursor).rest :=
    looks_separator hsep hidle tail
  have hwidth : matchWidth sep.toString sep.toString = sep.toString.utf8ByteSize :=
    if_neg (by simp)
  rw [step_looks rfl hlooks, inText_flat (stop?_eq_none hstops t _) hsep.delims_ne_nil hnesting
    (blockAt_separator hsep hnesting before tail),
    atDelimiter_of_match (firstMatch?_separator hsep before tail _), hwidth, Cursor.advance_char]

end Seam

/-- The state behind a cut, up to the current token, which is begun at the end of a text. -/
theorem cutState_eq (plan : Plan) (t : State) (before : String) (tail : List Char) :
    (plan.cutState t ⟨before, sep :: tail⟩ sep.toString sep.toString.utf8ByteSize).ensureToken =
      (t.ensureToken.cutAt plan.options.preserveDelimiters before.utf8ByteSize
        sep.toString).ensureToken ∧
    (tail ≠ [] → plan.cutState t ⟨before, sep :: tail⟩ sep.toString sep.toString.utf8ByteSize =
      t.ensureToken.cutAt plan.options.preserveDelimiters before.utf8ByteSize sep.toString) := by
  have hpassed : (⟨before, sep :: tail⟩ : Cursor).passed sep.toString.utf8ByteSize =
      sep.toString :=
    Cursor.passed_of_begins (by simp) (by simp [Char.toString])
  have hoffset : (⟨before, sep :: tail⟩ : Cursor).offset = before.utf8ByteSize := rfl
  unfold cutState State.cutAt
  dsimp only
  rw [hpassed, hoffset, Cursor.advance_char]
  by_cases hpreserve : plan.options.preserveDelimiters = true
  · rw [if_pos hpreserve, if_pos hpreserve]
    exact ⟨rfl, fun _ => rfl⟩
  · rw [if_neg hpreserve, if_neg hpreserve]
    cases tail with
    | nil => exact ⟨rfl, fun hne => absurd rfl hne⟩
    | cons c cs => exact ⟨rfl, fun _ => rfl⟩

/-- Behind the cut nothing is open, and the next token is not begun. -/
theorem start_behind_cutAt (hidle : s.Idle) (hnesting : s.nesting = []) (hstop : s.stop = none)
    (preserve : Bool) (offset : Nat) (matched front : String) :
    ({} : State).behind (s.cutAt preserve offset matched) front =
      s.cutAt preserve offset matched := by
  refine State.start_behind ⟨?_, ?_⟩ ?_ ?_ ?_ front
  · cases preserve <;> exact hidle.openQuote
  · cases preserve <;> exact hidle.openComment
  · cases preserve <;> exact hnesting
  · cases preserve <;> rfl
  · cases preserve <;> exact hstop

/-! ## The whole scan -/

/-- The final state of the whole is that of the text behind, behind the cut. -/
theorem finalState_separator (hsep : Separates sep plan.options plan.delims)
    (hstops : plan.stops = []) (hidle : (plan.finalState front).Idle)
    (hnesting : (plan.finalState front).nesting = []) (back : String) :
    plan.finalState (front ++ sep.toString ++ back) =
      (plan.finalState back).behind ((plan.finalState front).cutAt
        plan.options.preserveDelimiters front.utf8ByteSize sep.toString)
        (front ++ sep.toString) := by
  obtain ⟨t, hreach, hfront⟩ := leads_to_separator hsep hstops front back
  rw [← hfront] at hidle hnesting ⊢
  obtain ⟨xs, htiled⟩ := exists_tiled hreach
  have hidle' : t.Idle := ⟨hidle.openQuote, hidle.openComment⟩
  have hcut := hreach.step (step_separator hsep hidle' hnesting hstops front back.toList)
  obtain ⟨hensured, hsame⟩ := cutState_eq plan t front back.toList
  generalize plan.cutState t ⟨front, sep :: back.toList⟩ sep.toString sep.toString.utf8ByteSize = w
    at hcut hensured hsame
  have hstart := start_behind_cutAt hidle hnesting htiled.stop plan.options.preserveDelimiters
    front.utf8ByteSize sep.toString (front ++ sep.toString)
  by_cases hempty : back.toList = []
  · -- There is nothing behind the cut, so the whole ends here.
    obtain rfl : back = "" := by simpa using hempty
    calc plan.finalState (front ++ sep.toString ++ "") = w.ensureToken :=
          finalState_eq hcut (step_of_rest_nil hempty)
      _ = _ := hensured
      _ = _ := by rw [← hstart, State.ensureToken_behind, hstart]; rfl
  · obtain ⟨s, hback, hfinal⟩ := exists_reaches_end hstops back
    have hleads := leads_behind (forward_of_separates hsep hstops) hback (t.ensureToken.cutAt
      plan.options.preserveDelimiters front.utf8ByteSize sep.toString) (front ++ sep.toString)
    have hplace : (Cursor.ofText back).behind (front ++ sep.toString) =
        ⟨front ++ sep.toString, back.toList⟩ := by
      rw [Cursor.behind, Cursor.ofText, String.append_empty]
    rw [hstart, hplace] at hleads
    rw [hsame hempty] at hcut
    rw [finalState_eq (hcut.trans hleads) (step_of_rest_nil rfl), hfinal,
      State.ensureToken_behind]

end Plan

/-! ## The whole result -/

theorem modify_push_last {α : Type} (xs : Array α) (x : α) (f : α → α) :
    (xs.push x).modify ((xs.push x).size - 1) f = xs.push (f x) := by
  ext i h₁ h₂
  · simp
  · simp only [Array.getElem_modify, Array.getElem_push, Array.size_push]
    grind

/-- A cut that keeps the separator adds it to the last token. -/
theorem State.finished_cutAt (s : State) (preserve : Bool) (offset : Nat) (matched : String) :
    (s.ensureToken.cutAt preserve offset matched).buffer.finished =
      if preserve then
        s.ensureToken.buffer.tokens.modify (s.ensureToken.buffer.tokens.size - 1)
          (·.addText matched)
      else s.ensureToken.buffer.tokens := by
  cases preserve with
  | false => rfl
  | true =>
    rw [if_pos rfl]
    exact (modify_push_last s.buffer.finished (s.buffer.current.getD {})
      (·.addText matched)).symm

theorem State.result_behind (s t : State) (options : Options) (delims : List Delimiter)
    (front sep : String) :
    (s.behind (t.ensureToken.cutAt options.preserveDelimiters front.utf8ByteSize sep)
        (front ++ sep)).result delims options =
      (t.ensureToken.result delims options).join sep front.utf8ByteSize
        (s.result delims options) := by
  generalize hhead : t.ensureToken.cutAt options.preserveDelimiters front.utf8ByteSize sep = head
  have htokens := t.finished_cutAt options.preserveDelimiters front.utf8ByteSize sep
  have hkept : head.maxDepth = t.maxDepth ∧ head.comments = t.comments ∧
      head.cuts = t.cuts.push (some sep) ∧
      head.cutsAt = t.cutsAt.push (front.utf8ByteSize, sep) := by
    rw [← hhead]
    cases options.preserveDelimiters <;> exact ⟨rfl, rfl, rfl, rfl⟩
  obtain ⟨hdepth, hcomments, hcuts, hcutsAt⟩ := hkept
  rw [hhead] at htokens
  simp only [result, behind, TokenBuffer.tokens_append, htokens, hdepth, hcomments, hcuts,
    hcutsAt, String.utf8ByteSize_append]
  rfl

/-! ## Two texts and the whole -/

/-- Two texts with a separator between them are scanned like each by itself, if the first one ends
outside of all regions: with the error of the second one, or with the tokens of both, one behind the
other, and a cut between them. -/
theorem scan_separator (hsep : Separates sep options delims) {front : String} {r : ScanResult}
    (hfront : scan front options delims = .ok r) (hidle : EndsIdle front options delims)
    (back : String) :
    (∃ unclosed, scan back options delims = .error (.unterminatedBlock unclosed) ∧
      scan (front ++ sep.toString ++ back) options delims =
        .error (.unterminatedBlock unclosed)) ∨
    ∃ r', scan back options delims = .ok r' ∧
      scan (front ++ sep.toString ++ back) options delims =
        .ok (r.join sep.toString front.utf8ByteSize r') := by
  obtain ⟨plan, hmake, hidle⟩ := hidle
  obtain rfl : ⟨options, delims, []⟩ = plan := Except.ok.inj (hsep.make_eq_ok.symm.trans hmake)
  rw [scan_of_make hmake, State.verdict_eq_ok_iff] at hfront
  obtain ⟨hnesting, rfl⟩ := hfront
  have hwhole := Plan.finalState_separator hsep rfl hidle hnesting back
  rw [scan_of_make hmake, scan_of_make hmake, hwhole]
  generalize hback : Plan.finalState ⟨options, delims, []⟩ back = s
  cases hopen : s.nesting with
  | nil =>
    refine .inr ⟨_, State.verdict_of_nil hopen, ?_⟩
    rw [State.verdict_of_nil ((State.nesting_behind ..).trans hopen)]
    exact congrArg Except.ok (State.result_behind s _ options delims front sep.toString)
  | cons k outer =>
    refine .inl ⟨(k :: outer).reverse, ?_, ?_⟩
    · rw [State.verdict, hopen]
    · rw [State.verdict, State.nesting_behind, hopen]

theorem separates_comma (preserve : Bool) :
    Separates ',' { preserveDelimiters := preserve } [.literal ","] where
  limit := rfl
  stops := rfl
  useRegex := rfl
  caseInsensitive := rfl
  delimiter := List.mem_singleton_self _
  literals d hd := ⟨",", List.mem_singleton.mp hd, by decide, .inl rfl⟩
  blocks := by
    show ∀ k ∈ Block.defaultBlocks, ',' ∉ k.start.toList ∧ ',' ∉ k.finish.toList
    decide
  quotes := by
    show ∀ mark ∈ Block.defaultQuotes, ',' ∉ mark.toList
    decide
  comments := by
    show ∀ k ∈ Block.defaultComments, ',' ∉ k.start.toList ∧ ',' ∉ k.finish.toList
    decide

/-- A group in front and a quotation behind, which hold the separator too. -/
theorem scan_group_and_quotation :
    Separates ',' { preserveDelimiters := true } [.literal ","] ∧
    EndsIdle "x(1,2)" { preserveDelimiters := true } [.literal ","] ∧
    ∃ r r', scan "x(1,2)" { preserveDelimiters := true } [.literal ","] = .ok r ∧
      scan "'y,' z" { preserveDelimiters := true } [.literal ","] = .ok r' ∧
      scan "x(1,2),'y,' z" { preserveDelimiters := true } [.literal ","] = .ok (r.join "," 6 r') ∧
      (r.join "," 6 r').texts = ["x(1,2),", "'y,' z"] := by
  have hidle : EndsIdle "x(1,2)" { preserveDelimiters := true } [.literal ","] :=
    ⟨_, rfl, rfl, rfl⟩
  refine ⟨separates_comma true, hidle, _, _, rfl, rfl, ?_, rfl⟩
  rcases scan_separator (separates_comma true) rfl hidle "'y,' z" with
    ⟨unclosed, herror, -⟩ | ⟨r', hback, hwhole⟩
  · cases herror
  · cases hback
    exact hwhole

end DelimiterScan
