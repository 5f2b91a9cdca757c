import DelimiterScan.Proofs.Reaction

/-!
# What is open

Whatever is open comes from the tables and was opened by a marker that is not empty, and a
quotation and a comment are never open at the same time. This is `State.Opened`, which every step
keeps (`opened_step`).
-/

namespace DelimiterScan

variable {plan : Plan} {input : String} {s t : State} {cur cur' : Cursor}

theorem Boundary.marked_ne_empty {rest : List Char} {marker : String}
    (h : marked rest marker = true) : marker ≠ "" :=
  (marked_iff.mp h).1

/-- A block that opens is one of the table, and its first marker stands at the cursor. -/
theorem Boundary.opens_of_ofBlocks {blocks nesting : List Block} {rest : List Char} {k : Block}
    (h : ofBlocks blocks nesting rest = .opens k) :
    k ∈ blocks ∧ marked rest k.start = true := by
  obtain ⟨k', hk', hb⟩ := exists_ofBlock?_of_ofBlocks (by rw [h]; exact nofun)
  rw [h] at hb
  unfold ofBlock? at hb
  split at hb
  · next hstart =>
    cases hb
    exact ⟨hk', hstart⟩
  · split at hb
    · cases hb
    · split at hb <;> cases hb

/-- What is open comes from the tables. -/
structure State.Opened (plan : Plan) (s : State) : Prop where
  quote : ∀ mark ∈ s.openQuote, mark ∈ plan.options.quotes ∧ mark ≠ ""
  comment : ∀ k ∈ s.openComment, k ∈ plan.options.comments ∧ k.start ≠ ""
  nesting : ∀ k ∈ s.nesting, k ∈ plan.options.blocks ∧ k.start ≠ ""
  apart : s.openQuote = none ∨ s.openComment = none

namespace State.Opened

theorem start (plan : Plan) : Opened plan {} := ⟨nofun, nofun, nofun, .inl rfl⟩

/-- A state with the same things open. -/
theorem congr (h : Opened plan s) (hquote : t.openQuote = s.openQuote)
    (hcomment : t.openComment = s.openComment) (hnesting : t.nesting = s.nesting) :
    Opened plan t := by
  obtain ⟨quote, comment, nesting, apart⟩ := h
  rw [← hquote] at quote
  rw [← hcomment] at comment
  rw [← hnesting] at nesting
  rw [← hquote, ← hcomment] at apart
  exact ⟨quote, comment, nesting, apart⟩

theorem inComment (h : Opened plan s) (b : Boundary Block) (c : String) :
    Opened plan (Plan.inComment s cur b c).state := by
  unfold Plan.inComment
  dsimp only
  split
  · cases b <;> exact h.congr rfl rfl rfl
  · exact h.congr rfl rfl rfl

theorem atBlock (h : Opened plan s) (cur : Cursor) :
    Opened plan (s.atBlock (plan.blockAt s cur)) := by
  cases hb : plan.blockAt s cur with
  | none => exact h
  | opens k =>
    obtain ⟨hk, hmark⟩ := Boundary.opens_of_ofBlocks hb
    refine ⟨h.quote, h.comment, fun k' hk' => ?_, h.apart⟩
    rcases List.mem_cons.mp hk' with rfl | hk'
    · exact ⟨hk, Boundary.marked_ne_empty hmark⟩
    · exact h.nesting k' hk'
  | closes k =>
    exact ⟨h.quote, h.comment, fun k' hk' => h.nesting k' (List.mem_of_mem_tail hk'), h.apart⟩

theorem atBlockEdge (h : Opened plan t) (b : Boundary Block) (c : String) :
    Opened plan (Plan.atBlockEdge t cur b c).state := by
  have hreaction := Plan.reaction_atBlockEdge t cur b c
  generalize Plan.atBlockEdge t cur b c = o at hreaction
  cases hreaction <;> exact h.congr rfl rfl rfl

theorem cutState (h : Opened plan s) (cur : Cursor) (matched : String) (width : Nat) :
    Opened plan (plan.cutState s cur matched width) := by
  unfold Plan.cutState
  dsimp only
  split
  · exact h.congr rfl rfl rfl
  · split <;> exact h.congr rfl rfl rfl

end State.Opened

namespace Plan

/-- A step opens nothing that is not in the tables, and nothing beside what excludes it. -/
theorem opened_step (h : s.Opened plan) : (plan.step s cur).state.Opened plan := by
  cases hrest : cur.rest with
  | nil =>
    rw [step_of_rest_nil hrest]
    exact h
  | cons c cs =>
    have hreaction := plan.reaction_step s hrest
    generalize plan.step s cur = o at hreaction
    cases hreaction with
    | @commentBegins k _ _ hk hmark =>
      -- A comment may begin where a quotation ends, but it opens only when that one is closed.
      have hopened : State.Opened plan { s with openQuote := none, openComment := some k } := by
        refine ⟨nofun, fun k hk' => ?_, h.nesting, .inl rfl⟩
        cases hk'
        exact ⟨hk, Boundary.marked_ne_empty hmark⟩
      exact hopened.inComment _ _
    | commentGoesOn => exact h.inComment _ _
    | commentEnds =>
      have hopened : State.Opened plan { s with openComment := none } :=
        ⟨h.quote, nofun, h.nesting, .inr rfl⟩
      exact hopened.inComment _ _
    | quoteBegins hidle hmem hmark =>
      refine ⟨fun mark hmark' => ?_, h.comment, h.nesting, .inr hidle.openComment⟩
      cases hmark'
      exact ⟨hmem, Boundary.marked_ne_empty hmark⟩
    | quoteEnds => exact ⟨nofun, h.comment, h.nesting, .inl rfl⟩
    | quoteGoesOn | limited | unmatched => exact h.congr rfl rfl rfl
    | stopped | nested => exact (h.atBlock cur).congr rfl rfl rfl
    | edge => exact (h.atBlock cur).atBlockEdge _ _
    | matched => exact h.cutState cur _ _

theorem Reaches.opened (h : plan.Reaches input s cur) : s.Opened plan := by
  refine h.induct (motive := fun s _ => s.Opened plan) (.start plan) ?_
  intro s t cur cur' _ hopened hstep
  have hstate : (plan.step s cur).state.Opened plan := opened_step hopened
  rwa [hstep] at hstate

end Plan

end DelimiterScan
