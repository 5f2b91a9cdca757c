import DelimiterScan.Options
import DelimiterScan.Scan.State

/-!
# Steps of a scan

A step looks at the text ahead and passes at least one character of it. It asks in this order:

1. for a quotation, unless a comment is open, and for a comment, unless a quotation is open;
2. in a comment, the text goes to the comment, or to the token inside blocks;
3. in a quotation, the text goes to the token;
4. once there are as many cuts as allowed, the text goes to the token;
5. for a block, then outside of blocks for a stop;
6. without delimiters, for a cut at a block; outside of blocks, for a delimiter.
-/

namespace DelimiterScan

inductive Outcome where
  /-- The scan goes on. -/
  | advanced (state : State) (cursor : Cursor)
  /-- The scan is over. -/
  | finished (state : State)

namespace Outcome

def state : Outcome → State
  | advanced s _ => s
  | finished s => s

/-- Writes `text` to the token and passes as many bytes. -/
def plain (s : State) (cur : Cursor) (text : String) : Outcome :=
  .advanced (s.addText text) (cur.advance text.utf8ByteSize)

end Outcome

namespace Plan

/-- In a comment, or behind its end. Inside blocks a comment is text like any other; outside, its
markers are left out. -/
def inComment (s : State) (cur : Cursor) (comment : Boundary Block) (c : String) : Outcome :=
  let text := comment.marker?.getD c
  if s.nesting.isEmpty then
    let s :=
      match comment with
      | .opens _ => s.beginComment
      | .closes _ => s
      | .none => s.addComment c
    .advanced s (cur.advance text.utf8ByteSize)
  else .plain s cur text

/-- Without delimiters: a cut before a block that opens inside another one that is not inside any
itself, and behind a block that is not inside another one. -/
def atBlockEdge (s : State) (cur : Cursor) (block : Boundary Block) (c : String) : Outcome :=
  let text := block.marker?.getD c
  match block with
  | .opens _ => .plain (if s.depth = 2 then s.cut none else s) cur text
  | .closes _ =>
    let s := s.addText text
    .advanced (if s.depth = 0 then s.cut none else s) (cur.advance text.utf8ByteSize)
  | .none => .plain s cur text

/-- Outside of blocks: a cut at the first delimiter that matches. An empty match is as wide as a
character. At the end of the text an empty token follows. -/
def atDelimiter (plan : Plan) (s : State) (cur : Cursor) (c : String) : Outcome :=
  let s := s.ensureToken
  match Delimiter.firstMatch? plan.delims cur s.buffer plan.options.caseInsensitive with
  | none => .plain s cur c
  | some matched =>
    let width := if matched = "" then c.utf8ByteSize else matched.utf8ByteSize
    let next := cur.advance width
    let s := s.noteMatch cur.offset matched
    if plan.options.preserveDelimiters then
      .advanced ((s.addText (cur.passed width)).cut (some matched)) next
    else
      let s := s.cut (some matched)
      .advanced (if next.rest.isEmpty then s.ensureToken else s) next

/-- The match of a stop, which is looked for outside of blocks. -/
def stop? (plan : Plan) (s : State) (cur : Cursor) : Option String :=
  if s.nesting.isEmpty then
    Delimiter.firstMatch? plan.stops cur s.buffer plan.options.caseInsensitive
  else none

/-- Outside of comments and quotations, with cuts left. -/
def inText (plan : Plan) (s : State) (cur : Cursor) (c : String) : Outcome :=
  let block := Boundary.ofBlocks plan.options.blocks s.nesting cur.rest
  let s := s.atBlock block
  match plan.stop? s cur with
  | some matched =>
    .finished { s with stop := some ⟨matched, cur.offset, String.ofList cur.rest⟩ }
  | none =>
    if plan.delims.isEmpty then atBlockEdge s cur block c
    else if s.nesting.isEmpty && !block.isClosing then plan.atDelimiter s cur c
    else .plain s cur (block.marker?.getD c)

/-- What happens to quotations here: nothing inside a comment. -/
def quoteAt (plan : Plan) (s : State) (cur : Cursor) : Boundary String :=
  if s.openComment.isNone then Boundary.ofQuotes plan.options.quotes s.openQuote cur.rest
  else .none

/-- What happens to comments here: nothing inside a quotation. -/
def commentAt (plan : Plan) (s : State) (cur : Cursor) : Boundary Block :=
  if s.openQuote.isNone then Boundary.ofComments plan.options.comments s.openComment cur.rest
  else .none

/-- Goes on once it is known which quotation and which comment begins or ends here. -/
def proceed (plan : Plan) (s : State) (cur : Cursor) (quote : Boundary String)
    (comment : Boundary Block) (c : String) : Outcome :=
  if s.openComment.isSome || comment.isClosing then inComment s cur comment c
  else if s.openQuote.isSome || quote.isClosing then .plain s cur (quote.quoteMark?.getD c)
  else if plan.options.limit = some s.cuts.size then .plain s cur c
  else plan.inText s cur c

def step (plan : Plan) (s : State) (cur : Cursor) : Outcome :=
  match cur.rest with
  | [] => .finished s
  | c :: _ =>
    let quote := plan.quoteAt s cur
    let s := s.atQuote quote
    let comment := plan.commentAt s cur
    plan.proceed (s.atComment comment) cur quote comment c.toString

/-! ## Every step moves on -/

theorem inComment_advances {s s' : State} {cur cur' : Cursor} {comment : Boundary Block}
    {c : String} (h : inComment s cur comment c = .advanced s' cur') :
    ∃ width, cur' = cur.advance width := by
  unfold inComment at h
  dsimp only [Outcome.plain] at h
  split at h <;> cases h <;> exact ⟨_, rfl⟩

theorem atBlockEdge_advances {s s' : State} {cur cur' : Cursor} {block : Boundary Block}
    {c : String} (h : atBlockEdge s cur block c = .advanced s' cur') :
    ∃ width, cur' = cur.advance width := by
  cases block <;> cases h <;> exact ⟨_, rfl⟩

theorem atDelimiter_advances {plan : Plan} {s s' : State} {cur cur' : Cursor} {c : String}
    (h : plan.atDelimiter s cur c = .advanced s' cur') : ∃ width, cur' = cur.advance width := by
  unfold atDelimiter at h
  dsimp only [Outcome.plain] at h
  split at h
  · cases h
    exact ⟨_, rfl⟩
  · split at h <;> cases h <;> exact ⟨_, rfl⟩

theorem inText_advances {plan : Plan} {s s' : State} {cur cur' : Cursor} {c : String}
    (h : plan.inText s cur c = .advanced s' cur') : ∃ width, cur' = cur.advance width := by
  unfold inText at h
  dsimp only at h
  split at h
  · cases h
  · split at h
    · exact atBlockEdge_advances h
    · split at h
      · exact atDelimiter_advances h
      · cases h
        exact ⟨_, rfl⟩

theorem proceed_advances {plan : Plan} {s s' : State} {cur cur' : Cursor}
    {quote : Boundary String} {comment : Boundary Block} {c : String}
    (h : plan.proceed s cur quote comment c = .advanced s' cur') :
    ∃ width, cur' = cur.advance width := by
  unfold proceed at h
  split at h
  · exact inComment_advances h
  · split at h
    · cases h
      exact ⟨_, rfl⟩
    · split at h
      · cases h
        exact ⟨_, rfl⟩
      · exact inText_advances h

theorem length_rest_of_step {plan : Plan} {s s' : State} {cur cur' : Cursor}
    (h : plan.step s cur = .advanced s' cur') : cur'.rest.length < cur.rest.length := by
  unfold step at h
  split at h
  · cases h
  · rename_i hrest
    obtain ⟨width, rfl⟩ := proceed_advances h
    exact Cursor.length_rest_advance_lt width (by simp [hrest])

end Plan

end DelimiterScan
