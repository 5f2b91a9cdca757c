import DelimiterScan.Proofs.Aligned
import DelimiterScan.Proofs.Indexed
import DelimiterScan.Proofs.Widths
import Mathlib.Data.List.Forall2

/-!
# Offsets and indices in place of texts and regions

An indexed state represents a state of the scan if its indices point to the regions that are open
there, and the rest is the same. At the offset of a cursor no slice faults, a step of less than
2 ^ 63 bytes does not overflow, and the operations on states keep to what they represent.
-/

namespace DelimiterScan

namespace Indexed

variable {options : Options} {m : State} {s : DelimiterScan.State} {cur : Cursor}
  {table : List Block} {rest : List Char}

/-! ## Slices and sums -/

theorem entry_eq_ok {α : Type} {table : List α} {i : Nat} {a : α} (h : table[i]? = some a) :
    entry table i = .ok a := by
  rw [entry, h]

theorem splitAt_append (xs ys : List Char) :
    splitAt (xs ++ ys) (Text.byteSize xs) = .ok (xs, ys) := by
  have htake : Text.takeBytes? (Text.byteSize xs) (xs ++ ys) = some xs :=
    Text.takeBytes?_eq_some_iff.mpr ⟨List.prefix_append xs ys, rfl⟩
  rw [splitAt, htake]
  simp

theorem splitAt_offset (cur : Cursor) :
    splitAt cur.text.toList cur.offset = .ok (cur.before.toList, cur.rest) := by
  have htext : cur.text.toList = cur.before.toList ++ cur.rest := by simp [Cursor.text]
  rw [htext, Cursor.offset, ← Text.byteSize_toList]
  exact splitAt_append _ _

theorem firstChar_cons (c : Char) (cs : List Char) : firstChar (c :: cs) = .ok c.toString := by
  have hsplit : splitAt (c :: cs) c.utf8Size = .ok ([c], cs) := splitAt_append [c] cs
  rw [firstChar]
  simp only [hsplit]
  rfl

theorem isSome_takeBytes? {text : String} {offset : Nat} :
    (Text.takeBytes? offset text.toList).isSome = true ↔ Text.IsBoundary text offset := by
  rw [Text.isBoundary_iff, Option.isSome_iff_exists]
  constructor
  · rintro ⟨before, htake⟩
    obtain ⟨⟨after, htext⟩, hsize⟩ := Text.takeBytes?_eq_some_iff.mp htake
    refine ⟨String.ofList before, String.ofList after, ?_, ?_⟩
    · rw [← String.ofList_append, htext, String.ofList_toList]
    · rw [Text.utf8ByteSize_ofList, hsize]
  · rintro ⟨before, after, rfl, rfl⟩
    refine ⟨before.toList, Text.takeBytes?_eq_some_iff.mpr ⟨?_, Text.byteSize_toList before⟩⟩
    simp

/-- The search finds the first boundary, if the fuel takes it there. -/
theorem boundaryFrom_eq_ok {text : String} {fuel offset e : Nat}
    (h : IsLeast {e | Text.IsBoundary text e ∧ offset ≤ e} e) (hfuel : e ≤ offset + fuel)
    (hsize : e < 2 ^ 64) : boundaryFrom text.toList fuel offset = .ok e := by
  obtain ⟨⟨hboundary, hle⟩, hleast⟩ := h
  induction fuel generalizing offset with
  | zero =>
    obtain rfl : e = offset := by omega
    rw [boundaryFrom, if_pos (isSome_takeBytes?.mpr hboundary)]
  | succ fuel ih =>
    by_cases hhere : Text.IsBoundary text offset
    · obtain rfl : e = offset := Nat.le_antisymm (hleast ⟨hhere, Nat.le_refl _⟩) hle
      rw [boundaryFrom, if_pos (isSome_takeBytes?.mpr hboundary)]
    · have hne : e ≠ offset := fun heq => hhere (heq ▸ hboundary)
      have hadd : add offset 1 = .ok (offset + 1) := if_pos (by omega)
      rw [boundaryFrom, if_neg (mt isSome_takeBytes?.mp hhere), hadd]
      refine ih (by omega) ?_ (by omega)
      rintro e' ⟨hboundary', hle'⟩
      exact hleast ⟨hboundary', by omega⟩

theorem advance_eq_ok {width : Nat} (hsize : cur.text.utf8ByteSize < 2 ^ 63)
    (hwidth : width < 2 ^ 63) :
    advance cur.text cur.offset width = .ok (cur.advance width).offset := by
  have hoffset := cur.isBoundary_offset.le
  have hleast := cur.isLeast_offset_advance width
  have hend := hleast.1.1.le
  have hadd : add cur.offset (max width 1) = .ok (cur.offset + max width 1) := if_pos (by omega)
  rw [advance, hadd]
  exact boundaryFrom_eq_ok hleast (by omega) (by omega)

theorem slice_passed (cur : Cursor) (width : Nat) :
    slice cur.text.toList cur.offset (cur.advance width).offset =
      .ok (cur.passed width).toList := by
  have hrest : cur.rest = (cur.passed width).toList ++ (cur.advance width).rest := by
    simp [Cursor.passed]
  have hwidth : (cur.advance width).offset - cur.offset =
      Text.byteSize (cur.passed width).toList := by
    rw [Cursor.offset_advance, Nat.add_sub_cancel_left, Text.byteSize_toList]
  rw [slice, if_neg (by rw [Cursor.offset_advance]; omega), splitAt_offset, hwidth]
  simp only [bind, Except.bind]
  rw [hrest, splitAt_append]
  rfl

/-! ## States -/

/-- The indices of the state point to what is open in the scan, and the rest is the same. -/
structure Represents (options : Options) (m : State) (s : DelimiterScan.State) : Prop where
  nesting : List.Forall₂ (fun i k => options.blocks[i]? = some k) m.nesting s.nesting
  openQuote : Option.Rel (fun i mark => options.quotes[i]? = some mark) m.openQuote s.openQuote
  openComment : Option.Rel (fun i k => options.comments[i]? = some k) m.openComment s.openComment
  maxDepth : m.maxDepth = s.maxDepth
  comments : m.comments = s.comments
  tokens : m.tokens = s.buffer.tokens.toList
  cuts : m.cuts = s.cuts
  cutsAt : m.cutsAt = s.cutsAt
  stop : m.stop = s.stop

theorem Represents.isEmpty_nesting (h : Represents options m s) :
    m.nesting.isEmpty = s.nesting.isEmpty := by
  have hlength := h.nesting.length_eq
  rw [Bool.eq_iff_iff, List.isEmpty_iff_length_eq_zero, List.isEmpty_iff_length_eq_zero, hlength]

theorem represents_start (options : Options) : Represents options {} {} :=
  ⟨.nil, .none, .none, rfl, rfl, rfl, rfl, rfl, rfl⟩

theorem exists_modifyToken (h : Represents options m s)
    (hsize : s.buffer.finished.size = s.cuts.size) (f : Token → Token) :
    ∃ m', m.modifyToken f = .ok m' ∧
      Represents options m' { s with buffer := s.buffer.modify f } := by
  have hlength : s.buffer.finished.toList.length = s.cuts.size := hsize
  -- The current token comes behind as many finished ones as there are cuts.
  have hgrown : m.tokens ++ List.replicate (m.cuts.size + 1 - m.tokens.length) ({} : Token) =
      s.buffer.finished.toList ++ [s.buffer.current.getD {}] := by
    rw [h.tokens, h.cuts, TokenBuffer.tokens]
    cases s.buffer.current with
    | none =>
      have hcount : s.cuts.size + 1 - s.buffer.finished.toList.length = 1 := by omega
      simp only [hcount, Option.getD_none]
      rfl
    | some token =>
      have hcount : s.cuts.size + 1 - (s.buffer.finished.push token).toList.length = 0 := by
        simp [hsize]
      simp only [hcount, Option.getD_some]
      simp
  have hentry : entry (s.buffer.finished.toList ++ [s.buffer.current.getD {}]) m.cuts.size =
      .ok (s.buffer.current.getD {}) := by
    apply entry_eq_ok
    rw [h.cuts, ← hlength]
    simp
  refine ⟨{ m with tokens := s.buffer.finished.toList ++ [f (s.buffer.current.getD {})] }, ?_, ?_⟩
  · rw [State.modifyToken]
    simp only [hgrown, hentry, bind, Except.bind, pure, Except.pure]
    rw [h.cuts, ← hlength]
    simp
  · exact ⟨h.nesting, h.openQuote, h.openComment, h.maxDepth, h.comments, by simp, h.cuts, h.cutsAt,
      h.stop⟩

theorem exists_addText (h : Represents options m s)
    (hsize : s.buffer.finished.size = s.cuts.size) (text : String) :
    ∃ m', m.addText text = .ok m' ∧ Represents options m' (s.addText text) :=
  exists_modifyToken h hsize _

theorem exists_ensureToken (h : Represents options m s)
    (hsize : s.buffer.finished.size = s.cuts.size) :
    ∃ m', m.ensureToken = .ok m' ∧ Represents options m' s.ensureToken :=
  exists_modifyToken h hsize id

theorem exists_beginComment (h : Represents options m s)
    (hsize : s.buffer.finished.size = s.cuts.size) :
    ∃ m', m.beginComment = .ok m' ∧ Represents options m' s.beginComment := by
  obtain ⟨m', hm', hrep⟩ := exists_modifyToken h hsize Token.beginComment
  refine ⟨{ m' with comments := m'.comments ++ [""] }, by rw [State.beginComment, hm']; rfl, ?_⟩
  refine ⟨hrep.nesting, hrep.openQuote, hrep.openComment, hrep.maxDepth, ?_, hrep.tokens, hrep.cuts,
    hrep.cutsAt, hrep.stop⟩
  rw [hrep.comments]
  rfl

theorem exists_addComment (h : Represents options m s)
    (hsize : s.buffer.finished.size = s.cuts.size) (text : String) :
    ∃ m', m.addComment text = .ok m' ∧ Represents options m' (s.addComment text) := by
  obtain ⟨m', hm', hrep⟩ := exists_modifyToken h hsize (·.addComment text)
  refine ⟨{ m' with comments := appendToLast m'.comments text },
    by rw [State.addComment, hm']; rfl, ?_⟩
  refine ⟨hrep.nesting, hrep.openQuote, hrep.openComment, hrep.maxDepth, ?_, hrep.tokens, hrep.cuts,
    hrep.cutsAt, hrep.stop⟩
  rw [hrep.comments]
  rfl

/-- A cut ends the current token; where there is none, it would leave one out. -/
theorem represents_cut (h : Represents options m s) (hbegun : s.buffer.current.isSome = true)
    (matched : Option String) : Represents options (m.cut matched) (s.cut matched) := by
  obtain ⟨token, htoken⟩ := Option.isSome_iff_exists.mp hbegun
  refine ⟨h.nesting, h.openQuote, h.openComment, h.maxDepth, h.comments, ?_, ?_, h.cutsAt, h.stop⟩
  · show m.tokens = (s.buffer.cut).tokens.toList
    rw [h.tokens, TokenBuffer.tokens_cut, TokenBuffer.tokens, htoken]
    rfl
  · show m.cuts.push matched = s.cuts.push matched
    rw [h.cuts]

/-! ## What stands at the cursor -/

def markerOf : Boundary Block → Boundary String
  | .none => .none
  | .opens k => .opens k.start
  | .closes k => .closes k.finish

@[simp] theorem isClosing_markerOf (b : Boundary Block) :
    (markerOf b).isClosing = b.isClosing := by
  cases b <;> rfl

@[simp] theorem quoteMark?_markerOf (b : Boundary Block) :
    (markerOf b).quoteMark? = b.marker? := by
  cases b <;> rfl

/-- The region that is open behind a boundary. -/
def openedBy (current : Option Block) : Boundary Block → Option Block
  | .none => current
  | .opens k => some k
  | .closes _ => none

theorem getElem?_of_eq_append {α : Type} {table before more : List α} {k : α}
    (h : table = before ++ k :: more) : table[before.length]? = some k := by
  rw [h]
  simp

/-- Where no region is open, the first one that stands here opens. -/
theorem regionFrom_none (before more : List Block) (htable : table = before ++ more) :
    ∃ opened, regionFrom table rest none before.length more =
        .ok (markerOf (Boundary.ofComments more none rest), opened) ∧
      Option.Rel (fun j k => table[j]? = some k) opened
        (openedBy none (Boundary.ofComments more none rest)) := by
  induction more generalizing before with
  | nil => exact ⟨none, rfl, .none⟩
  | cons k more ih =>
    by_cases hmark : Boundary.marked rest k.start = true
    · have hhere : Boundary.ofComments (k :: more) none rest = .opens k := by
        simp [Boundary.ofComments, hmark]
      rw [hhere, regionFrom]
      simp only [if_pos hmark]
      exact ⟨some before.length, rfl, .some (getElem?_of_eq_append htable)⟩
    · have hskip : Boundary.ofComments (k :: more) none rest =
          Boundary.ofComments more none rest := by
        simp [Boundary.ofComments, hmark]
      have hrest := ih (before ++ [k]) (by simp [htable])
      rw [List.length_append, List.length_singleton] at hrest
      rw [hskip, regionFrom]
      simp only [if_neg hmark]
      exact hrest

theorem marked_eq_true_iff {marker : String} :
    Boundary.marked rest marker = true ↔ marker ≠ "" ∧ Text.startsWith rest marker = true := by
  simp [Boundary.marked]

/-- An entry with another end marker, or with one that does not stand here, is passed over. -/
theorem regionFrom_skip {i j : Nat} {k k' : Block} (hj : table[j]? = some k) (more : List Block)
    (h : ¬ (k'.finish = k.finish ∧ Boundary.marked rest k.finish = true)) :
    regionFrom table rest (some j) i (k' :: more) =
      regionFrom table rest (some j) (i + 1) more := by
  rw [regionFrom]
  by_cases hempty : k'.finish = ""
  · simp only [if_pos hempty]
  · have hother : ¬ (k'.finish = k.finish ∧ Text.startsWith rest k'.finish = true) := by
      rintro ⟨hsame, hstarts⟩
      exact h ⟨hsame, marked_eq_true_iff.mpr (hsame ▸ ⟨hempty, hstarts⟩)⟩
    simp only [if_neg hempty, entry_eq_ok hj, bind, Except.bind, if_neg hother]

/-- An open region is closed by an entry with its end marker, if that stands here. -/
theorem regionFrom_some {j : Nat} {k : Block} (hj : table[j]? = some k) (i : Nat)
    (more : List Block) :
    regionFrom table rest (some j) i more =
      .ok (if k.finish ∈ more.map (·.finish) ∧ Boundary.marked rest k.finish = true then
        (.closes k.finish, none) else (.none, some j)) := by
  induction more generalizing i with
  | nil =>
    rw [if_neg (by simp)]
    rfl
  | cons k' more ih =>
    by_cases hhere : k'.finish = k.finish ∧ Boundary.marked rest k.finish = true
    · obtain ⟨hsame, hmark⟩ := hhere
      obtain ⟨hne, hstarts⟩ := marked_eq_true_iff.mp hmark
      have hcond : k'.finish = k.finish ∧ Text.startsWith rest k'.finish = true :=
        ⟨hsame, hsame ▸ hstarts⟩
      rw [if_pos ⟨by simp [hsame], hmark⟩, regionFrom]
      simp only [if_neg (hsame ▸ hne), entry_eq_ok hj, bind, Except.bind, if_pos hcond]
      rw [hsame]
      rfl
    · rw [regionFrom_skip hj more hhere, ih]
      have hiff : (k.finish ∈ (k' :: more).map (·.finish) ∧
          Boundary.marked rest k.finish = true) ↔
          (k.finish ∈ more.map (·.finish) ∧ Boundary.marked rest k.finish = true) := by
        rw [List.map_cons, List.mem_cons]
        constructor
        · rintro ⟨hsame | hmem, hmark⟩
          · exact absurd ⟨hsame.symm, hmark⟩ hhere
          · exact ⟨hmem, hmark⟩
        · rintro ⟨hmem, hmark⟩
          exact ⟨.inr hmem, hmark⟩
      simp only [hiff]

/-- The search through a table comes to the boundary of comments for that table. -/
theorem exists_regionFrom (rest : List Char) {opened : Option Nat} {current : Option Block}
    (h : Option.Rel (fun i k => table[i]? = some k) opened current) :
    ∃ opened', regionFrom table rest opened 0 table =
        .ok (markerOf (Boundary.ofComments table current rest), opened') ∧
      Option.Rel (fun i k => table[i]? = some k) opened'
        (openedBy current (Boundary.ofComments table current rest)) := by
  cases h with
  | none => exact regionFrom_none [] table rfl
  | @some j k hj =>
    have hmem : k.finish ∈ table.map (·.finish) :=
      List.mem_map_of_mem (List.mem_of_getElem? hj)
    rw [regionFrom_some hj, Boundary.ofComments]
    by_cases hmark : Boundary.marked rest k.finish = true
    · rw [if_pos ⟨hmem, hmark⟩, if_pos hmark]
      exact ⟨none, rfl, .none⟩
    · rw [if_neg fun hboth => hmark hboth.2, if_neg hmark]
      exact ⟨some j, rfl, .some hj⟩

/-- The boundary of a quotation as one of the region that its mark stands for. -/
def regionOf : Boundary String → Boundary Block
  | .none => .none
  | .opens mark => .opens (quoteRegion mark)
  | .closes mark => .closes (quoteRegion mark)

@[simp] theorem markerOf_regionOf (b : Boundary String) : markerOf (regionOf b) = b := by
  cases b <;> rfl

theorem openedBy_regionOf (s : DelimiterScan.State) (b : Boundary String) :
    openedBy (s.openQuote.map quoteRegion) (regionOf b) =
      (s.atQuote b).openQuote.map quoteRegion := by
  cases b <;> rfl

theorem openedBy_atComment (s : DelimiterScan.State) (b : Boundary Block) :
    openedBy s.openComment b = (s.atComment b).openComment := by
  cases b <;> rfl

theorem ofComments_quoteRegion (quotes : List String) (current : Option String)
    (rest : List Char) :
    Boundary.ofComments (quotes.map quoteRegion) (current.map quoteRegion) rest =
      regionOf (Boundary.ofQuotes quotes current rest) := by
  cases current with
  | none =>
    simp only [Boundary.ofComments, Boundary.ofQuotes, Option.map_none, List.find?_map]
    have hfind : quotes.find? ((fun k => Boundary.marked rest k.start) ∘ quoteRegion) =
        quotes.find? (Boundary.marked rest) := rfl
    rw [hfind]
    cases quotes.find? (Boundary.marked rest) <;> rfl
  | some mark =>
    simp only [Boundary.ofComments, Boundary.ofQuotes, Option.map_some]
    have hfinish : (quoteRegion mark).finish = mark := rfl
    rw [hfinish]
    split <;> rfl

theorem rel_quoteRegion {quotes : List String} {opened : Option Nat} {current : Option String} :
    Option.Rel (fun i k => (quotes.map quoteRegion)[i]? = some k) opened
        (current.map quoteRegion) ↔
      Option.Rel (fun i mark => quotes[i]? = some mark) opened current := by
  cases opened <;> cases current <;> constructor <;> intro h <;> cases h
  · exact .none
  · exact .none
  · next i mark h =>
    obtain ⟨mark', hmark', hregion⟩ : ∃ mark', quotes[i]? = some mark' ∧
        quoteRegion mark' = quoteRegion mark := by
      simpa [List.getElem?_map] using h
    obtain rfl : mark' = mark := congrArg Block.start hregion
    exact .some hmark'
  · next i mark h =>
    refine .some ?_
    rw [List.getElem?_map, h]
    rfl

theorem isNone_eq_of_rel {α β : Type} {r : α → β → Prop} {a : Option α} {b : Option β}
    (h : Option.Rel r a b) : a.isNone = b.isNone := by
  cases h <;> rfl

theorem isSome_eq_of_rel {α β : Type} {r : α → β → Prop} {a : Option α} {b : Option β}
    (h : Option.Rel r a b) : a.isSome = b.isSome := by
  cases h <;> rfl

theorem represents_atQuote (h : Represents options m s) {b : Boundary String} {opened : Option Nat}
    (hopened : Option.Rel (fun i mark => options.quotes[i]? = some mark) opened
      (s.atQuote b).openQuote) :
    Represents options { m with openQuote := opened } (s.atQuote b) := by
  cases b <;> exact ⟨h.nesting, hopened, h.openComment, h.maxDepth, h.comments, h.tokens, h.cuts,
    h.cutsAt, h.stop⟩

theorem represents_atComment (h : Represents options m s) {b : Boundary Block}
    {opened : Option Nat}
    (hopened : Option.Rel (fun i k => options.comments[i]? = some k) opened
      (s.atComment b).openComment) :
    Represents options { m with openComment := opened } (s.atComment b) := by
  cases b <;> exact ⟨h.nesting, h.openQuote, hopened, h.maxDepth, h.comments, h.tokens, h.cuts,
    h.cutsAt, h.stop⟩

theorem exists_quoteAt {plan : Plan} (h : Represents plan.options m s) (cur : Cursor) :
    ∃ opened, quoteAt plan m cur.rest = .ok (plan.quoteAt s cur, opened) ∧
      Represents plan.options { m with openQuote := opened } (s.atQuote (plan.quoteAt s cur)) := by
  unfold quoteAt Plan.quoteAt
  rw [isNone_eq_of_rel h.openComment]
  split
  · obtain ⟨opened, hsearch, hrel⟩ :=
      exists_regionFrom cur.rest (rel_quoteRegion.mpr h.openQuote)
    rw [ofComments_quoteRegion] at hsearch hrel
    rw [openedBy_regionOf, rel_quoteRegion] at hrel
    rw [markerOf_regionOf] at hsearch
    exact ⟨opened, hsearch, represents_atQuote h hrel⟩
  · exact ⟨m.openQuote, rfl, represents_atQuote h h.openQuote⟩

theorem exists_commentAt {plan : Plan} (h : Represents plan.options m s) (cur : Cursor) :
    ∃ opened, commentAt plan m cur.rest = .ok (markerOf (plan.commentAt s cur), opened) ∧
      Represents plan.options { m with openComment := opened }
        (s.atComment (plan.commentAt s cur)) := by
  unfold commentAt Plan.commentAt
  rw [isNone_eq_of_rel h.openQuote]
  split
  · obtain ⟨opened, hsearch, hrel⟩ := exists_regionFrom cur.rest h.openComment
    rw [openedBy_atComment] at hrel
    exact ⟨opened, hsearch, represents_atComment h hrel⟩
  · exact ⟨m.openComment, rfl, represents_atComment h h.openComment⟩

/-! ### Blocks -/

variable {nesting : List Nat} {blocks : List Block}

def nestedBy (blocks : List Block) : Boundary Block → List Block
  | .none => blocks
  | .opens k => k :: blocks
  | .closes _ => blocks.tail

/-- An entry that does nothing here is passed over. -/
theorem blockFrom_skip (h : List.Forall₂ (fun i k => table[i]? = some k) nesting blocks) {k : Block}
    (hk : Boundary.ofBlock? blocks rest k = none) (i : Nat) (more : List Block) :
    blockFrom table rest nesting i (k :: more) = blockFrom table rest nesting (i + 1) more := by
  unfold Boundary.ofBlock? at hk
  have hstart : ¬ Boundary.marked rest k.start = true := by
    intro hmark
    rw [if_pos hmark] at hk
    cases hk
  rw [if_neg hstart] at hk
  cases h with
  | nil => simp only [blockFrom, if_neg hstart]
  | @cons top innermost outer _ htop _ =>
    by_cases hempty : k.finish = ""
    · simp only [blockFrom, if_neg hstart, if_pos hempty]
    · have hother : ¬ (k.finish = innermost.finish ∧ Text.startsWith rest k.finish = true) := by
        rintro ⟨hsame, hstarts⟩
        have hmark : Boundary.marked rest k.finish = true :=
          marked_eq_true_iff.mpr ⟨hempty, hstarts⟩
        simp only [if_pos (And.intro hsame hmark)] at hk
        cases hk
      simp only [blockFrom, if_neg hstart, if_neg hempty, entry_eq_ok htop, bind, Except.bind,
        if_neg hother]

/-- An entry that does something here decides. -/
theorem exists_blockFrom_cons (h : List.Forall₂ (fun i k => table[i]? = some k) nesting blocks)
    {i : Nat} {k : Block} (hi : table[i]? = some k) {b : Boundary Block}
    (hk : Boundary.ofBlock? blocks rest k = some b) (more : List Block) :
    ∃ nesting', blockFrom table rest nesting i (k :: more) = .ok (markerOf b, nesting') ∧
      List.Forall₂ (fun i k => table[i]? = some k) nesting' (nestedBy blocks b) := by
  unfold Boundary.ofBlock? at hk
  by_cases hstart : Boundary.marked rest k.start = true
  · rw [if_pos hstart] at hk
    cases hk
    refine ⟨i :: nesting, ?_, .cons hi h⟩
    cases h <;> simp only [blockFrom, if_pos hstart] <;> rfl
  · rw [if_neg hstart] at hk
    cases h with
    | nil => cases hk
    | @cons top innermost outer blocks htop houter =>
      by_cases hclose : k.finish = innermost.finish ∧ Boundary.marked rest k.finish = true
      · simp only [if_pos hclose] at hk
        cases hk
        obtain ⟨hne, hstarts⟩ := marked_eq_true_iff.mp hclose.2
        refine ⟨outer, ?_, houter⟩
        simp only [blockFrom, if_neg hstart, if_neg hne, entry_eq_ok htop, bind, Except.bind,
          if_pos (And.intro hclose.1 hstarts)]
        rw [hclose.1]
        rfl
      · simp only [if_neg hclose] at hk
        cases hk

/-- The first entry that does something opens itself, or closes the innermost block. -/
theorem exists_blockFrom (rest : List Char)
    (h : List.Forall₂ (fun i k => table[i]? = some k) nesting blocks)
    (before more : List Block) (htable : table = before ++ more) :
    ∃ nesting', blockFrom table rest nesting before.length more =
        .ok (markerOf (Boundary.ofBlocks more blocks rest), nesting') ∧
      List.Forall₂ (fun i k => table[i]? = some k) nesting'
        (nestedBy blocks (Boundary.ofBlocks more blocks rest)) := by
  induction more generalizing before with
  | nil => exact ⟨nesting, rfl, h⟩
  | cons k more ih =>
    cases hk : Boundary.ofBlock? blocks rest k with
    | none =>
      have hskip : Boundary.ofBlocks (k :: more) blocks rest =
          Boundary.ofBlocks more blocks rest := by
        simp [Boundary.ofBlocks, hk]
      have hrest := ih (before ++ [k]) (by simp [htable])
      rw [List.length_append, List.length_singleton] at hrest
      rw [hskip, blockFrom_skip h hk]
      exact hrest
    | some b =>
      have hhere : Boundary.ofBlocks (k :: more) blocks rest = b := by
        simp [Boundary.ofBlocks, hk]
      rw [hhere]
      exact exists_blockFrom_cons h (getElem?_of_eq_append htable) hk more

theorem represents_atBlock (h : Represents options m s) (haligned : s.Aligned) {b : Boundary Block}
    {nesting : List Nat}
    (hnesting : List.Forall₂ (fun i k => options.blocks[i]? = some k) nesting
      (nestedBy s.nesting b)) :
    Represents options { m with nesting := nesting, maxDepth := max m.maxDepth nesting.length }
      (s.atBlock b) := by
  have hlength := hnesting.length_eq
  have hdepth := haligned.depth
  have hmax : max m.maxDepth nesting.length = (s.atBlock b).maxDepth := by
    rw [hlength, h.maxDepth]
    cases b with
    | none => exact Nat.max_eq_left hdepth
    | opens k => rfl
    | closes k =>
      refine Nat.max_eq_left ?_
      rw [nestedBy, List.length_tail]
      omega
  cases b <;> exact ⟨hnesting, h.openQuote, h.openComment, hmax, h.comments, h.tokens, h.cuts,
    h.cutsAt, h.stop⟩

theorem exists_blockAt {plan : Plan} (h : Represents plan.options m s) (haligned : s.Aligned)
    (cur : Cursor) :
    ∃ nesting, blockFrom plan.options.blocks cur.rest m.nesting 0 plan.options.blocks =
        .ok (markerOf (plan.blockAt s cur), nesting) ∧
      Represents plan.options
        { m with nesting := nesting, maxDepth := max m.maxDepth nesting.length }
        (s.atBlock (plan.blockAt s cur)) := by
  obtain ⟨nesting, hsearch, hrel⟩ :=
    exists_blockFrom cur.rest h.nesting [] plan.options.blocks rfl
  exact ⟨nesting, hsearch, represents_atBlock h haligned hrel⟩

/-! ### Delimiters -/

theorem matchAt_eq_ok (d : Delimiter) (cur : Cursor) (buffer : TokenBuffer)
    (caseInsensitive : Bool) :
    matchAt d cur.text cur.offset buffer.tokens.toList caseInsensitive =
      .ok (d.match? cur buffer caseInsensitive) := by
  rw [matchAt, splitAt_offset]
  cases d with
  | literal text => rfl
  | pattern p => rfl
  | predicate p =>
    simp only [bind, Except.bind, pure, Except.pure, Delimiter.match?, String.ofList_toList]

theorem firstMatchAt_eq_ok (cur : Cursor) (buffer : TokenBuffer) (caseInsensitive : Bool)
    (ds : List Delimiter) :
    firstMatchAt cur.text cur.offset buffer.tokens.toList caseInsensitive ds =
      .ok (Delimiter.firstMatch? ds cur buffer caseInsensitive) := by
  induction ds with
  | nil => rfl
  | cons d ds ih =>
    rw [firstMatchAt, matchAt_eq_ok, Delimiter.firstMatch?, List.findSome?_cons]
    cases d.match? cur buffer caseInsensitive with
    | some matched => rfl
    | none => exact ih

end Indexed

end DelimiterScan
