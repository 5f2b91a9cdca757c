import DelimiterScan.Proofs.Regions

/-!
# Spans

A scan passes its input piece by piece. A span is one piece, with what becomes of it: text of a
token, what a cut passes, a marker of a comment, or the body of one. Here is what a list of spans
says: the text that it covers, where its cuts are, and the tokens and comments that are gathered
from it. The spans of a scan follow the grammar `Laid`.
-/

namespace DelimiterScan

inductive SpanKind where
  /-- Goes to a token. -/
  | text
  /-- Is passed by a cut at a delimiter. -/
  | split
  /-- Begins a comment. -/
  | opening
  /-- Ends a comment. -/
  | closing
  /-- Goes to a comment. -/
  | body
  deriving DecidableEq, Repr

structure Span where
  kind : SpanKind
  text : String
  deriving DecidableEq, Repr

namespace Span

variable {x : Span} {xs : List Span}

/-- The text that spans cover, one behind the other. -/
def cover (xs : List Span) : String := String.join (xs.map text)

/-- The cuts with their offsets, for spans that begin at `offset`. -/
def splitsAt (offset : Nat) : List Span → List (Nat × String)
  | [] => []
  | x :: xs =>
    if x.kind = .split then (offset, x.text) :: splitsAt (offset + x.text.utf8ByteSize) xs
    else splitsAt (offset + x.text.utf8ByteSize) xs

theorem cover_cons (x : Span) (xs : List Span) : cover (x :: xs) = x.text ++ cover xs := by
  simp [cover, String.join_cons]

theorem cover_concat (xs : List Span) (x : Span) : cover (xs ++ [x]) = cover xs ++ x.text := by
  simp [cover]

theorem splitsAt_concat (offset : Nat) (xs : List Span) (x : Span) :
    splitsAt offset (xs ++ [x]) = splitsAt offset xs ++
      if x.kind = .split then [(offset + (cover xs).utf8ByteSize, x.text)] else [] := by
  induction xs generalizing offset with
  | nil => simp [splitsAt, cover]
  | cons y ys ih =>
    have hoffset : offset + y.text.utf8ByteSize + (cover ys).utf8ByteSize =
        offset + (cover (y :: ys)).utf8ByteSize := by
      simp [cover, String.join_cons, Nat.add_assoc]
    rw [List.cons_append, splitsAt, splitsAt, ih, hoffset]
    split <;> simp

/-! ## What is gathered from spans -/

/-- How a span takes part in what is gathered. -/
inductive Role where
  /-- Adds its text to the current piece. -/
  | part
  /-- Ends the current piece, and is no part of any. -/
  | gap
  /-- Adds its text to the current piece and ends it. -/
  | last
  /-- Is left out. -/
  | aside
  deriving DecidableEq, Repr

/-- The pieces that spans make up, joined from the texts between the gaps. -/
def gather (role : SpanKind → Role) : List Span → List String
  | [] => [""]
  | x :: xs =>
    match role x.kind with
    | .part => (gather role xs).modifyHead (x.text ++ ·)
    | .gap => "" :: gather role xs
    | .last => x.text :: gather role xs
    | .aside => gather role xs

/-- The pieces with a span behind them. -/
def Role.add (pieces : List String) (text : String) : Role → List String
  | .part => appendToLast pieces text
  | .gap => pieces ++ [""]
  | .last => appendToLast pieces text ++ [""]
  | .aside => pieces

theorem gather_ne_nil (role : SpanKind → Role) (xs : List Span) : gather role xs ≠ [] := by
  induction xs with
  | nil => exact List.cons_ne_nil _ _
  | cons x xs ih =>
    unfold gather
    split
    · simpa using ih
    · exact List.cons_ne_nil _ _
    · exact List.cons_ne_nil _ _
    · exact ih

theorem add_modifyHead {pieces : List String} (h : pieces ≠ []) (front text : String) (r : Role) :
    r.add (pieces.modifyHead (front ++ ·)) text = (r.add pieces text).modifyHead (front ++ ·) := by
  obtain ⟨piece, pieces, rfl⟩ := List.exists_cons_of_ne_nil h
  cases pieces <;> cases r <;> simp [Role.add, appendToLast, String.append_assoc]

theorem add_cons {pieces : List String} (h : pieces ≠ []) (piece text : String) (r : Role) :
    r.add (piece :: pieces) text = piece :: r.add pieces text := by
  obtain ⟨next, pieces, rfl⟩ := List.exists_cons_of_ne_nil h
  cases r <;> rfl

theorem gather_concat (role : SpanKind → Role) (xs : List Span) (x : Span) :
    gather role (xs ++ [x]) = (role x.kind).add (gather role xs) x.text := by
  induction xs with
  | nil =>
    cases hrole : role x.kind <;> simp [Role.add, appendToLast, gather, hrole]
  | cons y ys ih =>
    have hne := gather_ne_nil role ys
    rw [List.cons_append, gather, gather, ih]
    cases role y.kind with
    | part => exact (add_modifyHead hne _ _ _).symm
    | gap => exact (add_cons hne _ _ _).symm
    | last => exact (add_cons hne _ _ _).symm
    | aside => rfl

/-- Tokens end at cuts. Where delimiters are kept, a cut adds its text to the token before it. -/
def tokenRole (preserve : Bool) : SpanKind → Role
  | .text => .part
  | .split => if preserve then .last else .gap
  | _ => .aside

/-- Comments begin at opening markers and consist of what follows. -/
def commentRole : SpanKind → Role
  | .opening => .gap
  | .body => .part
  | _ => .aside

def tokenTexts (preserve : Bool) (xs : List Span) : List String := gather (tokenRole preserve) xs

def commentTexts (xs : List Span) : List String := (gather commentRole xs).tail

/-- All text of tokens, with the cuts left out. -/
def plainText (xs : List Span) : String := cover (xs.filter (·.kind = .text))

theorem tokenTexts_concat (preserve : Bool) (xs : List Span) (x : Span) :
    tokenTexts preserve (xs ++ [x]) =
      (tokenRole preserve x.kind).add (tokenTexts preserve xs) x.text :=
  gather_concat _ _ _

theorem commentTexts_concat (xs : List Span) (x : Span) :
    commentTexts (xs ++ [x]) = ((commentRole x.kind).add (gather commentRole xs) x.text).tail :=
  congrArg List.tail (gather_concat _ _ _)

theorem plainText_concat (xs : List Span) (x : Span) :
    plainText (xs ++ [x]) = plainText xs ++ if x.kind = .text then x.text else "" := by
  unfold plainText
  split
  · next hkind => simp [hkind, cover]
  · next hkind => simp [hkind, cover]

/-! ## The grammar of spans -/

/-- The spans of a scan: outside of comments text and cuts; a comment is an opening marker of the
table, then its body, then the closing marker of the same comment, unless the scan ends before.
The index is the comment that is open at the end. -/
inductive Laid (comments : List Block) : List Span → Option Block → Prop
  | nil : Laid comments [] none
  | text {xs : List Span} {t : String} (h : Laid comments xs none) (ht : t ≠ "") :
      Laid comments (xs ++ [⟨.text, t⟩]) none
  | split {xs : List Span} {t : String} (h : Laid comments xs none) (ht : t ≠ "") :
      Laid comments (xs ++ [⟨.split, t⟩]) none
  | opening {xs : List Span} {k : Block} (h : Laid comments xs none) (hk : k ∈ comments)
      (ht : k.start ≠ "") : Laid comments (xs ++ [⟨.opening, k.start⟩]) (some k)
  | body {xs : List Span} {k : Block} {t : String} (h : Laid comments xs (some k)) (ht : t ≠ "") :
      Laid comments (xs ++ [⟨.body, t⟩]) (some k)
  | closing {xs : List Span} {k : Block} (h : Laid comments xs (some k)) (ht : k.finish ≠ "") :
      Laid comments (xs ++ [⟨.closing, k.finish⟩]) none

namespace Laid

variable {comments : List Block} {opened : Option Block}

theorem text_ne_empty (h : Laid comments xs opened) (hx : x ∈ xs) : x.text ≠ "" := by
  induction h with
  | nil => cases hx
  | text _ ht ih | split _ ht ih | opening _ _ ht ih | body _ ht ih | closing _ ht ih =>
    rcases List.mem_append.mp hx with hx | hx
    · exact ih hx
    · rw [List.mem_singleton.mp hx]
      exact ht

/-- With an empty table nothing opens. -/
theorem kind_ne_opening (h : Laid comments xs opened) (hcomments : comments = []) :
    opened = none ∧ ∀ x ∈ xs, x.kind ≠ .opening := by
  induction h with
  | nil => exact ⟨rfl, nofun⟩
  | text _ _ ih | split _ _ ih =>
    refine ⟨rfl, fun x hx => ?_⟩
    rcases List.mem_append.mp hx with hx | hx
    · exact ih.2 x hx
    · rw [List.mem_singleton.mp hx]
      exact nofun
  | opening _ hk => exact absurd hk (hcomments ▸ List.not_mem_nil)
  | body _ _ ih | closing _ _ ih => exact absurd ih.1 (Option.some_ne_none _)

/-- Nothing of a comment comes before the first opening marker. -/
theorem of_no_opening (h : Laid comments xs opened) (hno : ∀ x ∈ xs, x.kind ≠ .opening) :
    opened = none ∧ ∀ x ∈ xs, x.kind = .text ∨ x.kind = .split := by
  induction h with
  | nil => exact ⟨rfl, nofun⟩
  | text _ _ ih | split _ _ ih =>
    obtain ⟨-, hall⟩ := ih fun x hx => hno x (List.mem_append_left _ hx)
    refine ⟨rfl, fun x hx => ?_⟩
    rcases List.mem_append.mp hx with hx | hx
    · exact hall x hx
    · simp [List.mem_singleton.mp hx]
  | opening => exact absurd rfl (hno _ (List.mem_append_right _ (List.mem_singleton.mpr rfl)))
  | body _ _ ih | closing _ _ ih =>
    obtain ⟨hnone, -⟩ := ih fun x hx => hno x (List.mem_append_left _ hx)
    cases hnone

theorem exists_opening {k : Block} (h : Laid comments xs (some k)) :
    ∃ x ∈ xs, x.kind = .opening := by
  by_contra hno
  have hnone := (h.of_no_opening fun x hx hkind => hno ⟨x, hx, hkind⟩).1
  cases hnone

end Laid

theorem length_commentTexts (xs : List Span) :
    (commentTexts xs).length = xs.countP (·.kind = .opening) := by
  have hlen : (gather commentRole xs).length = xs.countP (·.kind = .opening) + 1 := by
    induction xs with
    | nil => rfl
    | cons x xs ih =>
      rw [gather, List.countP_cons]
      cases hkind : x.kind <;> simp [commentRole, ih]
  rw [commentTexts, List.length_tail, hlen, Nat.add_sub_cancel]

theorem commentTexts_eq_nil_iff : commentTexts xs = [] ↔ ∀ x ∈ xs, x.kind ≠ .opening := by
  rw [← List.length_eq_zero_iff, length_commentTexts, List.countP_eq_zero]
  simp

theorem Laid.commentTexts_ne_nil {comments : List Block} {k : Block}
    (h : Laid comments xs (some k)) : commentTexts xs ≠ [] := by
  obtain ⟨x, hx, hkind⟩ := h.exists_opening
  exact fun hnil => commentTexts_eq_nil_iff.mp hnil x hx hkind

theorem tail_appendToLast {pieces : List String} (h : pieces.tail ≠ []) (text : String) :
    (appendToLast pieces text).tail = appendToLast pieces.tail text := by
  match pieces with
  | [] => exact absurd rfl h
  | [_] => exact absurd rfl h
  | _ :: _ :: _ => rfl

/-! ## Rebuilding the text -/

/-- The texts of two lists in turns, beginning with the first list. -/
def interleave : List String → List String → String
  | [], _ => ""
  | t :: ts, [] => t ++ interleave ts []
  | t :: ts, u :: us => t ++ u ++ interleave ts us

theorem interleave_modifyHead {ts : List String} (h : ts ≠ []) (front : String) (us : List String) :
    interleave (ts.modifyHead (front ++ ·)) us = front ++ interleave ts us := by
  obtain ⟨t, ts, rfl⟩ := List.exists_cons_of_ne_nil h
  cases us <;> simp [interleave, String.append_assoc]

/-- Without comments, tokens and cuts in turns are the text that the spans cover. -/
theorem interleave_tokenTexts (offset : Nat) (h : ∀ x ∈ xs, x.kind = .text ∨ x.kind = .split) :
    interleave (tokenTexts false xs) ((splitsAt offset xs).map (·.2)) = cover xs := by
  induction xs generalizing offset with
  | nil => rfl
  | cons x xs ih =>
    have hrest := ih (offset + x.text.utf8ByteSize) fun y hy => h y (List.mem_cons_of_mem x hy)
    rw [tokenTexts] at hrest
    rw [cover_cons, ← hrest, tokenTexts, gather, splitsAt]
    rcases h x List.mem_cons_self with hkind | hkind
    · simp only [hkind, tokenRole, reduceCtorEq, if_false]
      exact interleave_modifyHead (gather_ne_nil _ _) _ _
    · simp only [hkind, tokenRole, Bool.false_eq_true, if_false, if_true, List.map_cons]
      rw [interleave, String.empty_append]

/-- Without comments, tokens that keep the cuts are the text that the spans cover. -/
theorem join_tokenTexts (h : ∀ x ∈ xs, x.kind = .text ∨ x.kind = .split) :
    String.join (tokenTexts true xs) = cover xs := by
  induction xs with
  | nil => rfl
  | cons x xs ih =>
    have hrest := ih fun y hy => h y (List.mem_cons_of_mem x hy)
    rw [cover_cons, ← hrest, tokenTexts, gather]
    rcases h x List.mem_cons_self with hkind | hkind
    · obtain ⟨t, ts, hts⟩ := List.exists_cons_of_ne_nil (gather_ne_nil (tokenRole true) xs)
      simp [hkind, tokenRole, tokenTexts, hts, String.join_cons, String.append_assoc]
    · simp [hkind, tokenRole, tokenTexts, String.join_cons]

theorem kind_ne_split_of_splitsAt {offset : Nat} (h : splitsAt offset xs = []) (hx : x ∈ xs) :
    x.kind ≠ .split := by
  induction xs generalizing offset with
  | nil => cases hx
  | cons y ys ih =>
    by_cases hkind : y.kind = .split
    · rw [splitsAt, if_pos hkind] at h
      cases h
    · rw [splitsAt, if_neg hkind] at h
      rcases List.mem_cons.mp hx with rfl | hx
      · exact hkind
      · exact ih h hx

/-! ## Spans without cuts -/

theorem plainText_cons (x : Span) (xs : List Span) :
    plainText (x :: xs) = (if x.kind = .text then x.text else "") ++ plainText xs := by
  unfold plainText
  by_cases hkind : x.kind = .text
  · rw [List.filter_cons_of_pos (by simpa using hkind), cover_cons, if_pos hkind]
  · rw [List.filter_cons_of_neg (by simpa using hkind), if_neg hkind, String.empty_append]

/-- Without cuts there is one token. -/
theorem tokenTexts_of_no_split (preserve : Bool) (h : ∀ x ∈ xs, x.kind ≠ .split) :
    tokenTexts preserve xs = [plainText xs] := by
  induction xs with
  | nil => rfl
  | cons x xs ih =>
    have hrest := ih fun y hy => h y (List.mem_cons_of_mem x hy)
    have hkind := h x List.mem_cons_self
    rw [tokenTexts] at hrest
    rw [tokenTexts, gather, hrest]
    cases hx : x.kind with
    | split => exact absurd hx hkind
    | text | opening | closing | body => simp [tokenRole, plainText_cons, hx]

theorem utf8ByteSize_plainText_le (xs : List Span) :
    (plainText xs).utf8ByteSize ≤ (cover xs).utf8ByteSize := by
  induction xs with
  | nil => exact Nat.le_refl _
  | cons x xs ih =>
    rw [plainText_cons, cover_cons, String.utf8ByteSize_append, String.utf8ByteSize_append]
    split
    · exact Nat.add_le_add_left ih _
    · rw [String.utf8ByteSize_empty, Nat.zero_add]
      exact Nat.le_add_left_of_le ih

/-- The text of tokens is all that spans cover where they are nothing else. -/
theorem plainText_eq_cover_iff (h : ∀ x ∈ xs, x.text ≠ "") :
    plainText xs = cover xs ↔ ∀ x ∈ xs, x.kind = .text := by
  induction xs with
  | nil => simp [plainText, cover]
  | cons x xs ih =>
    have hrest := ih fun y hy => h y (List.mem_cons_of_mem x hy)
    rw [plainText_cons, cover_cons, List.forall_mem_cons, ← hrest]
    by_cases hkind : x.kind = .text
    · rw [if_pos hkind, String.append_right_inj]
      exact ⟨fun hsame => ⟨hkind, hsame⟩, And.right⟩
    · -- What is not text makes the spans longer than their text.
      rw [if_neg hkind, String.empty_append]
      refine ⟨fun hsame => absurd ?_ (h x List.mem_cons_self), fun hall => absurd hall.1 hkind⟩
      have hle := utf8ByteSize_plainText_le xs
      rw [hsame, String.utf8ByteSize_append] at hle
      rw [← String.utf8ByteSize_eq_zero_iff]
      omega

/-- Without cuts, text is all there is where no comment is. -/
theorem Laid.plainText_eq_cover_iff {comments : List Block} {opened : Option Block}
    (h : Laid comments xs opened) (hsplits : ∀ x ∈ xs, x.kind ≠ .split) :
    plainText xs = cover xs ↔ commentTexts xs = [] := by
  rw [Span.plainText_eq_cover_iff fun x hx => h.text_ne_empty hx, commentTexts_eq_nil_iff]
  constructor
  · intro hall x hx hkind
    rw [hall x hx] at hkind
    cases hkind
  · intro hno x hx
    exact ((h.of_no_opening hno).2 x hx).resolve_right (hsplits x hx)

end Span

end DelimiterScan
