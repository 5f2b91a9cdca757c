import DelimiterScan.Proofs.Pattern.Pasting
import DelimiterScan.Regex.Source.Escape

/-!
# Escapes with a parenthesis behind them

An escape of the source is read the same with the parenthesis behind the source. A backslash or the
letter of a property at the end of the source escapes the parenthesis, and a brace behind `\b` at
the end makes the boundary a plain one: then what is left cannot be read (`Adrift`).
-/

namespace DelimiterScan.Regex.Source

variable {loose : Prop} {cs cs' : List Char}

/-! ## Properties -/

variable {c : Char} {rest : List Char} {spaced : Bool}

theorem readPropertyText_nil (h : skip spaced cs = []) :
    readPropertyText spaced cs = .error .escape := by
  rw [readPropertyText, h]

theorem readPropertyText_brace (h : skip spaced cs = '\x7b' :: rest) :
    readPropertyText spaced cs =
      match collect spaced (· ≠ '\x7d') rest.length (skip spaced rest) with
      | (text, _ :: rest) => .ok (text, rest)
      | (_, []) => .error .property := by
  rw [readPropertyText, h]
  rfl

theorem readPropertyText_char (h : skip spaced cs = c :: rest) (hc : c ≠ '\x7b') :
    readPropertyText spaced cs = if c = '\\' then .error .property else .ok ([c], rest) := by
  rw [readPropertyText, h]
  split
  · next heq =>
    cases heq
    exact absurd rfl hc
  · next heq =>
    cases heq
    rfl
  · next heq => cases heq

theorem leaves_readPropertyText (spaced : Bool) (cs : List Char) :
    Leaves Prod.mk cs.length (readPropertyText spaced cs) := by
  have hskip := length_skip_le spaced cs
  cases hcs : skip spaced cs with
  | nil =>
    rw [readPropertyText_nil hcs]
    exact .error
  | cons c rest =>
    rw [hcs, List.length_cons] at hskip
    by_cases hc : c = '\x7b'
    · subst hc
      have hcollect := length_collect_le spaced (· ≠ '\x7d') rest.length (skip spaced rest)
      have hskip' := length_skip_le spaced rest
      rw [readPropertyText_brace hcs]
      split
      · next htext =>
        rw [htext, List.length_cons] at hcollect
        exact .ok (by omega)
      · exact .error
    · rw [readPropertyText_char hcs hc]
      split
      · exact .error
      · exact .ok (by omega)

theorem follows_readPropertyText (h : Pasted loose cs cs') (spaced : Bool) :
    Follows loose Prod.mk Spent (readPropertyText spaced cs) (readPropertyText spaced cs') := by
  rcases pasted_skip h spaced with hskip | ⟨-, hnil, hnil'⟩
  · generalize hcs : skip spaced cs = ds at hskip
    generalize hcs' : skip spaced cs' = ds' at hskip
    cases hskip with
    | nil =>
      rw [readPropertyText_nil hcs, readPropertyText_char hcs' (by decide)]
      exact .lost rfl
    | @cons c ds ds' hds hlast =>
      by_cases hc : c = '\x7b'
      · subst hc
        rw [readPropertyText_brace hcs, readPropertyText_brace hcs']
        rcases pasted_collect_skip hds spaced (· ≠ '\x7d') with
          ⟨text, rest, rest', htext, htext', hrest⟩ | ⟨text, text', htext, htext'⟩
        · rw [htext, htext']
          cases hrest with
          | nil => exact .lost rfl
          | cons hrest _ => exact .same hrest
        · rw [htext, htext']
          exact .failed
      · rw [readPropertyText_char hcs hc, readPropertyText_char hcs' hc]
        split
        · exact .failed
        · exact .same hds
  · rw [readPropertyText_nil hnil, readPropertyText_nil hnil']
    exact .failed

theorem leaves_readProperty (mode : Mode) (negated : Bool) (cs : List Char) :
    Leaves Prod.mk cs.length (readProperty mode negated cs) :=
  (leaves_readPropertyText mode.ignoreWhitespace cs).bind fun _ _ hrest => .after fun _ => .ok hrest

theorem follows_readProperty (h : Pasted loose cs cs') (mode : Mode) (negated : Bool) :
    Follows loose Prod.mk Spent (readProperty mode negated cs) (readProperty mode negated cs') := by
  refine (follows_readPropertyText h mode.ignoreWhitespace).bind (fun text rest rest' _ hrest => ?_)
    (fun hloose text => ?_) fun b c hspent hc => ?_
  · exact .after fun set => .same hrest
  · exact .after fun set => .swallowed hloose
  · obtain ⟨set, -, hset⟩ := ok_of_bind hc
    cases hset
    exact hspent

/-! ## Word boundaries -/

/-- What is left begins with a brace, and behind it there is the parenthesis alone. -/
def Adrift (spaced : Bool) (rest : List Char) : Prop :=
  ∃ inside, rest = '\x7b' :: inside ∧ skip spaced inside = [')']

theorem closeEdge_of_ne {name : List Char} (h : cs.head? ≠ some '\x7d') :
    closeEdge name cs = .error .boundary := by
  unfold closeEdge
  split
  · exact absurd rfl h
  · rfl

theorem leaves_closeEdge (name cs : List Char) : Leaves Prod.mk cs.length (closeEdge name cs) := by
  unfold closeEdge
  split
  · split
    · exact .ok (Nat.le_succ _)
    · exact .error
  · exact .error

theorem follows_closeEdge (h : Pasted loose cs cs') (name : List Char) :
    Follows loose Prod.mk Never (closeEdge name cs) (closeEdge name cs') := by
  by_cases hbrace : cs.head? = some '\x7d'
  · cases h with
    | nil => cases hbrace
    | cons h _ =>
      cases hbrace
      dsimp only [closeEdge]
      cases namedEdge? name with
      | none => exact .failed
      | some edge => exact .same h
  · rw [closeEdge_of_ne hbrace, closeEdge_of_ne (h.head?_ne (by decide) hbrace)]
    exact .failed

section EdgeName

variable {inside inside' name : List Char}

theorem readEdgeName_nil (h : skip spaced inside = []) :
    readEdgeName spaced inside = .error .boundary := by
  unfold readEdgeName
  rw [h]

theorem readEdgeName_plain (h : skip spaced inside = c :: name) (hc : ¬ isEdgeNameChar c) :
    readEdgeName spaced inside = .ok (.boundary, '\x7b' :: inside) := by
  unfold readEdgeName
  rw [h]
  exact if_pos (by simpa using hc)

theorem readEdgeName_name (h : skip spaced inside = c :: name) (hc : isEdgeNameChar c) :
    readEdgeName spaced inside =
      closeEdge (collect spaced isEdgeNameChar (c :: name).length (c :: name)).1
        (collect spaced isEdgeNameChar (c :: name).length (c :: name)).2 := by
  unfold readEdgeName
  rw [h]
  exact if_neg (by simpa using hc)

theorem leaves_readEdgeName (spaced : Bool) (inside : List Char) :
    Leaves Prod.mk (inside.length + 1) (readEdgeName spaced inside) := by
  have hskip := length_skip_le spaced inside
  cases hin : skip spaced inside with
  | nil =>
    rw [readEdgeName_nil hin]
    exact .error
  | cons c name =>
    rw [hin] at hskip
    by_cases hc : isEdgeNameChar c = true
    · rw [readEdgeName_name hin hc]
      have hcollect := length_collect_le spaced isEdgeNameChar (c :: name).length (c :: name)
      intro edge rest h
      have := leaves_closeEdge _ _ edge rest h
      omega
    · rw [readEdgeName_plain hin hc]
      exact .ok (Nat.le_refl _)

/-- What is made of the longer text alone: the plain boundary, where the text ends behind the
brace. -/
def Plain (spaced : Bool) (b : WordEdge × List Char) : Prop :=
  b.1 = .boundary ∧ Adrift spaced b.2

theorem follows_readEdgeName (h : Pasted loose inside inside') (spaced : Bool) :
    Follows loose Prod.mk (Plain spaced) (readEdgeName spaced inside)
      (readEdgeName spaced inside') := by
  rcases pasted_skip h spaced with hskip | ⟨-, hnil, hnil'⟩
  · generalize hin : skip spaced inside = ds at hskip
    generalize hin' : skip spaced inside' = ds' at hskip
    cases hskip with
    | nil =>
      -- the source ends behind the brace, and no name begins with the parenthesis
      rw [readEdgeName_nil hin, readEdgeName_plain hin' (by decide)]
      exact .lost ⟨rfl, inside', rfl, hin'⟩
    | @cons c name name' hname hlast =>
      by_cases hc : isEdgeNameChar c = true
      · rw [readEdgeName_name hin hc, readEdgeName_name hin' hc]
        rcases pasted_collect (hname.cons hlast) spaced isEdgeNameChar (Nat.le_refl _)
          (Nat.le_refl _) with
          ⟨taken, rest, rest', htaken, htaken', hrest⟩ | ⟨taken, taken', htaken, htaken', -⟩
        · rw [htaken, htaken']
          exact (follows_closeEdge hrest taken).mono nofun
        · rw [htaken, htaken', closeEdge_of_ne (by simp), closeEdge_of_ne (by simp)]
          exact .failed
      · rw [readEdgeName_plain hin hc, readEdgeName_plain hin' hc]
        exact .same (.cons h (by rintro rfl; cases (skip_nil spaced).symm.trans hin))
  · rw [readEdgeName_nil hnil, readEdgeName_nil hnil']
    exact .failed

end EdgeName

theorem readEdge_of_ne (spaced : Bool) (h : cs.head? ≠ some '\x7b') :
    readEdge spaced cs = .ok (.boundary, cs) := by
  unfold readEdge
  split
  · exact absurd rfl h
  · rfl

theorem leaves_readEdge (spaced : Bool) (cs : List Char) :
    Leaves Prod.mk cs.length (readEdge spaced cs) := by
  by_cases hbrace : cs.head? = some '\x7b'
  · obtain ⟨inside, rfl⟩ := List.head?_eq_some_iff.mp hbrace
    exact leaves_readEdgeName spaced inside
  · rw [readEdge_of_ne spaced hbrace]
    exact .ok (Nat.le_refl _)

theorem follows_readEdge (h : Pasted loose cs cs') (spaced : Bool) :
    Follows loose Prod.mk (Plain spaced) (readEdge spaced cs) (readEdge spaced cs') := by
  by_cases hbrace : cs.head? = some '\x7b'
  · cases h with
    | nil => cases hbrace
    | cons h _ =>
      cases hbrace
      exact follows_readEdgeName h spaced
  · rw [readEdge_of_ne spaced hbrace,
      readEdge_of_ne spaced (h.head?_ne (by decide) hbrace)]
    exact .same h

/-! ## All escapes -/

theorem leaves_readCoded (mode : Mode) (byte : Bool) (n : Nat) (cs : List Char) :
    Leaves Prod.mk cs.length (readCoded mode byte n cs) := by
  refine (leaves_readCode _ n _).bind fun c rest hrest => .ok ?_
  exact Nat.le_trans hrest (length_skip_le _ cs)

theorem follows_readCoded (h : Pasted loose cs cs') (mode : Mode) (byte : Bool) (n : Nat) :
    Follows loose Prod.mk Never (readCoded mode byte n cs) (readCoded mode byte n cs') := by
  have hleaves := leaves_readCode mode.ignoreWhitespace n []
  unfold readCoded
  rcases pasted_skip h mode.ignoreWhitespace with hskip | ⟨hloose, hnil, hnil'⟩
  · generalize skip mode.ignoreWhitespace cs = ds at hskip
    generalize skip mode.ignoreWhitespace cs' = ds' at hskip
    refine (follows_readCode hskip mode.ignoreWhitespace n).bind
      (fun c rest rest' _ hrest => ?_) (fun hloose c => ?_) nofun
    · cases hskip <;> exact .same hrest
    · cases hskip <;> exact .swallowed hloose
  · rw [hnil, hnil']
    exact .of_spent hloose (hleaves.bind fun c rest hrest => .ok hrest)

/-- Whether more than this letter belongs to an escape, or it gives a condition. -/
def isLongEscape (c : Char) : Bool := "xuUpPAzbB<>".toList.contains c

theorem readEscape_cons (mode : Mode) {c : Char} (hc : isLongEscape c = false) (cs : List Char) :
    readEscape mode (c :: cs) = do return (← escapeOf mode c, cs) := by
  unfold readEscape
  split
  all_goals next heq => cases heq <;> first | rfl | exact absurd hc (by decide)

/-- The letters that `isLongEscape` tells. -/
theorem isLongEscape_cases {c : Char} (hc : isLongEscape c = true) :
    c = 'x' ∨ c = 'u' ∨ c = 'U' ∨ c = 'p' ∨ c = 'P' ∨ c = 'A' ∨ c = 'z' ∨ c = 'b' ∨ c = 'B' ∨
      c = '<' ∨ c = '>' := by
  simpa [isLongEscape] using hc

theorem leaves_readEscape (mode : Mode) (cs : List Char) :
    Leaves Prod.mk (cs.length - 1) (readEscape mode cs) := by
  cases cs with
  | nil => exact .error
  | cons c cs =>
    rw [List.length_cons, Nat.add_sub_cancel]
    by_cases hc : isLongEscape c = true
    · rcases isLongEscape_cases hc with
        rfl | rfl | rfl | rfl | rfl | rfl | rfl | rfl | rfl | rfl | rfl
      · exact leaves_readCoded mode true 2 cs
      · exact leaves_readCoded mode false 4 cs
      · exact leaves_readCoded mode false 8 cs
      · exact leaves_readProperty mode false cs
      · exact leaves_readProperty mode true cs
      · exact .ok (Nat.le_refl _)
      · exact .ok (Nat.le_refl _)
      · exact (leaves_readEdge _ cs).bind fun edge rest hrest => .ok hrest
      · exact .ok (Nat.le_refl _)
      · exact .ok (Nat.le_refl _)
      · exact .ok (Nat.le_refl _)
    · rw [readEscape_cons mode (by simpa using hc)]
      exact .after fun escaped => .ok (Nat.le_refl _)

/-- What an escape makes of the parenthesis alone. -/
def Astray (spaced : Bool) (b : Escaped × List Char) : Prop :=
  Spent b ∨ ∃ condition, b.1 = .look condition ∧ Adrift spaced b.2

theorem follows_readEscape (h : Pasted loose cs cs') (mode : Mode) :
    Follows loose Prod.mk (Astray mode.ignoreWhitespace) (readEscape mode cs)
      (readEscape mode cs') := by
  cases h with
  | nil =>
    rw [readEscape_cons mode (by decide)]
    exact .lost (.inl rfl)
  | @cons c cs cs' h hlast =>
    by_cases hc : isLongEscape c = true
    · rcases isLongEscape_cases hc with
        rfl | rfl | rfl | rfl | rfl | rfl | rfl | rfl | rfl | rfl | rfl
      · exact (follows_readCoded h mode true 2).mono nofun
      · exact (follows_readCoded h mode false 4).mono nofun
      · exact (follows_readCoded h mode false 8).mono nofun
      · exact (follows_readProperty h mode false).mono fun _ => .inl
      · exact (follows_readProperty h mode true).mono fun _ => .inl
      · exact .same h
      · exact .same h
      · refine (follows_readEdge h mode.ignoreWhitespace).bind (fun edge rest rest' _ hrest => ?_)
          (fun hloose edge => ?_) fun b c hadrift hc => ?_
        · exact .same hrest
        · exact .swallowed hloose
        · cases hc
          exact .inr ⟨_, rfl, hadrift.2⟩
      · exact .same h
      · exact .same h
      · exact .same h
    · rw [readEscape_cons mode (by simpa using hc), readEscape_cons mode (by simpa using hc)]
      exact .after fun escaped => .same h

end DelimiterScan.Regex.Source
