import DelimiterScan.Proofs.Pattern.Escapes
import DelimiterScan.Regex.Source.Bracket

/-!
# Classes in brackets with a parenthesis behind them

A class that is closed in the source is read the same with the parenthesis behind the source. One
that is not closed there stays open: the parenthesis is one more of its characters.
-/

namespace DelimiterScan.Regex.Source

open DelimiterScan.Unicode (RangeSet)

variable {loose : Prop} {cs cs' : List Char} {mode : Mode}

/-! ## Items -/

theorem readPrimitive_cons (mode : Mode) {c : Char} (hc : c ≠ '\\') (cs : List Char) :
    readPrimitive mode (c :: cs) = .ok (.literal c false, cs) := by
  unfold readPrimitive
  split
  · next heq => cases heq
  · next heq =>
    cases heq
    exact absurd rfl hc
  · next heq =>
    cases heq
    rfl

theorem leaves_readPrimitive (mode : Mode) (cs : List Char) :
    Leaves Prod.mk (cs.length - 1) (readPrimitive mode cs) := by
  cases cs with
  | nil => exact .error
  | cons c cs =>
    by_cases hc : c = '\\'
    · subst hc
      exact (leaves_readEscape mode cs).mono (Nat.sub_le _ _)
    · rw [readPrimitive_cons mode hc]
      exact .ok (Nat.le_refl _)

theorem follows_readPrimitive (h : Pasted loose cs cs') (mode : Mode) :
    Follows loose Prod.mk (Astray mode.ignoreWhitespace) (readPrimitive mode cs)
      (readPrimitive mode cs') := by
  cases h with
  | nil => exact .lost (.inl rfl)
  | @cons c cs cs' h hlast =>
    by_cases hc : c = '\\'
    · subst hc
      exact follows_readEscape h mode
    · rw [readPrimitive_cons mode hc, readPrimitive_cons mode hc]
      exact .same h

theorem leaves_readRange (mode : Mode) (low : Escaped) (cs : List Char) :
    Leaves Prod.mk cs.length (readRange mode low cs) := by
  refine (leaves_readPrimitive mode cs).bind fun high rest hrest => ?_
  refine .after fun low => .after fun high => ?_
  split
  · exact .error
  · exact .ok (by omega)

theorem follows_readRange (h : Pasted loose cs cs') (mode : Mode) (low : Escaped) :
    Follows loose Prod.mk Spent (readRange mode low cs) (readRange mode low cs') := by
  refine (follows_readPrimitive h mode).bind (fun high rest rest' _ hrest => ?_)
    (fun hloose high => ?_) fun b c hastray hc => ?_
  · refine .after fun low => .after fun high => ?_
    split
    · exact .failed
    · exact .same hrest
  · refine .after fun low => .after fun high => ?_
    split
    · exact .failed
    · exact .swallowed hloose
  · obtain ⟨low, -, hc⟩ := ok_of_bind hc
    obtain ⟨high, hhigh, hc⟩ := ok_of_bind hc
    rcases hastray with hspent | ⟨condition, hlook, -⟩
    · split at hc
      · cases hc
      · cases hc
        exact hspent
    · rw [hlook] at hhigh
      cases hhigh

/-- A text does not begin with a character that does not come behind its blanks. -/
theorem head?_ne_of_dropWhile {d : Char} (hblank : isBlank d = false)
    (h : (cs.dropWhile isBlank).head? ≠ some d) : cs.head? ≠ some d := by
  intro heq
  obtain ⟨rest, rfl⟩ := List.head?_eq_some_iff.mp heq
  rw [List.dropWhile_cons_of_neg (by simp [hblank])] at h
  exact h rfl

/-- Looking ahead does not tell the texts apart, where no blank, comment or parenthesis is looked
for. -/
theorem beq_peek?_pasted (h : Pasted loose cs cs') (spaced : Bool) {d : Char} (hd : d ≠ ')')
    (hmark : d ≠ '#') (hblank : isBlank d = false) :
    (peek? spaced cs == some d) = (peek? spaced cs' == some d) := by
  have hclosing : (some ')' == some d) = false := by simpa using hd.symm
  cases spaced with
  | false => cases h <;> simp [peek?, hd.symm]
  | true =>
    have hshown := h.dropWhile isBlank_closing
    have hhead : (cs.dropWhile isBlank).head? ≠ some d → cs.head? ≠ some d :=
      head?_ne_of_dropWhile hblank
    simp only [peek?, Bool.not_true, Bool.false_eq_true, if_false]
    generalize cs.dropWhile isBlank = ds at hshown hhead
    generalize cs'.dropWhile isBlank = ds' at hshown
    cases hshown with
    | nil =>
      -- nothing is shown but a blank, and of the longer text the parenthesis
      show (cs.head? == some d) = (some ')' == some d)
      rw [hclosing]
      simpa using hhead nofun
    | @cons c ds ds' hds hlast =>
      by_cases hc : c = '#'
      · subst hc
        have hinside := hds.dropWhile isBlank_closing
        show ((ds.dropWhile isBlank).head?.or cs.head? == some d) =
          ((ds'.dropWhile isBlank).head?.or cs'.head? == some d)
        generalize ds.dropWhile isBlank = es at hinside
        generalize ds'.dropWhile isBlank = es' at hinside
        cases hinside with
        | nil =>
          show (cs.head? == some d) = (some ')' == some d)
          rw [hclosing]
          simpa using hhead (by simpa using hmark.symm)
        | cons => rfl
      · split
        · next heq =>
          cases heq
          exact absurd rfl hc
        · split
          · next heq =>
            cases heq
            exact absurd rfl hc
          · rfl

/-- What is read behind the first character of an item, of the longer text alone. -/
def Lapsed (b : RangeSet × List Char) : Prop := b.2 = [] ∨ b.2 = [')']

section Behind

variable {low : Escaped} {c : Char} {rest : List Char}

theorem readBehind_nil (h : skip mode.ignoreWhitespace cs = []) :
    readBehind mode low cs = .error .classUnclosed := by
  unfold readBehind
  dsimp only
  rw [h]

theorem readBehind_hyphen (h : skip mode.ignoreWhitespace cs = '-' :: rest) :
    readBehind mode low cs =
      if peek? mode.ignoreWhitespace rest == some ']' ||
          peek? mode.ignoreWhitespace rest == some '-'
      then do return (← primitiveSet mode low, '-' :: rest)
      else readRange mode low (skip mode.ignoreWhitespace rest) := by
  unfold readBehind
  dsimp only
  rw [h]
  rfl

theorem readBehind_of_ne (h : skip mode.ignoreWhitespace cs = c :: rest) (hc : c ≠ '-') :
    readBehind mode low cs = do return (← primitiveSet mode low, c :: rest) := by
  unfold readBehind
  dsimp only
  rw [h]
  split
  · next heq => cases heq
  · next heq =>
    cases heq
    exact absurd rfl hc
  · rfl

end Behind

theorem leaves_readBehind (mode : Mode) (low : Escaped) (cs : List Char) :
    Leaves Prod.mk cs.length (readBehind mode low cs) := by
  have hskip := length_skip_le mode.ignoreWhitespace cs
  cases hcs : skip mode.ignoreWhitespace cs with
  | nil =>
    rw [readBehind_nil hcs]
    exact .error
  | cons c rest =>
    rw [hcs, List.length_cons] at hskip
    by_cases hc : c = '-'
    · subst hc
      rw [readBehind_hyphen hcs]
      split
      · exact .after fun set => .ok hskip
      · have := length_skip_le mode.ignoreWhitespace rest
        exact (leaves_readRange mode low _).mono (by omega)
    · rw [readBehind_of_ne hcs hc]
      exact .after fun set => .ok hskip

theorem follows_readBehind (h : Pasted loose cs cs') (mode : Mode) (low : Escaped) :
    Follows loose Prod.mk Lapsed (readBehind mode low cs) (readBehind mode low cs') := by
  rcases pasted_skip h mode.ignoreWhitespace with hskip | ⟨-, hnil, hnil'⟩
  · generalize hcs : skip mode.ignoreWhitespace cs = ds at hskip
    generalize hcs' : skip mode.ignoreWhitespace cs' = ds' at hskip
    cases hskip with
    | nil =>
      rw [readBehind_nil hcs, readBehind_of_ne hcs' (by decide)]
      cases primitiveSet mode low with
      | error e => exact .failed
      | ok set => exact .lost (.inr rfl)
    | @cons c rest rest' hrest hlast =>
      by_cases hc : c = '-'
      · subst hc
        rw [readBehind_hyphen hcs, readBehind_hyphen hcs',
          beq_peek?_pasted hrest _ (by decide) (by decide) (by decide +kernel),
          beq_peek?_pasted hrest _ (by decide) (by decide) (by decide +kernel)]
        split
        · exact .after fun set => .same (.cons hrest hlast)
        · refine Follows.skip hrest mode.ignoreWhitespace (fun _ _ h => ?_) fun _ => .failed
          exact (follows_readRange h mode low).mono fun _ => .inl
      · rw [readBehind_of_ne hcs hc, readBehind_of_ne hcs' hc]
        exact .after fun set => .same (.cons hrest hlast)
  · rw [readBehind_nil hnil, readBehind_nil hnil']
    exact .failed

/-- No item begins with what an escape makes of the parenthesis. -/
theorem readBehind_astray {b : Escaped × List Char} (h : Astray mode.ignoreWhitespace b)
    (c : RangeSet × List Char) : readBehind mode b.1 b.2 ≠ .ok c := by
  intro hc
  rcases h with hspent | ⟨condition, hlook, inside, hbrace, hinside⟩
  · rw [readBehind_nil (by rw [hspent, skip_nil])] at hc
    cases hc
  · rw [hlook, readBehind_of_ne (by rw [hbrace, skip_brace]) (by decide)] at hc
    cases hc

theorem leaves_readItem (mode : Mode) (cs : List Char) :
    Leaves Prod.mk (cs.length - 1) (readItem mode cs) := by
  exact (leaves_readPrimitive mode cs).bind fun low rest hrest =>
    (leaves_readBehind mode low rest).mono hrest

theorem follows_readItem (h : Pasted loose cs cs') (mode : Mode) :
    Follows loose Prod.mk Lapsed (readItem mode cs) (readItem mode cs') := by
  refine (follows_readPrimitive h mode).bind (fun low rest rest' _ hrest => ?_)
    (fun hloose low => ?_) fun b c hastray hc => ?_
  · exact follows_readBehind hrest mode low
  · show Follows _ _ _ (readBehind mode low []) (readBehind mode low [])
    rw [readBehind_nil (skip_nil _)]
    exact .failed
  · exact absurd hc (readBehind_astray hastray c)

/-! ## The beginning of a class -/

section Beginning

variable {spaced : Bool} {fuel fuel' : Nat} {items : Items}

theorem leadingHyphens_of_ne (h : cs.head? ≠ some '-') :
    leadingHyphens spaced fuel items cs = (items, cs) := by
  unfold leadingHyphens
  split
  · exact absurd rfl h
  · rfl

theorem length_leadingHyphens_le (spaced : Bool) (fuel : Nat) (items : Items) (cs : List Char) :
    (leadingHyphens spaced fuel items cs).2.length ≤ cs.length := by
  induction fuel generalizing items cs with
  | zero => exact Nat.le_refl _
  | succ fuel ih =>
    by_cases h : cs.head? = some '-'
    · cases cs with
      | nil => cases h
      | cons c cs =>
        cases h
        show (leadingHyphens spaced fuel (items.add ⟨.single '-', 0⟩) (skip spaced cs)).2.length ≤ _
        exact Nat.le_succ_of_le (Nat.le_trans (ih _ _) (length_skip_le spaced cs))
    · exact Nat.le_of_eq (congrArg (fun first => first.2.length) (leadingHyphens_of_ne h))

theorem level_leadingHyphens (h : Level loose cs cs') (spaced : Bool) (items : Items)
    (hfuel : cs.length ≤ fuel) (hfuel' : cs'.length ≤ fuel') :
    (leadingHyphens spaced fuel items cs).1 = (leadingHyphens spaced fuel' items cs').1 ∧
      Level loose (leadingHyphens spaced fuel items cs).2
        (leadingHyphens spaced fuel' items cs').2 := by
  induction fuel' generalizing fuel items cs cs' with
  | zero =>
    rcases h with h | ⟨hloose, rfl, rfl⟩
    · rw [h.length] at hfuel'
      cases hfuel'
    · rw [leadingHyphens_of_ne (by simp), leadingHyphens_of_ne (by simp)]
      exact ⟨rfl, .inr ⟨hloose, rfl, rfl⟩⟩
  | succ fuel' ih =>
    rcases h with h | ⟨hloose, rfl, rfl⟩
    · cases h with
      | nil =>
        rw [leadingHyphens_of_ne (by simp), leadingHyphens_of_ne (by decide)]
        exact ⟨rfl, .inl .nil⟩
      | @cons c cs cs' h hlast =>
        by_cases hc : c = '-'
        · subst hc
          rw [List.length_cons] at hfuel hfuel'
          obtain ⟨fuel, rfl⟩ : ∃ n, fuel = n + 1 := ⟨fuel - 1, by omega⟩
          have hle := length_skip_le spaced cs
          have hle' := length_skip_le spaced cs'
          have hskip : Level loose cs cs' := .inl h
          exact ih (hskip.skip spaced) (items.add ⟨.single '-', 0⟩) (by omega) (by omega)
        · rw [leadingHyphens_of_ne (by simpa using hc), leadingHyphens_of_ne (by simpa using hc)]
          exact ⟨rfl, .inl (.cons h hlast)⟩
    · rw [leadingHyphens_of_ne (by simp), leadingHyphens_of_ne (by simp)]
      exact ⟨rfl, .inr ⟨hloose, rfl, rfl⟩⟩

theorem length_firstItems_le (spaced : Bool) (cs : List Char) :
    (firstItems spaced cs).2.length ≤ cs.length := by
  have hle := length_leadingHyphens_le spaced cs.length {} cs
  unfold firstItems
  split
  · next items rest heq =>
    rw [heq, List.length_cons] at hle
    split
    · exact Nat.le_trans (length_skip_le spaced rest) (Nat.le_of_succ_le hle)
    · exact hle
  · exact hle

theorem firstItems_bracket {rest : List Char}
    (h : leadingHyphens spaced cs.length {} cs = (items, ']' :: rest)) :
    firstItems spaced cs =
      if items.count = 0 then (items.add ⟨.single ']', 0⟩, skip spaced rest)
      else (items, ']' :: rest) := by
  unfold firstItems
  rw [h]
  rfl

theorem firstItems_of_ne {rest : List Char}
    (h : leadingHyphens spaced cs.length {} cs = (items, rest)) (hrest : rest.head? ≠ some ']') :
    firstItems spaced cs = (items, rest) := by
  unfold firstItems
  rw [h]
  split
  · next heq =>
    cases heq
    exact absurd rfl hrest
  · rfl

theorem level_firstItems (h : Level loose cs cs') (spaced : Bool) :
    (firstItems spaced cs).1 = (firstItems spaced cs').1 ∧
      Level loose (firstItems spaced cs).2 (firstItems spaced cs').2 := by
  obtain ⟨hitems, hrest⟩ := level_leadingHyphens h spaced {} (Nat.le_refl _) (Nat.le_refl _)
  generalize hfirst : leadingHyphens spaced cs.length {} cs = first at hitems hrest
  generalize hfirst' : leadingHyphens spaced cs'.length {} cs' = first' at hitems hrest
  obtain ⟨items, rest⟩ := first
  obtain ⟨items', rest'⟩ := first'
  obtain rfl : items = items' := hitems
  rcases hrest with hrest | ⟨hloose, rfl, rfl⟩
  · cases hrest with
    | nil =>
      rw [firstItems_of_ne hfirst (by simp), firstItems_of_ne hfirst' (by simp)]
      exact ⟨rfl, .inl .nil⟩
    | @cons c rest rest' hrest hlast =>
      by_cases hc : c = ']'
      · subst hc
        rw [firstItems_bracket hfirst, firstItems_bracket hfirst']
        split
        · exact ⟨rfl, Level.skip (.inl hrest) spaced⟩
        · exact ⟨rfl, .inl (.cons hrest hlast)⟩
      · rw [firstItems_of_ne hfirst (by simpa using hc),
          firstItems_of_ne hfirst' (by simpa using hc)]
        exact ⟨rfl, .inl (.cons hrest hlast)⟩
  · rw [firstItems_of_ne hfirst (by simp), firstItems_of_ne hfirst' (by simp)]
    exact ⟨rfl, .inr ⟨hloose, rfl, rfl⟩⟩

theorem openClass_caret {rest : List Char} (h : skip spaced cs = '^' :: rest) :
    openClass spaced cs = (true, firstItems spaced (skip spaced rest)) := by
  unfold openClass
  rw [h]
  rfl

theorem openClass_of_ne (h : (skip spaced cs).head? ≠ some '^') :
    openClass spaced cs = (false, firstItems spaced (skip spaced cs)) := by
  unfold openClass
  split
  · next heq =>
    rw [heq] at h
    exact absurd rfl h
  · rfl

theorem length_openClass_le (spaced : Bool) (cs : List Char) :
    (openClass spaced cs).2.2.length ≤ cs.length := by
  have hskip := length_skip_le spaced cs
  unfold openClass
  split
  · next rest heq =>
    rw [heq, List.length_cons] at hskip
    exact Nat.le_trans (length_firstItems_le _ _) (Nat.le_trans (length_skip_le _ _)
      (Nat.le_of_succ_le hskip))
  · exact Nat.le_trans (length_firstItems_le _ _) hskip

theorem level_openClass (h : Level loose cs cs') (spaced : Bool) :
    (openClass spaced cs).1 = (openClass spaced cs').1 ∧
      (openClass spaced cs).2.1 = (openClass spaced cs').2.1 ∧
      Level loose (openClass spaced cs).2.2 (openClass spaced cs').2.2 := by
  have hskip := h.skip spaced
  generalize hds : skip spaced cs = ds at hskip
  generalize hds' : skip spaced cs' = ds' at hskip
  have hplain (hne : ds.head? ≠ some '^') (hne' : ds'.head? ≠ some '^') :
      (openClass spaced cs).1 = (openClass spaced cs').1 ∧
        (openClass spaced cs).2.1 = (openClass spaced cs').2.1 ∧
        Level loose (openClass spaced cs).2.2 (openClass spaced cs').2.2 := by
    rw [openClass_of_ne (by rwa [hds]), openClass_of_ne (by rwa [hds']), hds, hds']
    exact ⟨rfl, level_firstItems hskip spaced⟩
  rcases hskip with hskip | ⟨-, rfl, rfl⟩
  · cases hskip with
    | nil => exact hplain (by simp) (by simp)
    | @cons c rest rest' hrest hlast =>
      by_cases hc : c = '^'
      · subst hc
        rw [openClass_caret hds, openClass_caret hds']
        exact ⟨rfl, level_firstItems (Level.skip (.inl hrest) spaced) spaced⟩
      · exact hplain (by simpa using hc) (by simpa using hc)
  · exact hplain (by simp) (by simp)

end Beginning

/-! ## Names and signs -/

/-- The same is left out before the character looked for, unless it does not come. -/
theorem pasted_span (h : Pasted loose cs cs') (p : Char → Bool) (hp : p ')' = true) :
    (cs.takeWhile p = cs'.takeWhile p ∧ Pasted loose (cs.dropWhile p) (cs'.dropWhile p)) ∨
      cs.dropWhile p = [] ∧ cs'.dropWhile p = [] := by
  induction h with
  | nil => exact .inr ⟨rfl, by simp [hp]⟩
  | @cons c cs cs' h hlast ih =>
    by_cases hc : p c = true
    · simp only [List.takeWhile_cons, List.dropWhile_cons, hc, if_true, List.cons.injEq, true_and]
      exact ih
    · simp only [List.takeWhile_cons, List.dropWhile_cons, hc]
      exact .inl ⟨rfl, .cons h hlast⟩

section Named

variable {negated : Bool} {rest : List Char}

theorem namedUpTo?_closed (h : cs.dropWhile (· ≠ ':') = ':' :: ']' :: rest) :
    namedUpTo? mode negated cs =
      (CharClass.bracketed? (String.ofList (cs.takeWhile (· ≠ ':')))).map fun set =>
        (mode.classSet negated set, rest) := by
  unfold namedUpTo?
  rw [h]
  rfl

theorem namedUpTo?_eq_none (h : ∀ rest, cs.dropWhile (· ≠ ':') ≠ ':' :: ']' :: rest) :
    namedUpTo? mode negated cs = none := by
  unfold namedUpTo?
  split
  · next heq => exact absurd heq (h _)
  · rfl

/-- Both texts begin with a name for the same class, or neither does. -/
def SameName (loose : Prop) (x x' : Option (Except Fault RangeSet × List Char)) : Prop :=
  (∃ set rest rest', x = some (set, rest) ∧ x' = some (set, rest') ∧ Pasted loose rest rest') ∨
    x = none ∧ x' = none

theorem sameName_namedUpTo? (h : Pasted loose cs cs') :
    SameName loose (namedUpTo? mode negated cs) (namedUpTo? mode negated cs') := by
  have hnone (hne : ∀ rest, cs.dropWhile (· ≠ ':') ≠ ':' :: ']' :: rest)
      (hne' : ∀ rest, cs'.dropWhile (· ≠ ':') ≠ ':' :: ']' :: rest) :
      SameName loose (namedUpTo? mode negated cs) (namedUpTo? mode negated cs') :=
    .inr ⟨namedUpTo?_eq_none hne, namedUpTo?_eq_none hne'⟩
  rcases pasted_span h (· ≠ ':') (by decide) with ⟨htake, hdrop⟩ | ⟨hdrop, hdrop'⟩
  · generalize hds : cs.dropWhile (· ≠ ':') = ds at hdrop hnone
    generalize hds' : cs'.dropWhile (· ≠ ':') = ds' at hdrop hnone
    rcases hdrop with _ | @⟨c, _, _, _ | @⟨d, rest, rest', hrest, _⟩, _⟩
    · exact hnone nofun nofun
    · exact hnone nofun nofun
    · by_cases hsign : c = ':' ∧ d = ']'
      · obtain ⟨rfl, rfl⟩ := hsign
        rw [namedUpTo?_closed hds, namedUpTo?_closed hds', htake]
        cases CharClass.bracketed? (String.ofList (cs'.takeWhile (· ≠ ':'))) with
        | none => exact .inr ⟨rfl, rfl⟩
        | some set => exact .inl ⟨_, _, _, rfl, rfl, hrest⟩
      · refine hnone (fun _ heq => ?_) fun _ heq => ?_
        · cases heq
          exact hsign ⟨rfl, rfl⟩
        · cases heq
          exact hsign ⟨rfl, rfl⟩
  · exact hnone (by rw [hdrop]; nofun) (by rw [hdrop']; nofun)

theorem length_namedUpTo?_le {set : Except Fault RangeSet}
    (h : namedUpTo? mode negated cs = some (set, rest)) : rest.length ≤ cs.length := by
  have hle := length_dropWhile_le (· ≠ ':') cs
  unfold namedUpTo? at h
  split at h
  · next heq =>
    rw [heq, List.length_cons, List.length_cons] at hle
    obtain ⟨_, -, heq⟩ := Option.map_eq_some_iff.mp h
    cases heq
    omega
  · cases h

theorem namedInBrackets?_of_ne (h : cs.head? ≠ some ':') : namedInBrackets? mode cs = none := by
  unfold namedInBrackets?
  split
  · exact absurd rfl h
  · exact absurd rfl h
  · rfl

theorem namedInBrackets?_colon (h : cs.head? ≠ some '^') :
    namedInBrackets? mode (':' :: cs) = namedUpTo? mode false cs := by
  unfold namedInBrackets?
  split
  · next heq =>
    cases heq
    exact absurd rfl h
  · next heq =>
    cases heq
    rfl
  · next hne => exact absurd rfl (hne cs)

theorem length_namedInBrackets?_le {set : Except Fault RangeSet}
    (h : namedInBrackets? mode cs = some (set, rest)) : rest.length ≤ cs.length := by
  unfold namedInBrackets? at h
  split at h
  · have := length_namedUpTo?_le h
    simp only [List.length_cons]
    omega
  · have := length_namedUpTo?_le h
    simp only [List.length_cons]
    omega
  · cases h

theorem sameName_namedInBrackets? (h : Pasted loose cs cs') (mode : Mode) :
    SameName loose (namedInBrackets? mode cs) (namedInBrackets? mode cs') := by
  cases h with
  | nil => exact .inr ⟨rfl, rfl⟩
  | @cons c cs cs' h hlast =>
    by_cases hc : c = ':'
    · subst hc
      rcases h with _ | @⟨d, cs, cs', hcs, hlast'⟩
      · rw [namedInBrackets?_colon (by simp), namedInBrackets?_colon (by simp)]
        exact sameName_namedUpTo? .nil
      · by_cases hd : d = '^'
        · subst hd
          exact sameName_namedUpTo? hcs
        · rw [namedInBrackets?_colon (by simpa using hd),
            namedInBrackets?_colon (by simpa using hd)]
          exact sameName_namedUpTo? (.cons hcs hlast')
    · rw [namedInBrackets?_of_ne (by simpa using hc), namedInBrackets?_of_ne (by simpa using hc)]
      exact .inr ⟨rfl, rfl⟩

end Named

/-! ## Classes -/

/-- Both texts begin with the same combining sign, or neither does. -/
theorem pasted_combiningSign? (h : Pasted loose cs cs') :
    (∃ op rest rest', combiningSign? cs = some (op, rest) ∧
      combiningSign? cs' = some (op, rest') ∧ Pasted loose rest rest') ∨
    combiningSign? cs = none ∧ combiningSign? cs' = none := by
  rcases h with _ | @⟨c, _, _, _ | @⟨d, rest, rest', hrest, _⟩, _⟩
  · exact .inr ⟨rfl, rfl⟩
  · refine .inr ⟨rfl, ?_⟩
    by_cases hc : c = ')'
    · subst hc
      rfl
    · exact if_neg hc
  · by_cases hcd : c = d
    · subst hcd
      simp only [combiningSign?, if_true]
      cases SetOp.ofChar? c with
      | none => exact .inr ⟨rfl, rfl⟩
      | some op => exact .inl ⟨op, rest, rest', rfl, rfl, hrest⟩
    · exact .inr ⟨if_neg hcd, if_neg hcd⟩

theorem length_combiningSign?_lt {op : SetOp} {rest : List Char}
    (h : combiningSign? cs = some (op, rest)) : rest.length < cs.length := by
  unfold combiningSign? at h
  split at h
  · split at h
    · obtain ⟨_, -, heq⟩ := Option.map_eq_some_iff.mp h
      cases heq
      simp only [List.length_cons]
      omega
    · cases h
  · cases h

section ReadItems

variable {fuel fuel' : Nat} {left : Option (SetOp × Nested)} {items : Items} {c : Char}
  {rest : List Char}

theorem readItems_nil (h : skip mode.ignoreWhitespace cs = []) :
    readItems mode fuel left items cs = .error .classUnclosed := by
  cases fuel with
  | zero => rfl
  | succ fuel =>
    unfold readItems
    dsimp only
    rw [h]

theorem readItems_bracket (h : skip mode.ignoreWhitespace cs = ']' :: rest) :
    readItems mode (fuel + 1) left items cs = .ok (combine mode left items, rest) := by
  conv => lhs; unfold readItems
  dsimp only
  rw [h]
  rfl

def readInner (mode : Mode) (fuel : Nat) (left : Option (SetOp × Nested)) (items : Items)
    (cs : List Char) : Except Fault (Nested × List Char) :=
  match namedInBrackets? mode cs with
  | some (set, rest) => set >>= fun set => readItems mode fuel left (items.add ⟨set, 0⟩) rest
  | none =>
    let start := openClass mode.ignoreWhitespace cs
    readItems mode fuel none start.2.1 start.2.2 >>= fun inner =>
      mode.classSet start.1 inner.1.set >>= fun set =>
        readItems mode fuel left (items.add ⟨set, inner.1.depth + 1⟩) inner.2

def readSignOrItem (mode : Mode) (fuel : Nat) (left : Option (SetOp × Nested)) (items : Items)
    (cs : List Char) : Except Fault (Nested × List Char) :=
  match combiningSign? cs with
  | some (op, rest) => readItems mode fuel (some (op, combine mode left items)) {} rest
  | none => readItem mode cs >>= fun item =>
    readItems mode fuel left (items.add ⟨item.1, 0⟩) item.2

theorem readItems_nested (h : skip mode.ignoreWhitespace cs = '[' :: rest) :
    readItems mode (fuel + 1) left items cs = readInner mode fuel left items rest := by
  conv => lhs; unfold readItems
  dsimp only
  rw [h]
  rfl

theorem readItems_of_ne (h : skip mode.ignoreWhitespace cs = c :: rest) (hclose : c ≠ ']')
    (hopen : c ≠ '[') :
    readItems mode (fuel + 1) left items cs =
      readSignOrItem mode fuel left items (c :: rest) := by
  conv => lhs; unfold readItems
  dsimp only
  rw [h]
  split
  · next heq => cases heq
  · next heq =>
    cases heq
    exact absurd rfl hclose
  · next heq =>
    cases heq
    exact absurd rfl hopen
  · rfl

theorem leaves_readItems : Leaves Prod.mk cs.length (readItems mode fuel left items cs) := by
  induction fuel generalizing left items cs with
  | zero => exact .error
  | succ fuel ih =>
    have hskip := length_skip_le mode.ignoreWhitespace cs
    cases hcs : skip mode.ignoreWhitespace cs with
    | nil =>
      rw [readItems_nil hcs]
      exact .error
    | cons c rest =>
      rw [hcs] at hskip
      have hrest := hskip
      rw [List.length_cons] at hrest
      by_cases hclose : c = ']'
      · subst hclose
        rw [readItems_bracket hcs]
        exact .ok (by omega)
      by_cases hopen : c = '['
      · subst hopen
        rw [readItems_nested hcs]
        unfold readInner
        split
        · next hname =>
          have := length_namedInBrackets?_le hname
          exact .after fun set => ih.mono (by omega)
        · have hstart := length_openClass_le mode.ignoreWhitespace rest
          refine ih.bind fun inner rest' hrest' => ?_
          exact .after fun set => ih.mono (Nat.le_trans hrest' (by omega))
      · rw [readItems_of_ne hcs hclose hopen]
        unfold readSignOrItem
        split
        · next hsign =>
          exact ih.mono (Nat.le_of_lt (Nat.lt_of_lt_of_le (length_combiningSign?_lt hsign) hskip))
        · refine (leaves_readItem mode _).bind fun item rest' hrest' => ih.mono ?_
          exact Nat.le_trans hrest' (Nat.le_trans (Nat.sub_le _ _) hskip)

/-- Of the parenthesis alone no items are read. -/
theorem readItems_closing (h : skip mode.ignoreWhitespace cs = [')'])
    (c : Nested × List Char) : readItems mode fuel left items cs ≠ .ok c := by
  intro hc
  cases fuel with
  | zero => cases hc
  | succ fuel =>
    rw [readItems_of_ne h (by decide) (by decide)] at hc
    obtain ⟨item, hitem, -⟩ := ok_of_bind hc
    rw [show readItem mode [')'] = readBehind mode (.literal ')' false) [] from rfl,
      readBehind_nil (skip_nil _)] at hitem
    cases hitem

theorem readItems_lapsed {b : RangeSet × List Char} (h : Lapsed b) (c : Nested × List Char) :
    readItems mode fuel left items b.2 ≠ .ok c := by
  rcases h with hnil | hclosing
  · rw [readItems_nil (by rw [hnil, skip_nil])]
    exact nofun
  · exact readItems_closing (by rw [hclosing, skip_closing]) c

/-- Where at most `n` characters are left, items are read alike with either fuel. -/
def ItemsFollow (loose : Prop) (mode : Mode) (fuel fuel' n : Nat) : Prop :=
  ∀ {left items} (cs cs' : List Char), Level loose cs cs' → cs.length ≤ n →
    Follows loose Prod.mk Never (readItems mode fuel left items cs)
      (readItems mode fuel' left items cs')

theorem follows_readInner (hitems : ItemsFollow loose mode fuel fuel' cs.length)
    (h : Pasted loose cs cs') :
    Follows loose Prod.mk Never (readInner mode fuel left items cs)
      (readInner mode fuel' left items cs') := by
  unfold readInner
  rcases sameName_namedInBrackets? h mode with
    ⟨set, rest, rest', hname, hname', hrest⟩ | ⟨hname, hname'⟩
  · rw [hname, hname']
    have hle := length_namedInBrackets?_le hname
    exact .after fun set => hitems rest rest' (.inl hrest) hle
  · have hstart := length_openClass_le mode.ignoreWhitespace cs
    obtain ⟨hnegated, hfirst, hinside⟩ := level_openClass (.inl h) mode.ignoreWhitespace
    rw [hname, hname']
    dsimp only
    rw [← hnegated, ← hfirst]
    refine (hitems _ _ hinside hstart).bind (fun inner rest rest' hread hrest => ?_)
      (fun hloose inner => ?_) nofun
    · have hle := leaves_readItems inner rest hread
      exact .after fun set => hitems rest rest' (.inl hrest) (Nat.le_trans hle hstart)
    · exact .after fun set => hitems [] [] (.inr ⟨hloose, rfl, rfl⟩) (Nat.zero_le _)

theorem follows_readSignOrItem (hitems : ItemsFollow loose mode fuel fuel' (cs.length - 1))
    (h : Pasted loose cs cs') :
    Follows loose Prod.mk Never (readSignOrItem mode fuel left items cs)
      (readSignOrItem mode fuel' left items cs') := by
  unfold readSignOrItem
  rcases pasted_combiningSign? h with ⟨op, rest, rest', hsign, hsign', hrest⟩ | ⟨hsign, hsign'⟩
  · rw [hsign, hsign']
    exact hitems rest rest' (.inl hrest) (Nat.le_sub_one_of_lt (length_combiningSign?_lt hsign))
  · rw [hsign, hsign']
    refine (follows_readItem h mode).bind (fun item rest rest' hitem hrest => ?_)
      (fun hloose item => ?_) fun b c hlapsed hc => absurd hc (readItems_lapsed hlapsed c)
    · exact hitems rest rest' (.inl hrest) (leaves_readItem mode cs item rest hitem)
    · exact hitems [] [] (.inr ⟨hloose, rfl, rfl⟩) (Nat.zero_le _)

theorem follows_readItems (h : Level loose cs cs') (hfuel : cs.length < fuel)
    (hfuel' : cs'.length < fuel') :
    Follows loose Prod.mk Never (readItems mode fuel left items cs)
      (readItems mode fuel' left items cs') := by
  induction fuel' generalizing fuel left items cs cs' with
  | zero => cases hfuel'
  | succ fuel' ih =>
    obtain ⟨fuel, rfl⟩ : ∃ n, fuel = n + 1 := ⟨fuel - 1, by omega⟩
    have hle := length_skip_le mode.ignoreWhitespace cs
    have hle' := length_skip_le mode.ignoreWhitespace cs'
    have hskip := h.skip mode.ignoreWhitespace
    generalize hds : skip mode.ignoreWhitespace cs = ds at hskip hle
    generalize hds' : skip mode.ignoreWhitespace cs' = ds' at hskip hle'
    rcases hskip with hskip | ⟨-, rfl, rfl⟩
    · cases hskip with
      | nil =>
        -- the class is open at the end of the source, and behind the parenthesis still
        rw [readItems_nil hds]
        cases hread : readItems mode (fuel' + 1) left items cs' with
        | error e => exact .failed
        | ok c => exact absurd hread (readItems_closing hds' c)
      | @cons c rest rest' hrest hlast =>
        -- both fuels are enough for what is left behind a character
        have hnext : ItemsFollow loose mode fuel fuel' rest.length := by
          intro left items behind behind' h hbehind
          rw [List.length_cons] at hle hle'
          have hlength := hrest.length
          refine ih h (by omega) ?_
          rcases h with h | ⟨-, -, rfl⟩
          · have := h.length
            omega
          · rw [List.length_nil]
            omega
        by_cases hclose : c = ']'
        · subst hclose
          rw [readItems_bracket hds, readItems_bracket hds']
          exact .same hrest
        by_cases hopen : c = '['
        · subst hopen
          rw [readItems_nested hds, readItems_nested hds']
          exact follows_readInner hnext hrest
        · rw [readItems_of_ne hds hclose hopen, readItems_of_ne hds' hclose hopen]
          exact follows_readSignOrItem hnext (.cons hrest hlast)
    · rw [readItems_nil hds, readItems_nil hds']
      exact .failed

end ReadItems

theorem leaves_readClass (mode : Mode) (cs : List Char) :
    Leaves Prod.mk cs.length (readClass mode cs) := by
  refine leaves_readItems.bind fun inner rest hrest => .after fun set => .ok ?_
  exact Nat.le_trans hrest (length_openClass_le mode.ignoreWhitespace cs)

theorem follows_readClass (h : Pasted loose cs cs') (mode : Mode) :
    Follows loose Prod.mk Never (readClass mode cs) (readClass mode cs') := by
  have hstart := length_openClass_le mode.ignoreWhitespace cs
  have hstart' := length_openClass_le mode.ignoreWhitespace cs'
  obtain ⟨hnegated, hfirst, hinside⟩ := level_openClass (.inl h) mode.ignoreWhitespace
  unfold readClass
  dsimp only
  rw [← hnegated, ← hfirst]
  refine (follows_readItems hinside (by omega) (by omega)).bind
    (fun inner rest rest' _ hrest => ?_) (fun hloose inner => ?_) nofun
  · exact .after fun set => .same hrest
  · exact .after fun set => .swallowed hloose

end DelimiterScan.Regex.Source
