import DelimiterScan.Proofs.Pattern.Brackets
import DelimiterScan.Proofs.Pattern.Openings
import DelimiterScan.Regex.Source.Body

/-!
# Bodies with a parenthesis behind them

A source whose groups are closed is read up to the parenthesis behind it. One that ends inside a
group, or right where something is missing, is not read alone; with the parenthesis it is not read
either, or there is nothing left to close the group around it.
-/

namespace DelimiterScan.Regex.Source

variable {loose : Prop} {cs cs' : List Char} {mode : Mode}

/-! ## Repetitions -/

/-- The bounds of a repetition and whether it is short, with the text behind it. -/
def putBounds (bounds : Nat × Option Nat × Bool) (rest : List Char) :
    Nat × Option Nat × Bool × List Char :=
  (bounds.1, bounds.2.1, bounds.2.2, rest)

theorem readLazy_of_ne (h : cs.head? ≠ some '?') : readLazy cs = (false, cs) := by
  unfold readLazy
  split
  · exact absurd rfl h
  · rfl

theorem length_readLazy_le (cs : List Char) : (readLazy cs).2.length ≤ cs.length := by
  unfold readLazy
  split
  · exact Nat.le_succ _
  · exact Nat.le_refl _

theorem pasted_readLazy (h : Pasted loose cs cs') :
    (readLazy cs).1 = (readLazy cs').1 ∧ Pasted loose (readLazy cs).2 (readLazy cs').2 := by
  by_cases hhead : cs.head? = some '?'
  · have hhead' := (h.head?_eq_iff (by decide)).mp hhead
    cases h with
    | nil => cases hhead
    | cons h _ =>
      cases hhead
      exact ⟨rfl, h⟩
  · rw [readLazy_of_ne hhead, readLazy_of_ne (h.head?_ne (by decide) hhead)]
    exact ⟨rfl, h⟩

section Bounds

variable {spaced : Bool} {least : Nat} {greatest : Option Nat} {rest behind : List Char}

theorem readUpper_none (h : skip spaced cs = '\x7d' :: behind) :
    readUpper spaced cs = .ok (none, '\x7d' :: behind) := by
  unfold readUpper
  rw [h]
  rfl

theorem readUpper_some (h : (skip spaced cs).head? ≠ some '\x7d') :
    readUpper spaced cs =
      readBound spaced (skip spaced cs) >>= fun bound => .ok (some bound.1, bound.2) := by
  unfold readUpper
  split
  · next heq =>
    rw [heq] at h
    exact absurd rfl h
  · rfl

theorem leaves_readUpper (spaced : Bool) (cs : List Char) :
    Leaves Prod.mk cs.length (readUpper spaced cs) := by
  have hskip := length_skip_le spaced cs
  by_cases hbrace : (skip spaced cs).head? = some '\x7d'
  · obtain ⟨behind, hbehind⟩ := List.head?_eq_some_iff.mp hbrace
    rw [readUpper_none hbehind]
    exact .ok (hbehind ▸ hskip)
  · rw [readUpper_some hbrace]
    refine (leaves_readBound spaced _).bind fun bound behind hbehind => .ok ?_
    exact Nat.le_trans hbehind hskip

theorem follows_readUpper (h : Pasted loose cs cs') (spaced : Bool) :
    Follows loose Prod.mk Never (readUpper spaced cs) (readUpper spaced cs') := by
  rcases pasted_skip h spaced with hskip | ⟨hloose, hnil, hnil'⟩
  · by_cases hbrace : (skip spaced cs).head? = some '\x7d'
    · obtain ⟨behind, hbehind⟩ := List.head?_eq_some_iff.mp hbrace
      obtain ⟨behind', hbehind'⟩ :=
        List.head?_eq_some_iff.mp ((hskip.head?_eq_iff (by decide)).mp hbrace)
      rw [readUpper_none hbehind, readUpper_none hbehind', ← hbehind, ← hbehind']
      exact .same hskip
    · rw [readUpper_some hbrace, readUpper_some (hskip.head?_ne (by decide) hbrace)]
      exact (follows_readBound hskip spaced).bind (fun bound _ _ _ hbehind => .same hbehind)
        (fun hloose bound => .swallowed hloose) nofun
  · rw [readUpper_some (by simp [hnil]), readUpper_some (by simp [hnil']), hnil, hnil']
    refine .of_spent hloose ((leaves_readBound spaced []).bind fun bound behind hbehind => ?_)
    exact .ok hbehind

theorem readGreatest_of_ne (h : cs.head? ≠ some ',') :
    readGreatest spaced least cs = .ok (some least, cs) := by
  unfold readGreatest
  split
  · exact absurd rfl h
  · rfl

theorem leaves_readGreatest (spaced : Bool) (least : Nat) (cs : List Char) :
    Leaves Prod.mk cs.length (readGreatest spaced least cs) := by
  by_cases hcomma : cs.head? = some ','
  · obtain ⟨rest, rfl⟩ := List.head?_eq_some_iff.mp hcomma
    exact (leaves_readUpper spaced rest).mono (Nat.le_succ _)
  · rw [readGreatest_of_ne hcomma]
    exact .ok (Nat.le_refl _)

theorem follows_readGreatest (h : Pasted loose cs cs') (spaced : Bool) (least : Nat) :
    Follows loose Prod.mk Never (readGreatest spaced least cs) (readGreatest spaced least cs') := by
  by_cases hcomma : cs.head? = some ','
  · cases h with
    | nil => cases hcomma
    | cons h _ =>
      cases hcomma
      exact follows_readUpper h spaced
  · rw [readGreatest_of_ne hcomma, readGreatest_of_ne (h.head?_ne (by decide) hcomma)]
    exact .same h

theorem closeBounds_brace :
    closeBounds spaced least greatest ('\x7d' :: rest) =
      if greatest.any (· < least) then .error .repetitionBounds
      else .ok (putBounds (least, greatest, (readLazy (skip spaced rest)).1)
        (readLazy (skip spaced rest)).2) :=
  rfl

theorem closeBounds_of_ne (h : cs.head? ≠ some '\x7d') :
    closeBounds spaced least greatest cs = .error .repetitionBounds := by
  unfold closeBounds
  split
  · exact absurd rfl h
  · rfl

theorem leaves_closeBounds (spaced : Bool) (least : Nat) (greatest : Option Nat) (cs : List Char) :
    Leaves putBounds cs.length (closeBounds spaced least greatest cs) := by
  by_cases hbrace : cs.head? = some '\x7d'
  · obtain ⟨rest, rfl⟩ := List.head?_eq_some_iff.mp hbrace
    have hskip := length_skip_le spaced rest
    have hlazy := length_readLazy_le (skip spaced rest)
    rw [closeBounds_brace]
    split
    · exact .error
    · intro bounds behind h
      have hbehind : (readLazy (skip spaced rest)).2 = behind :=
        congrArg (fun read => read.2.2.2) (Except.ok.inj h)
      rw [← hbehind]
      exact Nat.le_succ_of_le (Nat.le_trans hlazy hskip)
  · rw [closeBounds_of_ne hbrace]
    exact .error

theorem follows_closeBounds (h : Pasted loose cs cs') (spaced : Bool) (least : Nat)
    (greatest : Option Nat) :
    Follows loose putBounds Never (closeBounds spaced least greatest cs)
      (closeBounds spaced least greatest cs') := by
  by_cases hbrace : cs.head? = some '\x7d'
  · cases h with
    | nil => cases hbrace
    | @cons c rest rest' hrest hlast =>
      cases hbrace
      rw [closeBounds_brace, closeBounds_brace]
      split
      · exact .failed
      · rcases pasted_skip hrest spaced with hskip | ⟨hloose, hnil, hnil'⟩
        · obtain ⟨hshort, hbehind⟩ := pasted_readLazy hskip
          rw [hshort]
          exact .same hbehind
        · rw [hnil, hnil']
          exact .swallowed hloose
  · rw [closeBounds_of_ne hbrace, closeBounds_of_ne (h.head?_ne (by decide) hbrace)]
    exact .failed

theorem leaves_readBounds (spaced : Bool) (cs : List Char) :
    Leaves putBounds cs.length (readBounds spaced cs) := by
  refine (leaves_readBound spaced _).bind fun least rest hrest => ?_
  refine (leaves_readGreatest spaced least rest).bind fun greatest behind hbehind => ?_
  refine (leaves_closeBounds spaced least greatest behind).mono ?_
  exact Nat.le_trans hbehind (Nat.le_trans hrest (length_skip_le spaced cs))

theorem follows_readBounds (h : Pasted loose cs cs') (spaced : Bool) :
    Follows loose putBounds Never (readBounds spaced cs) (readBounds spaced cs') := by
  have hbound := Follows.skip h spaced (fun _ _ h => follows_readBound h spaced) fun hloose =>
    .of_spent hloose (leaves_readBound spaced [])
  refine hbound.bind (fun least rest rest' _ hrest => ?_) (fun hloose least => ?_) nofun
  · refine (follows_readGreatest hrest spaced least).bind
      (fun greatest behind behind' _ hbehind => ?_) (fun hloose greatest => ?_) nofun
    · exact follows_closeBounds hbehind spaced least greatest
    · exact .failed
  · exact .failed

end Bounds

/-! ## Atoms -/

theorem readAtom_of_ne {c : Char} (hdot : c ≠ '.') (hstart : c ≠ '^') (hend : c ≠ '$')
    (hescape : c ≠ '\\') (hclass : c ≠ '[') (cs : List Char) :
    readAtom mode (c :: cs) = .ok (.expr (.chars (mode.literalSet c)) 0, cs) := by
  unfold readAtom
  split
  · next heq => cases heq
  · next heq =>
    cases heq
    exact absurd rfl hdot
  · next heq =>
    cases heq
    exact absurd rfl hstart
  · next heq =>
    cases heq
    exact absurd rfl hend
  · next heq =>
    cases heq
    exact absurd rfl hescape
  · next heq =>
    cases heq
    exact absurd rfl hclass
  · next heq =>
    cases heq
    rfl

theorem leaves_readAtom (mode : Mode) (cs : List Char) :
    Leaves Prod.mk (cs.length - 1) (readAtom mode cs) := by
  cases cs with
  | nil => exact .error
  | cons c cs =>
    rw [List.length_cons, Nat.add_sub_cancel]
    by_cases hdot : c = '.'
    · subst hdot
      exact .after fun set => .ok (Nat.le_refl _)
    by_cases hstart : c = '^'
    · subst hstart
      exact .ok (Nat.le_refl _)
    by_cases hend : c = '$'
    · subst hend
      exact .ok (Nat.le_refl _)
    by_cases hescape : c = '\\'
    · subst hescape
      refine (leaves_readEscape mode cs).bind fun escaped rest hrest => .after fun e => .ok ?_
      exact Nat.le_trans hrest (Nat.sub_le _ _)
    by_cases hclass : c = '['
    · subst hclass
      exact (leaves_readClass mode cs).bind fun nested rest hrest => .ok hrest
    rw [readAtom_of_ne hdot hstart hend hescape hclass]
    exact .ok (Nat.le_refl _)

/-- What is left of the longer text alone: nothing, or a brace and the parenthesis. -/
def Stray (spaced : Bool) (b : Item × List Char) : Prop := b.2 = [] ∨ Adrift spaced b.2

theorem follows_readAtom (h : Pasted loose cs cs') (mode : Mode) :
    Follows loose Prod.mk (Stray mode.ignoreWhitespace) (readAtom mode cs) (readAtom mode cs') := by
  cases h with
  | nil => exact .lost (.inl rfl)
  | @cons c cs cs' h hlast =>
    by_cases hdot : c = '.'
    · subst hdot
      exact .after fun set => .same h
    by_cases hstart : c = '^'
    · subst hstart
      exact .same h
    by_cases hend : c = '$'
    · subst hend
      exact .same h
    by_cases hescape : c = '\\'
    · subst hescape
      refine (follows_readEscape h mode).bind (fun escaped rest rest' _ hrest => ?_)
        (fun hloose escaped => ?_) fun b c hastray hc => ?_
      · exact .after fun e => .same hrest
      · exact .after fun e => .swallowed hloose
      · obtain ⟨e, -, hc⟩ := ok_of_bind hc
        cases hc
        exact hastray.imp id fun ⟨_, _, hadrift⟩ => hadrift
    by_cases hclass : c = '['
    · subst hclass
      refine (follows_readClass h mode).bind (fun nested rest rest' _ hrest => ?_)
        (fun hloose nested => ?_) nofun
      · exact .same hrest
      · exact .swallowed hloose
    rw [readAtom_of_ne hdot hstart hend hescape hclass,
      readAtom_of_ne hdot hstart hend hescape hclass]
    exact .same h

/-! ## Bodies -/

section ReadBody

variable {fuel fuel' : Nat} {names : List (List Char)} {branches : List Read} {items : List Item}
  {c : Char} {rest : List Char}

def putBody (body : Read × List (List Char)) (rest : List Char) :
    Read × List (List Char) × List Char :=
  (body.1, body.2, rest)

theorem readBody_nil (h : skip mode.ignoreWhitespace cs = []) :
    readBody (fuel + 1) mode names branches items cs =
      .ok (closeChoice (closeSequence items :: branches), names, []) := by
  conv => lhs; unfold readBody
  dsimp only
  rw [h]

theorem readBody_closing (h : skip mode.ignoreWhitespace cs = ')' :: rest) :
    readBody (fuel + 1) mode names branches items cs =
      .ok (closeChoice (closeSequence items :: branches), names, ')' :: rest) := by
  conv => lhs; unfold readBody
  dsimp only
  rw [h]
  rfl

theorem readBody_bar (h : skip mode.ignoreWhitespace cs = '|' :: rest) :
    readBody (fuel + 1) mode names branches items cs =
      readBody fuel mode names (closeSequence items :: branches) [] rest := by
  conv => lhs; unfold readBody
  dsimp only
  rw [h]
  rfl

def readBehindGroup (fuel : Nat) (mode : Mode) (branches : List Read) (items : List Item) :
    Read × List (List Char) × List Char → Except Fault (Read × List (List Char) × List Char)
  | (body, names, ')' :: rest) =>
    readBody fuel mode names branches (.expr body.expr (body.depth + 1) :: items) rest
  | _ => .error .groupUnclosed

def readBehindOpening (fuel : Nat) (mode : Mode) (names : List (List Char)) (branches : List Read)
    (items : List Item) : Opening × List Char → Except Fault (Read × List (List Char) × List Char)
  | (.switches mode, rest) => readBody fuel mode names branches (.switches :: items) rest
  | (.group inner name, rest) =>
    addName names name >>= fun names =>
      readBody fuel inner names [] [] rest >>= readBehindGroup fuel mode branches items

theorem readBody_open (h : skip mode.ignoreWhitespace cs = '(' :: rest) :
    readBody (fuel + 1) mode names branches items cs =
      readOpening mode rest >>= readBehindOpening fuel mode names branches items := by
  conv => lhs; unfold readBody
  dsimp only
  rw [h]
  rfl

theorem readBody_brace (h : skip mode.ignoreWhitespace cs = '\x7b' :: rest) :
    readBody (fuel + 1) mode names branches items cs =
      readBounds mode.ignoreWhitespace rest >>= fun read =>
        repeatLast mode items read.1 read.2.1 read.2.2.1 >>= fun items =>
          readBody fuel mode names branches items read.2.2.2 := by
  conv => lhs; unfold readBody
  dsimp only
  rw [h]
  rfl

theorem readBody_of_ne (h : skip mode.ignoreWhitespace cs = c :: rest) (hclosing : c ≠ ')')
    (hbar : c ≠ '|') (hopen : c ≠ '(') (hbrace : c ≠ '\x7b') :
    readBody (fuel + 1) mode names branches items cs =
      match repetitionOf? c with
      | some (least, greatest) =>
        repeatLast mode items least greatest (readLazy rest).1 >>= fun items =>
          readBody fuel mode names branches items (readLazy rest).2
      | none => readAtom mode (c :: rest) >>= fun read =>
        readBody fuel mode names branches (read.1 :: items) read.2 := by
  conv => lhs; unfold readBody
  dsimp only
  rw [h]
  split
  · next heq => cases heq
  · next heq =>
    cases heq
    exact absurd rfl hclosing
  · next heq =>
    cases heq
    exact absurd rfl hbar
  · next heq =>
    cases heq
    exact absurd rfl hopen
  · next heq =>
    cases heq
    exact absurd rfl hbrace
  · next heq =>
    cases heq
    rfl

theorem leaves_readBehindOpening {n : Nat} {opening : Opening}
    (hbodies : ∀ {mode names branches items} {cs : List Char}, cs.length ≤ n →
      Leaves putBody n (readBody fuel mode names branches items cs)) (hrest : rest.length ≤ n) :
    Leaves putBody n (readBehindOpening fuel mode names branches items (opening, rest)) := by
  cases opening with
  | switches mode => exact hbodies hrest
  | group inner name =>
    refine .after fun names body rest' hread => ?_
    obtain ⟨⟨read, names, closing⟩, hinner, hread⟩ := ok_of_bind hread
    have hle := hbodies hrest (read, names) closing hinner
    unfold readBehindGroup at hread
    split at hread
    · next heq =>
      cases heq
      exact hbodies (Nat.le_of_succ_le hle) body rest' hread
    · cases hread

theorem leaves_readBody :
    Leaves putBody cs.length (readBody fuel mode names branches items cs) := by
  induction fuel generalizing mode names branches items cs with
  | zero => exact .error
  | succ fuel ih =>
    have hskip := length_skip_le mode.ignoreWhitespace cs
    have hok {body : Read} {names : List (List Char)} {rest : List Char}
        (hrest : rest.length ≤ cs.length) :
        Leaves putBody cs.length (.ok (body, names, rest)) := by
      intro _ rest' hsame
      rwa [← show rest = rest' from congrArg (fun read => read.2.2) (Except.ok.inj hsame)]
    cases hcs : skip mode.ignoreWhitespace cs with
    | nil =>
      rw [readBody_nil hcs]
      exact hok (Nat.zero_le _)
    | cons c rest =>
      rw [hcs] at hskip
      have hrest : rest.length ≤ cs.length := Nat.le_of_succ_le hskip
      by_cases hclosing : c = ')'
      · subst hclosing
        rw [readBody_closing hcs]
        exact hok hskip
      by_cases hbar : c = '|'
      · subst hbar
        rw [readBody_bar hcs]
        exact ih.mono hrest
      by_cases hopen : c = '('
      · subst hopen
        rw [readBody_open hcs]
        refine (leaves_readOpening mode rest).bind fun opening behind hbehind => ?_
        exact leaves_readBehindOpening ih.mono (Nat.le_trans hbehind hrest)
      by_cases hbrace : c = '\x7b'
      · subst hbrace
        rw [readBody_brace hcs]
        intro body rest' hread
        obtain ⟨⟨least, greatest, short, behind⟩, hbounds, hread⟩ := ok_of_bind hread
        obtain ⟨items, -, hread⟩ := ok_of_bind hread
        have hle := leaves_readBounds _ _ (least, greatest, short) behind hbounds
        exact ih.mono (Nat.le_trans hle hrest) body rest' hread
      rw [readBody_of_ne hcs hclosing hbar hopen hbrace]
      split
      · exact .after fun items => ih.mono (Nat.le_trans (length_readLazy_le rest) hrest)
      · refine (leaves_readAtom mode _).bind fun item behind hbehind => ih.mono ?_
        exact Nat.le_trans hbehind hrest

theorem readBody_end (hfuel : 0 < fuel) :
    readBody fuel mode names branches items [] =
      .ok (closeChoice (closeSequence items :: branches), names, []) := by
  obtain ⟨fuel, rfl⟩ : ∃ n, fuel = n + 1 := ⟨fuel - 1, by omega⟩
  exact readBody_nil (skip_nil _)

/-- Nothing is left behind the body. -/
def Drained (read : Read × List (List Char) × List Char) : Prop := read.2.2 = []

theorem drained_of_nil {read : Read × List (List Char) × List Char}
    (h : readBody fuel mode names branches items [] = .ok read) : Drained read := by
  cases fuel with
  | zero => cases h
  | succ fuel =>
    rw [readBody_nil (skip_nil _)] at h
    cases h
    rfl

/-- What is left of the longer text alone does not reach the parenthesis. -/
theorem drained_of_stray {b : Item × List Char} (hstray : Stray mode.ignoreWhitespace b)
    {read : Read × List (List Char) × List Char}
    (h : readBody fuel mode names branches items b.2 = .ok read) : Drained read := by
  rcases hstray with hnil | ⟨inside, hbrace, hinside⟩
  · rw [hnil] at h
    exact drained_of_nil h
  · cases fuel with
    | zero => cases h
    | succ fuel =>
      rw [readBody_brace (by rw [hbrace, skip_brace])] at h
      obtain ⟨_, hbounds, -⟩ := ok_of_bind h
      obtain ⟨_, hbound, -⟩ := ok_of_bind hbounds
      rw [hinside, readBound_closing] at hbound
      cases hbound

/-- A group does not end with the text. -/
theorem readBehindGroup_of_drained {read : Read × List (List Char) × List Char} (h : Drained read) :
    readBehindGroup fuel mode branches items read = .error .groupUnclosed := by
  obtain ⟨body, names, rest⟩ := read
  cases h
  rfl

theorem readBehindGroup_of_ne (body : Read × List (List Char)) (h : rest.head? ≠ some ')') :
    readBehindGroup fuel mode branches items (putBody body rest) = .error .groupUnclosed := by
  unfold readBehindGroup
  split
  · next heq =>
    cases heq
    exact absurd rfl h
  · rfl

/-- Surplus fuel is inert. -/
theorem readBody_succ {read : Read × List (List Char) × List Char}
    (h : readBody fuel mode names branches items cs = .ok read) :
    readBody (fuel + 1) mode names branches items cs = .ok read := by
  induction fuel generalizing mode names branches items cs read with
  | zero => cases h
  | succ fuel ih =>
    cases hcs : skip mode.ignoreWhitespace cs with
    | nil =>
      rw [readBody_nil hcs] at h ⊢
      exact h
    | cons c rest =>
      by_cases hclosing : c = ')'
      · subst hclosing
        rw [readBody_closing hcs] at h ⊢
        exact h
      by_cases hbar : c = '|'
      · subst hbar
        rw [readBody_bar hcs] at h ⊢
        exact ih h
      by_cases hopen : c = '('
      · subst hopen
        rw [readBody_open hcs] at h ⊢
        obtain ⟨⟨opening, behind⟩, hopening, h⟩ := ok_of_bind h
        rw [bind_of_ok hopening]
        cases opening with
        | switches mode => exact ih h
        | group inner name =>
          obtain ⟨names, hnames, h⟩ := ok_of_bind h
          obtain ⟨body, hbody, h⟩ := ok_of_bind h
          refine (bind_of_ok hnames _).trans ((bind_of_ok (ih hbody) _).trans ?_)
          unfold readBehindGroup at h ⊢
          split at h
          · exact ih h
          · cases h
      by_cases hbrace : c = '\x7b'
      · subst hbrace
        rw [readBody_brace hcs] at h ⊢
        obtain ⟨bounds, hbounds, h⟩ := ok_of_bind h
        obtain ⟨items, hitems, h⟩ := ok_of_bind h
        exact (bind_of_ok hbounds _).trans ((bind_of_ok hitems _).trans (ih h))
      rw [readBody_of_ne hcs hclosing hbar hopen hbrace] at h ⊢
      cases hrepetition : repetitionOf? c with
      | some bounds =>
        rw [hrepetition] at h
        obtain ⟨items, hitems, h⟩ := ok_of_bind h
        exact (bind_of_ok hitems _).trans (ih h)
      | none =>
        rw [hrepetition] at h
        obtain ⟨item, hitem, h⟩ := ok_of_bind h
        exact (bind_of_ok hitem _).trans (ih h)

/-- Where at most `n` characters are left, a body is read alike with either fuel. -/
def BodiesFollow (loose : Prop) (fuel fuel' n : Nat) : Prop :=
  ∀ {mode names branches items} (cs cs' : List Char), Level loose cs cs' → cs.length ≤ n →
    Follows loose putBody Drained (readBody fuel mode names branches items cs)
      (readBody fuel' mode names branches items cs')

section Behind

variable {n : Nat} (hbodies : BodiesFollow loose fuel fuel' n)
include hbodies

theorem follows_readBehindGroup {x x' : Except Fault (Read × List (List Char) × List Char)}
    (h : Follows loose putBody Drained x x') (hx : Leaves putBody n x) :
    Follows loose putBody Drained (x >>= readBehindGroup fuel mode branches items)
      (x' >>= readBehindGroup fuel' mode branches items) := by
  refine h.bind (fun body rest rest' hread hrest => ?_) (fun _ _ => .failed)
    fun b read hb hread => ?_
  · have hle := hx body rest hread
    cases hrest with
    | nil =>
      -- the group is closed by the parenthesis behind the source
      show Follows loose putBody Drained (.error .groupUnclosed)
        (readBody fuel' mode body.2 branches (.expr body.1.expr (body.1.depth + 1) :: items) [])
      cases hread : readBody fuel' mode body.2 branches
        (.expr body.1.expr (body.1.depth + 1) :: items) [] with
      | error e => exact .failed
      | ok read => exact .lost (drained_of_nil hread)
    | @cons c rest rest' hrest _ =>
      by_cases hc : c = ')'
      · subst hc
        exact hbodies rest rest' (.inl hrest) (Nat.le_of_succ_le hle)
      · rw [readBehindGroup_of_ne body (by simpa using hc),
          readBehindGroup_of_ne body (by simpa using hc)]
        exact .failed
  · rw [readBehindGroup_of_drained hb] at hread
    cases hread

theorem follows_readBehindOpening {x x' : Except Fault (Opening × List Char)}
    (h : Follows loose Prod.mk Spent x x') (hx : Leaves Prod.mk n x) :
    Follows loose putBody Drained (x >>= readBehindOpening fuel mode names branches items)
      (x' >>= readBehindOpening fuel' mode names branches items) := by
  have hopening (opening : Opening) {rest rest' : List Char} (hrest : Level loose rest rest')
      (hle : rest.length ≤ n) : Follows loose putBody Drained
        (readBehindOpening fuel mode names branches items (opening, rest))
        (readBehindOpening fuel' mode names branches items (opening, rest')) := by
    cases opening with
    | switches mode => exact hbodies rest rest' hrest hle
    | group inner name =>
      refine .after fun names => follows_readBehindGroup hbodies (hbodies rest rest' hrest hle) ?_
      exact leaves_readBody.mono hle
  refine h.bind (fun opening rest rest' hread hrest => ?_) (fun hloose opening => ?_)
    fun b read hspent hread => ?_
  · exact hopening opening (.inl hrest) (hx opening rest hread)
  · exact hopening opening (.inr ⟨hloose, rfl, rfl⟩) (Nat.zero_le _)
  · obtain ⟨opening, rest⟩ := b
    obtain rfl : rest = [] := hspent
    cases opening with
    | switches mode => exact drained_of_nil hread
    | group inner name =>
      obtain ⟨names, -, hread⟩ := ok_of_bind hread
      obtain ⟨body, hbody, hread⟩ := ok_of_bind hread
      rw [readBehindGroup_of_drained (drained_of_nil hbody)] at hread
      cases hread

end Behind

theorem follows_readBody (h : Pasted loose cs cs') (hfuel : cs.length < fuel)
    (hfuel' : cs'.length < fuel') :
    Follows loose putBody Drained (readBody fuel mode names branches items cs)
      (readBody fuel' mode names branches items cs') := by
  induction fuel' generalizing fuel mode names branches items cs cs' with
  | zero => cases hfuel'
  | succ fuel' ih =>
    obtain ⟨fuel, rfl⟩ : ∃ n, fuel = n + 1 := ⟨fuel - 1, by omega⟩
    have hle := length_skip_le mode.ignoreWhitespace cs
    rcases pasted_skip h mode.ignoreWhitespace with hskip | ⟨hloose, hnil, hnil'⟩
    · generalize hds : skip mode.ignoreWhitespace cs = ds at hskip hle
      generalize hds' : skip mode.ignoreWhitespace cs' = ds' at hskip
      cases hskip with
      | nil =>
        -- the body ends with the source, right before the parenthesis
        rw [readBody_nil hds, readBody_closing hds']
        exact .same (a := (_, names)) .nil
      | @cons c rest rest' hrest hlast =>
        rw [List.length_cons] at hle
        have hlength := h.length
        -- both fuels are enough for what is left behind a character
        have hnext : BodiesFollow loose fuel fuel' rest.length := by
          intro mode names branches items behind behind' h hbehind
          rcases h with h | ⟨hloose, rfl, rfl⟩
          · exact ih h (by omega) (by have := h.length; omega)
          · rw [readBody_end (by omega), readBody_end (by omega)]
            exact .swallowed (a := (_, names)) hloose
        have hend (hloose : loose) : Level loose [] [] := .inr ⟨hloose, rfl, rfl⟩
        by_cases hclosing : c = ')'
        · subst hclosing
          rw [readBody_closing hds, readBody_closing hds']
          exact .same (a := (_, names)) (.cons hrest hlast)
        by_cases hbar : c = '|'
        · subst hbar
          rw [readBody_bar hds, readBody_bar hds']
          exact hnext rest rest' (.inl hrest) (Nat.le_refl _)
        by_cases hopen : c = '('
        · subst hopen
          rw [readBody_open hds, readBody_open hds']
          exact follows_readBehindOpening hnext (follows_readOpening hrest mode)
            (leaves_readOpening mode rest)
        by_cases hbrace : c = '\x7b'
        · subst hbrace
          rw [readBody_brace hds, readBody_brace hds']
          refine (follows_readBounds hrest mode.ignoreWhitespace).bind
            (fun bounds behind behind' hread hbehind => ?_) (fun hloose bounds => ?_) nofun
          · refine .after fun items => hnext behind behind' (.inl hbehind) ?_
            exact leaves_readBounds _ _ bounds behind hread
          · exact .after fun items => hnext [] [] (hend hloose) (Nat.zero_le _)
        rw [readBody_of_ne hds hclosing hbar hopen hbrace,
          readBody_of_ne hds' hclosing hbar hopen hbrace]
        split
        · obtain ⟨hshort, hbehind⟩ := pasted_readLazy hrest
          rw [hshort]
          exact .after fun items => hnext _ _ (.inl hbehind) (length_readLazy_le rest)
        · refine (follows_readAtom (.cons hrest hlast) mode).bind
            (fun item behind behind' hread hbehind => ?_)
            (fun hloose item => hnext [] [] (hend hloose) (Nat.zero_le _))
            fun b read hstray hread => drained_of_stray hstray hread
          exact hnext behind behind' (.inl hbehind) (leaves_readAtom mode _ item behind hread)
    · rw [readBody_nil hnil, readBody_nil hnil']
      exact .swallowed (a := (_, names)) hloose

end ReadBody

end DelimiterScan.Regex.Source
