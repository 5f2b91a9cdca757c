import DelimiterScan.Regex.Source.Number

/-!
# Reading a source with a parenthesis behind it

A source is set into a group by pasting: a closing parenthesis follows it. Each reader treats the
longer text as it does the source (`Follows`). Where it can read the source, it reads the same and
leaves the parenthesis, unless a comment swallows it. Where it cannot, it cannot read the longer
text either, or reads it to the end. So no reader takes a source for more than it is.
-/

namespace DelimiterScan.Regex.Source

open DelimiterScan.Text (hexValue?)

variable {α β γ δ : Type} {loose : Prop} {cs cs' : List Char}

/-! ## Texts with the parenthesis behind them -/

/-- The text `cs'` is `cs` with a closing parenthesis behind it. Unless the pasting is `loose`, a
line end comes before the parenthesis, so that no comment reaches it. -/
inductive Pasted (loose : Prop) : List Char → List Char → Prop
  | nil : Pasted loose [] [')']
  | cons {c : Char} {cs cs' : List Char} (h : Pasted loose cs cs')
      (hlast : cs = [] → loose ∨ c = '\n') : Pasted loose (c :: cs) (c :: cs')

namespace Pasted

theorem eq (h : Pasted loose cs cs') : cs' = cs ++ [')'] := by
  induction h with
  | nil => rfl
  | cons _ _ ih => rw [ih, List.cons_append]

theorem length (h : Pasted loose cs cs') : cs'.length = cs.length + 1 := by
  rw [h.eq, List.length_append, List.length_singleton]

theorem of_loose (h : loose) (cs : List Char) : Pasted loose cs (cs ++ [')']) := by
  induction cs with
  | nil => exact .nil
  | cons c cs ih => exact .cons ih fun _ => .inl h

theorem of_line (loose : Prop) (cs : List Char) :
    Pasted loose (cs ++ ['\n']) (cs ++ ['\n'] ++ [')']) := by
  induction cs with
  | nil => exact .cons .nil fun _ => .inr rfl
  | cons c cs ih => exact .cons ih fun h => absurd h (by simp)

theorem head?_eq_iff (h : Pasted loose cs cs') {d : Char} (hd : d ≠ ')') :
    cs.head? = some d ↔ cs'.head? = some d := by
  cases h with
  | nil => simpa using hd.symm
  | cons => exact Iff.rfl

theorem head?_ne (h : Pasted loose cs cs') {d : Char} (hd : d ≠ ')') (hne : cs.head? ≠ some d) :
    cs'.head? ≠ some d :=
  mt (h.head?_eq_iff hd).mpr hne

theorem dropWhile {p : Char → Bool} (hp : p ')' = false) (h : Pasted loose cs cs') :
    Pasted loose (cs.dropWhile p) (cs'.dropWhile p) := by
  induction h with
  | nil =>
    rw [List.dropWhile_nil, List.dropWhile_cons_of_neg (by simp [hp])]
    exact .nil
  | @cons c cs cs' h hlast ih =>
    by_cases hc : p c = true
    · rwa [List.dropWhile_cons_of_pos hc, List.dropWhile_cons_of_pos hc]
    · rw [List.dropWhile_cons_of_neg hc, List.dropWhile_cons_of_neg hc]
      exact .cons h hlast

end Pasted

theorem isBlank_closing : isBlank ')' = false := by decide +kernel

theorem skip_nil (spaced : Bool) : skip spaced [] = [] := by
  cases spaced <;> rfl

theorem skip_cons (spaced : Bool) {c : Char} (hblank : isBlank c = false) (hmark : c ≠ '#')
    (cs : List Char) : skip spaced (c :: cs) = c :: cs := by
  cases spaced with
  | false => rfl
  | true => simp [skip, dropBlanks, hblank, hmark]

theorem skip_brace (spaced : Bool) (cs : List Char) : skip spaced ('\x7b' :: cs) = '\x7b' :: cs :=
  skip_cons spaced (by decide +kernel) (by decide) cs

theorem skip_closing (spaced : Bool) : skip spaced [')'] = [')'] :=
  skip_cons spaced isBlank_closing (by decide) []

/-- A comment at the end swallows the parenthesis, unless a line end comes before it. -/
theorem pasted_dropBlanks (h : Pasted loose cs cs') (comment : Bool)
    (hcomment : comment = true → cs = [] → loose) :
    Pasted loose (dropBlanks comment cs) (dropBlanks comment cs') ∨
      loose ∧ dropBlanks comment cs = [] ∧ dropBlanks comment cs' = [] := by
  induction h generalizing comment with
  | nil =>
    cases comment with
    | true => exact .inr ⟨hcomment rfl rfl, rfl, rfl⟩
    | false =>
      refine .inl ?_
      simp only [dropBlanks, isBlank_closing]
      exact .nil
  | @cons c cs cs' h hlast ih =>
    cases comment with
    | true =>
      refine ih _ fun hopen hnil => (hlast hnil).resolve_right ?_
      simpa using hopen
    | false =>
      simp only [dropBlanks, Bool.false_eq_true, if_false]
      split
      · exact ih _ nofun
      · split
        · next hmark =>
          refine ih _ fun _ hnil => (hlast hnil).resolve_right ?_
          rintro rfl
          cases hmark
        · exact .inl (.cons h hlast)

/-- The one text has the parenthesis behind the other, or it has been swallowed and both are at
their end. -/
def Level (loose : Prop) (cs cs' : List Char) : Prop :=
  Pasted loose cs cs' ∨ loose ∧ cs = [] ∧ cs' = []

theorem pasted_skip (h : Pasted loose cs cs') (spaced : Bool) :
    Level loose (skip spaced cs) (skip spaced cs') := by
  cases spaced with
  | false => exact .inl h
  | true => exact pasted_dropBlanks h false nofun

theorem Level.skip (h : Level loose cs cs') (spaced : Bool) :
    Level loose (Source.skip spaced cs) (Source.skip spaced cs') := by
  rcases h with h | ⟨hloose, rfl, rfl⟩
  · exact pasted_skip h spaced
  · rw [skip_nil]
    exact .inr ⟨hloose, rfl, rfl⟩

theorem length_dropBlanks_le (comment : Bool) (cs : List Char) :
    (dropBlanks comment cs).length ≤ cs.length := by
  induction cs generalizing comment with
  | nil => exact Nat.le_refl _
  | cons c cs ih =>
    unfold dropBlanks
    split
    · exact Nat.le_succ_of_le (ih _)
    · split
      · exact Nat.le_succ_of_le (ih _)
      · split
        · exact Nat.le_succ_of_le (ih _)
        · exact Nat.le_refl _

theorem length_skip_le (spaced : Bool) (cs : List Char) : (skip spaced cs).length ≤ cs.length := by
  cases spaced with
  | false => exact Nat.le_refl _
  | true => exact length_dropBlanks_le false cs

/-! ## What readers make of both texts -/

theorem ok_of_bind {x : Except Fault α} {f : α → Except Fault β} {b : β} (h : x >>= f = .ok b) :
    ∃ a, x = .ok a ∧ f a = .ok b := by
  cases x with
  | error e => cases h
  | ok a => exact ⟨a, rfl, h⟩

theorem bind_of_ok {x : Except Fault α} {a : α} (hx : x = .ok a) (f : α → Except Fault β) :
    x >>= f = f a := by
  rw [hx]
  rfl

theorem toOption_eq_some_iff {ε : Type} {x : Except ε α} {a : α} :
    x.toOption = some a ↔ x = .ok a := by
  cases x with
  | error e => exact ⟨nofun, nofun⟩
  | ok b => exact ⟨fun h => congrArg _ (Option.some.inj h), fun h => congrArg _ (Except.ok.inj h)⟩

/-- What a reader leaves is not longer than `n`. -/
def Leaves (put : α → List Char → β) (n : Nat) (x : Except Fault β) : Prop :=
  ∀ a rest, x = .ok (put a rest) → rest.length ≤ n

/-- What a reader makes of a text, and what it makes of it with the parenthesis behind it. What is
`Lost` is read of the longer text alone. -/
inductive Follows (loose : Prop) (put : α → List Char → β) (Lost : β → Prop) :
    Except Fault β → Except Fault β → Prop
  | same {a : α} {rest rest' : List Char} (h : Pasted loose rest rest') :
      Follows loose put Lost (.ok (put a rest)) (.ok (put a rest'))
  | swallowed {a : α} (h : loose) : Follows loose put Lost (.ok (put a [])) (.ok (put a []))
  | failed {e e' : Fault} : Follows loose put Lost (.error e) (.error e')
  | lost {e : Fault} {b : β} (h : Lost b) : Follows loose put Lost (.error e) (.ok b)

namespace Leaves

variable {put : γ → List Char → δ} {n m : Nat}

theorem error {e : Fault} : Leaves put n (.error e) := nofun

theorem mono {x : Except Fault δ} (h : Leaves put n x) (hle : n ≤ m) : Leaves put m x :=
  fun a rest hx => Nat.le_trans (h a rest hx) hle

theorem ok {a : α} {rest : List Char} (h : rest.length ≤ n) : Leaves Prod.mk n (.ok (a, rest)) := by
  intro _ _ hsame
  cases hsame
  exact h

theorem bind {x : Except Fault (α × List Char)} {f : α × List Char → Except Fault δ}
    (h : Leaves Prod.mk n x) (hf : ∀ a rest, rest.length ≤ n → Leaves put m (f (a, rest))) :
    Leaves put m (x >>= f) := by
  cases x with
  | error e => exact .error
  | ok b => exact hf b.1 b.2 (h b.1 b.2 rfl)

/-- What comes before does not read. -/
theorem after {x : Except Fault α} {f : α → Except Fault δ} (hf : ∀ a, Leaves put n (f a)) :
    Leaves put n (x >>= f) := by
  cases x with
  | error e => exact .error
  | ok a => exact hf a

end Leaves

namespace Follows

variable {put : α → List Char → β} {Lost : β → Prop} {put' : γ → List Char → δ} {Lost' : δ → Prop}
  {x x' : Except Fault β} {f f' : β → Except Fault δ}

/-- What follows on what has been read. -/
theorem bind (h : Follows loose put Lost x x')
    (hsame : ∀ a rest rest', x = .ok (put a rest) → Pasted loose rest rest' →
      Follows loose put' Lost' (f (put a rest)) (f' (put a rest')))
    (hswallowed : loose → ∀ a, Follows loose put' Lost' (f (put a [])) (f' (put a [])))
    (hlost : ∀ b c, Lost b → f' b = .ok c → Lost' c) :
    Follows loose put' Lost' (x >>= f) (x' >>= f') := by
  cases h with
  | same h => exact hsame _ _ _ rfl h
  | swallowed h => exact hswallowed h _
  | failed => exact .failed
  | @lost e b h =>
    show Follows loose put' Lost' (.error e) (f' b)
    cases hb : f' b with
    | error e' => exact .failed
    | ok c => exact .lost (hlost b c h hb)

/-- What can be read of the text is read of the longer one too. -/
theorem exists_ok (h : Follows loose put Lost x x') {b : β} (hx : x = .ok b) :
    ∃ a rest rest', b = put a rest ∧ x' = .ok (put a rest') ∧ Level loose rest rest' := by
  cases h with
  | same h =>
    cases hx
    exact ⟨_, _, _, rfl, rfl, .inl h⟩
  | swallowed h =>
    cases hx
    exact ⟨_, _, _, rfl, rfl, .inr ⟨h, rfl, rfl⟩⟩
  | failed => cases hx
  | lost => cases hx

theorem lost_of_error (h : Follows loose put Lost x x') {e : Fault} (hx : x = .error e) {b : β}
    (hx' : x' = .ok b) : Lost b := by
  cases h with
  | same | swallowed => cases hx
  | failed => cases hx'
  | lost h =>
    cases hx'
    exact h

theorem mono {Lost'' : β → Prop} (h : Follows loose put Lost x x')
    (himp : ∀ b, Lost b → Lost'' b) : Follows loose put Lost'' x x' := by
  cases h with
  | same h => exact .same h
  | swallowed h => exact .swallowed h
  | failed => exact .failed
  | lost h => exact .lost (himp _ h)

/-- What comes before does not read. -/
theorem after {x : Except Fault α} {f f' : α → Except Fault δ}
    (hf : ∀ a, Follows loose put' Lost' (f a) (f' a)) :
    Follows loose put' Lost' (x >>= f) (x >>= f') := by
  cases x with
  | error e => exact .failed
  | ok a => exact hf a

/-- A reader that begins behind blanks and comments. -/
theorem skip {f f' : List Char → Except Fault β} (h : Pasted loose cs cs') (spaced : Bool)
    (hsame : ∀ cs cs', Pasted loose cs cs' → Follows loose put Lost (f cs) (f' cs'))
    (hswallowed : loose → Follows loose put Lost (f []) (f' [])) :
    Follows loose put Lost (f (skip spaced cs)) (f' (skip spaced cs')) := by
  rcases pasted_skip h spaced with hskip | ⟨hloose, hnil, hnil'⟩
  · exact hsame _ _ hskip
  · rw [hnil, hnil']
    exact hswallowed hloose

theorem ok_skip {Lost : α × List Char → Prop} (h : Pasted loose cs cs') (spaced : Bool) (a : α) :
    Follows loose Prod.mk Lost (.ok (a, Source.skip spaced cs))
      (.ok (a, Source.skip spaced cs')) := by
  rcases pasted_skip h spaced with hskip | ⟨hloose, hnil, hnil'⟩
  · exact .same hskip
  · rw [hnil, hnil']
    exact .swallowed hloose

end Follows

/-! ## Characters that pass a test -/

theorem collect_nil (spaced : Bool) (test : Char → Bool) (fuel : Nat) :
    collect spaced test fuel [] = ([], []) := by
  cases fuel <;> rfl

theorem length_collect_le (spaced : Bool) (test : Char → Bool) (fuel : Nat) (cs : List Char) :
    (collect spaced test fuel cs).2.length ≤ cs.length := by
  induction fuel generalizing cs with
  | zero => exact Nat.le_refl _
  | succ fuel ih =>
    cases cs with
    | nil => exact Nat.le_refl _
    | cons c cs =>
      rw [collect]
      split
      · exact Nat.le_succ_of_le (Nat.le_trans (ih _) (length_skip_le spaced cs))
      · exact Nat.le_refl _

theorem collect_closing (spaced : Bool) (test : Char → Bool) (fuel : Nat) :
    collect spaced test (fuel + 1) [')'] = if test ')' then ([')'], []) else ([], [')']) := by
  rw [collect, skip_nil, collect_nil]

/-- The same characters are taken, unless all of the text is. Then the parenthesis is taken too if
it passes the test. -/
theorem pasted_collect (h : Pasted loose cs cs') (spaced : Bool) (test : Char → Bool)
    {fuel fuel' : Nat} (hfuel : cs.length ≤ fuel) (hfuel' : cs'.length ≤ fuel') :
    (∃ taken rest rest', collect spaced test fuel cs = (taken, rest) ∧
      collect spaced test fuel' cs' = (taken, rest') ∧ Pasted loose rest rest') ∨
    ∃ taken taken', collect spaced test fuel cs = (taken, []) ∧
      collect spaced test fuel' cs' = (taken', []) ∧
      (test ')' = false → loose ∧ taken = taken') := by
  induction fuel' generalizing fuel cs cs' with
  | zero =>
    rw [h.length] at hfuel'
    cases hfuel'
  | succ fuel' ih =>
    cases h with
    | nil =>
      rw [collect_nil, collect_closing]
      by_cases htest : test ')' = true
      · rw [if_pos htest]
        exact .inr ⟨_, _, rfl, rfl, fun hfalse => by simp [htest] at hfalse⟩
      · rw [if_neg htest]
        exact .inl ⟨_, _, _, rfl, rfl, .nil⟩
    | @cons c cs cs' h hlast =>
      rw [List.length_cons] at hfuel hfuel'
      obtain ⟨fuel, rfl⟩ : ∃ n, fuel = n + 1 := ⟨fuel - 1, by omega⟩
      rw [collect, collect]
      by_cases htest : test c = true
      · rw [if_pos htest, if_pos htest]
        have hle := length_skip_le spaced cs
        have hle' := length_skip_le spaced cs'
        rcases pasted_skip h spaced with hskip | ⟨hloose, hnil, hnil'⟩
        · have hfuel : (skip spaced cs).length ≤ fuel := by omega
          rcases ih hskip hfuel (by omega) with
            ⟨taken, rest, rest', hcs, hcs', hrest⟩ | ⟨taken, taken', hcs, hcs', hsame⟩
          · rw [hcs, hcs']
            exact .inl ⟨_, _, _, rfl, rfl, hrest⟩
          · rw [hcs, hcs']
            refine .inr ⟨_, _, rfl, rfl, fun hfalse => ?_⟩
            obtain ⟨hloose, rfl⟩ := hsame hfalse
            exact ⟨hloose, rfl⟩
        · rw [hnil, hnil', collect_nil, collect_nil]
          exact .inr ⟨_, _, rfl, rfl, fun _ => ⟨hloose, rfl⟩⟩
      · rw [if_neg htest, if_neg htest]
        exact .inl ⟨_, _, _, rfl, rfl, .cons h hlast⟩

/-- As `pasted_collect`, behind blanks and comments. -/
theorem pasted_collect_skip (h : Pasted loose cs cs') (spaced : Bool) (test : Char → Bool) :
    (∃ taken rest rest', collect spaced test cs.length (skip spaced cs) = (taken, rest) ∧
      collect spaced test cs'.length (skip spaced cs') = (taken, rest') ∧
      Pasted loose rest rest') ∨
    ∃ taken taken', collect spaced test cs.length (skip spaced cs) = (taken, []) ∧
      collect spaced test cs'.length (skip spaced cs') = (taken', []) := by
  rcases pasted_skip h spaced with hskip | ⟨-, hnil, hnil'⟩
  · rcases pasted_collect hskip spaced test (length_skip_le spaced cs)
      (length_skip_le spaced cs') with hsame | ⟨taken, taken', hcs, hcs', -⟩
    · exact .inl hsame
    · exact .inr ⟨taken, taken', hcs, hcs'⟩
  · rw [hnil, hnil', collect_nil, collect_nil]
    exact .inr ⟨[], [], rfl, rfl⟩

/-! ## Numbers -/

def Never (_ : β) : Prop := False

/-- All of the longer text is read. -/
def Spent (b : α × List Char) : Prop := b.2 = []

theorem Follows.of_spent {Lost : α × List Char → Prop} (h : loose)
    {x : Except Fault (α × List Char)} (hx : Leaves Prod.mk 0 x) :
    Follows loose Prod.mk Lost x x := by
  cases x with
  | error e => exact .failed
  | ok b =>
    obtain ⟨a, rest⟩ := b
    obtain rfl : rest = [] := List.eq_nil_of_length_eq_zero (Nat.le_zero.mp (hx a rest rfl))
    exact .swallowed h

theorem length_dropWhile_le (p : Char → Bool) (cs : List Char) :
    (cs.dropWhile p).length ≤ cs.length :=
  (List.dropWhile_suffix p).length_le

theorem leaves_readBound (spaced : Bool) (cs : List Char) :
    Leaves Prod.mk cs.length (readBound spaced cs) := by
  intro n rest h
  have hcollect := length_collect_le spaced Char.isDigit cs.length (cs.dropWhile isBlank)
  unfold readBound at h
  generalize collect spaced Char.isDigit cs.length (cs.dropWhile isBlank) = taken at h hcollect
  obtain ⟨digits, behind⟩ := taken
  dsimp only at h hcollect
  split at h
  · cases h
  · cases h
    exact Nat.le_trans (length_skip_le _ _) (Nat.le_trans (length_dropWhile_le _ _)
      (Nat.le_trans hcollect (length_dropWhile_le _ _)))

/-- The parenthesis is no bound. -/
theorem readBound_closing (spaced : Bool) : readBound spaced [')'] = .error .repetitionBounds := by
  unfold readBound
  rw [List.dropWhile_cons_of_neg (by simp [isBlank_closing])]
  rfl

theorem follows_readBound (h : Pasted loose cs cs') (spaced : Bool) :
    Follows loose Prod.mk Never (readBound spaced cs) (readBound spaced cs') := by
  have hle := length_dropWhile_le isBlank cs
  have hle' := length_dropWhile_le isBlank cs'
  unfold readBound
  rcases pasted_collect (h.dropWhile isBlank_closing) spaced Char.isDigit hle hle' with
    ⟨digits, rest, rest', hcs, hcs', hrest⟩ | ⟨digits, digits', hcs, hcs', hsame⟩
  · rw [hcs, hcs']
    dsimp only
    split
    · exact .failed
    · rcases pasted_skip (hrest.dropWhile isBlank_closing) spaced with hskip | ⟨hloose, hnil, hnil'⟩
      · exact .same hskip
      · rw [hnil, hnil']
        exact .swallowed hloose
  · obtain ⟨hloose, rfl⟩ := hsame rfl
    rw [hcs, hcs']
    dsimp only
    split
    · exact .failed
    · rw [List.dropWhile_nil, skip_nil]
      exact .swallowed hloose

theorem leaves_readHexDigits (spaced : Bool) (n : Nat) (cs : List Char) :
    Leaves Prod.mk cs.length (readHexDigits spaced n cs) := by
  induction n generalizing cs with
  | zero => exact .ok (Nat.le_refl _)
  | succ n ih =>
    cases cs with
    | nil => exact .error
    | cons c cs =>
      rw [readHexDigits]
      split
      · exact .error
      · refine (ih (skip spaced cs)).bind fun digits rest hrest => .ok ?_
        exact Nat.le_succ_of_le (Nat.le_trans hrest (length_skip_le spaced cs))

theorem follows_readHexDigits (h : Pasted loose cs cs') (spaced : Bool) (n : Nat) :
    Follows loose Prod.mk Never (readHexDigits spaced n cs) (readHexDigits spaced n cs') := by
  induction n generalizing cs cs' with
  | zero => exact .same h
  | succ n ih =>
    cases h with
    | nil => exact .failed
    | @cons c cs cs' h hlast =>
      rw [readHexDigits, readHexDigits]
      split
      · exact .failed
      · have hdigits := Follows.skip h spaced (fun _ _ => ih) fun hloose =>
          .of_spent hloose (leaves_readHexDigits spaced n [])
        refine hdigits.bind (fun digits rest rest' _ hrest => ?_) (fun hloose digits => ?_) nofun
        · exact .same hrest
        · exact .swallowed hloose

theorem leaves_readCode (spaced : Bool) (n : Nat) (cs : List Char) :
    Leaves Prod.mk cs.length (readCode spaced n cs) := by
  unfold readCode
  split
  · next cs =>
    have hcollect := length_collect_le spaced (hexValue? · |>.isSome) cs.length (skip spaced cs)
    have hskip := length_skip_le spaced cs
    split
    · next digits rest hdigits =>
      rw [hdigits, List.length_cons] at hcollect
      have hrest := length_skip_le spaced rest
      exact .after fun c => .ok (by rw [List.length_cons]; omega)
    · exact .error
  · refine (leaves_readHexDigits spaced n cs).bind fun digits rest hrest => ?_
    exact .after fun c => .ok hrest

theorem readCode_brace (spaced : Bool) (n : Nat) (cs : List Char) :
    readCode spaced n ('\x7b' :: cs) =
      match collect spaced (hexValue? · |>.isSome) cs.length (skip spaced cs) with
      | (digits, '\x7d' :: rest) => do return (← charOfCode digits, skip spaced rest)
      | _ => .error .characterCode :=
  rfl

theorem readCode_of_ne (spaced : Bool) (n : Nat) (h : cs.head? ≠ some '\x7b') :
    readCode spaced n cs =
      readHexDigits spaced n cs >>= fun b => return (← charOfCode b.1, b.2) := by
  unfold readCode
  split
  · exact absurd rfl h
  · rfl

theorem follows_readCode_brace (h : Pasted loose cs cs') (spaced : Bool) (n : Nat) :
    Follows loose Prod.mk Never (readCode spaced n ('\x7b' :: cs))
      (readCode spaced n ('\x7b' :: cs')) := by
  rw [readCode_brace, readCode_brace]
  rcases pasted_collect_skip h spaced (hexValue? · |>.isSome) with
    ⟨digits, rest, rest', hcs, hcs', hrest⟩ | ⟨digits, digits', hcs, hcs'⟩
  · rw [hcs, hcs']
    cases hrest with
    | nil => exact .failed
    | @cons c rest rest' hrest hlast =>
      by_cases hc : c = '\x7d'
      · subst hc
        exact .after fun c => .ok_skip hrest spaced c
      · split
        · next heq =>
          cases heq
          exact absurd rfl hc
        · split
          · next heq =>
            cases heq
            exact absurd rfl hc
          · exact .failed
  · rw [hcs, hcs']
    exact .failed

theorem follows_readCode (h : Pasted loose cs cs') (spaced : Bool) (n : Nat) :
    Follows loose Prod.mk Never (readCode spaced n cs) (readCode spaced n cs') := by
  have hdigits : Follows loose Prod.mk Never
      (readHexDigits spaced n cs >>= fun b => return (← charOfCode b.1, b.2))
      (readHexDigits spaced n cs' >>= fun b => return (← charOfCode b.1, b.2)) := by
    refine (follows_readHexDigits h spaced n).bind (fun digits rest rest' _ hrest => ?_)
      (fun hloose digits => ?_) nofun
    · exact .after fun c => .same hrest
    · exact .after fun c => .swallowed hloose
  cases h with
  | nil => exact hdigits
  | @cons c cs cs' h hlast =>
    by_cases hc : c = '\x7b'
    · subst hc
      exact follows_readCode_brace h spaced n
    · rwa [readCode_of_ne spaced n (by simpa using hc), readCode_of_ne spaced n (by simpa using hc)]

end DelimiterScan.Regex.Source
